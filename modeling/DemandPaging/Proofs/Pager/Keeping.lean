import DemandPaging.Proofs.Pager.Frames
import DemandPaging.Proofs.Pager.Mapping
import DemandPaging.Proofs.Pager.Occupancy
import DemandPaging.Proofs.Pager.Refreshing

/-!
# What operations keep

Three relations say what an operation as a whole leaves of a pager: it stays
within its space (`Confined`), it is not seen by user code (`Keeps`), or it is
not seen and has taken a frame that it will use (`Borrows`).

`Ready` is what an operation finds and leaves.  Besides the agreement of the
parts it has the ceiling of resident pages, how far the clock may still
advance, and, unless any fatal end is put up with, what keeps the checks of the
operations from ending the run.
-/

namespace DemandPaging

/-- An entry as operations expect it: a page can be read, and is not both in
memory and in swap. -/
structure Entry.IsStrict (entry : Entry) : Prop where
  readable : entry.isPresent = true → entry.flags.read = true
  exclusive : entry.isValid = true → entry.isPagedOut = false

theorem Entry.isValid_of_isPagedOut {entry : Entry}
    (exclusive : entry.isValid = true → entry.isPagedOut = false)
    (isPagedOut : entry.isPagedOut = true) : entry.isValid = false := by
  by_contra isValid
  rw [Bool.not_eq_false] at isValid
  cases (exclusive isValid).symm.trans isPagedOut

theorem Entry.not_both {entry : Entry}
    (exclusive : entry.isValid = true → entry.isPagedOut = false) :
    (!(entry.isValid && entry.isPagedOut)) = true := by
  cases isValid : entry.isValid with
  | false => rfl
  | true =>
      rw [exclusive isValid]
      rfl

theorem Entry.isLeaf_of_read {entry : Entry}
    (isRead : entry.flags.read = true) : entry.isLeaf = true := by
  refine decide_eq_true fun bare => ?_
  rw [bare] at isRead
  cases isRead

namespace Entry.IsStrict

variable {flags : Flags} {frame : Nat} {entry after : Entry}

theorem empty : Entry.empty.IsStrict :=
  ⟨fun isPresent => (nomatch isPresent), fun isValid => (nomatch isValid)⟩

theorem pagedOut (isRead : flags.read = true) :
    (Entry.pagedOut flags).IsStrict :=
  ⟨fun _ => isRead, fun isValid => nomatch isValid⟩

theorem resident (isRead : flags.read = true) :
    (Entry.resident frame flags).IsStrict :=
  ⟨fun _ => isRead, fun _ => rfl⟩

theorem settled (isRead : entry.flags.read = true) :
    ((entry.remove { pagedOut := true }).insert { valid := true }).IsStrict
    where
  readable _ := by
    simp [Entry.insert, Entry.remove, Flags.union, Flags.difference, isRead]
  exclusive _ := by
    simp [Entry.isPagedOut, Entry.insert, Entry.remove, Flags.union,
      Flags.difference]

theorem withdrawn (isStrict : entry.IsStrict) :
    (entry.remove { user := true }).IsStrict where
  readable isPresent := by
    have wasPresent : entry.isPresent = true := by
      simpa [Entry.isPresent, Entry.isValid, Entry.isPagedOut, Entry.remove,
        Flags.difference] using isPresent
    simp [Entry.remove, Flags.difference, isStrict.readable wasPresent]
  exclusive isValid := by
    have wasValid : entry.isValid = true := by
      simpa [Entry.isValid, Entry.remove, Flags.difference] using isValid
    simpa [Entry.isPagedOut, Entry.remove, Flags.difference] using
      isStrict.exclusive wasValid

theorem of_sameButMarks (isStrict : entry.IsStrict)
    (same : entry.SameButMarks after) : after.IsStrict where
  readable isPresent := by
    have isRead := congrArg Flags.read same.permissions
    simp only [Flags.permissions] at isRead
    rw [isRead]
    apply isStrict.readable
    rw [Entry.isPresent, same.isValid, same.isPagedOut] at isPresent
    exact isPresent
  exclusive isValid := by
    rw [same.isPagedOut]
    exact isStrict.exclusive (same.isValid ▸ isValid)

end Entry.IsStrict

namespace Pager

variable {pager before middle after : Pager} {pending : Option Nat}
  {address page slot frame taken time ticks : Nat} {contents held : Page}
  {flags : Flags} {frames : FramePool} {table : PageTable} {ledger : Ledger}

/-- The sizes and the frames of others are as before. -/
structure Confined (before after : Pager) : Prop where
  shape : before.SameShape after
  unowned : ∀ frame contents,
    after.Unowned frame contents ↔ before.Unowned frame contents

/-- Moreover, user code sees the same memory. -/
structure Keeps (before after : Pager) : Prop extends
    before.Confined after where
  logicalPage? : ∀ address,
    after.logicalPage? address = before.logicalPage? address

/-- User code sees the same memory, and there is one more frame, `frame`, with
the contents `contents`, that no page is in. -/
structure Borrows (before after : Pager) (frame : Nat) (contents : Page) :
    Prop where
  shape : before.SameShape after
  logicalPage? : ∀ address,
    after.logicalPage? address = before.logicalPage? address
  fresh : ∀ held, ¬before.Unowned frame held
  unowned : ∀ other held, after.Unowned other held ↔
    before.Unowned other held ∨ other = frame ∧ held = contents

namespace Confined

theorem refl (pager : Pager) : pager.Confined pager :=
  ⟨.refl pager, fun _ _ => Iff.rfl⟩

theorem trans (first : before.Confined middle)
    (second : middle.Confined after) : before.Confined after where
  shape := first.shape.trans second.shape
  unowned frame contents :=
    (second.unowned frame contents).trans (first.unowned frame contents)

end Confined

namespace Keeps

theorem refl (pager : Pager) : pager.Keeps pager :=
  ⟨.refl pager, fun _ => rfl⟩

theorem trans (first : before.Keeps middle) (second : middle.Keeps after) :
    before.Keeps after where
  toConfined := first.toConfined.trans second.toConfined
  logicalPage? address :=
    (second.logicalPage? address).trans (first.logicalPage? address)

end Keeps

namespace Borrows

theorem lent (borrows : before.Borrows after frame contents) :
    after.Unowned frame contents :=
  (borrows.unowned frame contents).mpr (.inr ⟨rfl, rfl⟩)

theorem of_keeps (borrows : before.Borrows middle frame contents)
    (keeps : middle.Keeps after) : before.Borrows after frame contents where
  shape := borrows.shape.trans keeps.shape
  logicalPage? address :=
    (keeps.logicalPage? address).trans (borrows.logicalPage? address)
  fresh := borrows.fresh
  unowned other held :=
    (keeps.unowned other held).trans (borrows.unowned other held)

/-- Once the frame is taken out again, whether given back or put to use, the
frames of others are as before. -/
theorem unowned_of_settled (borrows : before.Borrows middle frame contents)
    (settled : ∀ other held, after.Unowned other held ↔
      middle.Unowned other held ∧ other ≠ frame) (other : Nat) (held : Page) :
    after.Unowned other held ↔ before.Unowned other held := by
  rw [settled, borrows.unowned]
  constructor
  · rintro ⟨known | ⟨rfl, _⟩, different⟩
    · exact known
    · exact absurd rfl different
  · intro known
    refine ⟨.inl known, ?_⟩
    rintro rfl
    exact borrows.fresh held known

theorem release (borrows : before.Borrows middle frame contents)
    (sound : middle.Sound pending) :
    ∃ frames, middle.frames.release frame = .ok frames ∧
      middle.HeldBy frames ∧ before.Keeps { middle with frames } := by
  obtain ⟨frames, released, heldBy, settled⟩ :=
    heldBy_of_release sound borrows.lent
  refine ⟨frames, released, heldBy, ?_⟩
  exact {
    shape := borrows.shape.trans heldBy.sameShape
    unowned := borrows.unowned_of_settled settled
    logicalPage? := fun address =>
      (heldBy.logicalPage? address).trans (borrows.logicalPage? address) }

/-- The frame is written. -/
theorem write (borrows : before.Borrows middle frame contents)
    (sound : middle.Sound pending) (bytes : List UInt8) :
    ∃ frames, middle.frames.write frame bytes = .ok frames ∧
      middle.HeldBy frames ∧ before.Borrows { middle with frames } frame
        (contents.overwrite 0 bytes) := by
  obtain ⟨frames, written, heldBy, shown⟩ :=
    heldBy_of_write sound borrows.lent bytes
  refine ⟨frames, written, heldBy, ?_⟩
  exact {
    shape := borrows.shape.trans heldBy.sameShape
    logicalPage? := fun address =>
      (heldBy.logicalPage? address).trans (borrows.logicalPage? address)
    fresh := borrows.fresh
    unowned := by
      intro other held
      rw [shown, borrows.unowned]
      by_cases isTaken : other = frame
      · subst isTaken
        rw [if_pos rfl]
        constructor
        · exact fun same => .inr ⟨rfl, same⟩
        · rintro (known | ⟨_, same⟩)
          · exact absurd known (borrows.fresh held)
          · exact same
      · rw [if_neg isTaken]
        simp [isTaken] }

end Borrows

theorem borrows_of_allocate (sound : pager.Sound pending)
    (lent : pager.frames.allocate = (some taken, frames)) :
    pager.HeldBy frames ∧ pager.Borrows { pager with frames } taken
      (Page.filled FramePool.lentJunk) := by
  have heldBy := heldBy_of_allocate sound lent
  obtain ⟨isFree, _⟩ := FramePool.contents?_allocate sound.frames lent
  refine ⟨heldBy, heldBy.sameShape, heldBy.logicalPage?, ?_, fun _ _ =>
    unowned_allocate_iff sound lent⟩
  rintro held ⟨isLent, _⟩
  cases isFree.symm.trans isLent

theorem Sound.address_point (sound : pager.Sound pending)
    (unowned : pager.Unowned frame contents) (flags : Flags) :
    (Entry.point frame flags).address = frame := by
  obtain ⟨aligned, bounded⟩ :=
    FramePool.bounded_of_contents? sound.fits.total_le unowned.1
  rw [Entry.address_point bounded, aligned]

theorem Refreshes.logicalPage? (refreshes : pager.Refreshes table ledger ticks)
    (address : Nat) :
    ({ pager with table, ledger } : Pager).logicalPage? address =
      pager.logicalPage? address :=
  refreshes.relabels.logicalPage? (refreshes.marks address).permissions

theorem Refreshes.keeps (refreshes : pager.Refreshes table ledger ticks) :
    pager.Keeps { pager with table, ledger } where
  shape := refreshes.relabels.shape
  unowned _ _ := refreshes.relabels.unowned_iff
  logicalPage? := refreshes.logicalPage?

/-- Every page has an entry that operations expect, and no claimed slot is too
high for its offset. -/
structure Strict (pager : Pager) : Prop where
  entries : ∀ address, (pager.entryAt address).IsStrict
  slot_le : ∀ slot, pager.swap.isClaimed slot = true →
    slot ≤ addressLimit / pageSize

theorem offset_lt (slot_le : slot ≤ addressLimit / pageSize) :
    slot * pageSize < Word.limit := by
  simp only [addressLimit, pageSize, Word.limit] at *
  omega

theorem Sound.slot_le_of_claim (sound : pager.Sound pending)
    {swap : SwapSpace} (claimed : pager.swap.claim = (some slot, swap)) :
    slot ≤ addressLimit / pageSize :=
  Nat.le_trans (SwapSpace.le_inUse_of_claim sound.swap claimed)
    sound.inUse_le_pages

namespace Strict

/-- Entries and slots that are new have to be as they should. -/
theorem of_changes (strict : before.Strict)
    (entries : ∀ address, after.entryAt address = before.entryAt address ∨
      (after.entryAt address).IsStrict)
    (slots : ∀ slot, after.swap.isClaimed slot = true →
      before.swap.isClaimed slot = true ∨
        slot ≤ addressLimit / pageSize) : after.Strict where
  entries address := by
    rcases entries address with same | isStrict
    · rw [same]
      exact strict.entries address
    · exact isStrict
  slot_le slot claimed := by
    rcases slots slot claimed with before | low
    · exact strict.slot_le slot before
    · exact low

theorem withFrames (strict : pager.Strict) :
    ({ pager with frames } : Pager).Strict :=
  ⟨strict.entries, strict.slot_le⟩

theorem refresh (strict : pager.Strict)
    (refreshes : pager.Refreshes table ledger ticks) :
    ({ pager with table, ledger } : Pager).Strict where
  entries address := (strict.entries address).of_sameButMarks
    (refreshes.marks address)
  slot_le := strict.slot_le

theorem swapsOut (strict : before.Strict)
    (moves : before.SwapsOut after page slot)
    (slot_le : slot ≤ addressLimit / pageSize)
    (isPresent : (before.entryAt page).isPresent = true) : after.Strict := by
  refine strict.of_changes (fun address => ?_) fun other claimed => ?_
  · rw [moves.entryAt]
    split
    · exact .inr (.pagedOut ((strict.entries page).readable isPresent))
    · exact .inl rfl
  · rw [moves.isClaimed] at claimed
    split at claimed
    · rename_i same
      rw [same]
      exact .inr slot_le
    · exact .inl claimed

theorem swapsIn (strict : before.Strict)
    (moves : before.SwapsIn after page slot frame)
    (isPresent : (before.entryAt page).isPresent = true) : after.Strict := by
  refine strict.of_changes (fun address => ?_) fun other claimed => ?_
  · rw [moves.entryAt]
    split
    · exact .inr (.resident ((strict.entries page).readable isPresent))
    · exact .inl rfl
  · rw [moves.isClaimed] at claimed
    split at claimed
    · cases claimed
    · exact .inl claimed

theorem maps (strict : before.Strict)
    (moves : before.Maps after page frame flags)
    (isRead : flags.read = true) (notPagedOut : flags.pagedOut = false) :
    after.Strict := by
  refine strict.of_changes (fun address => ?_) fun other claimed => ?_
  · rw [moves.entryAt]
    split
    · exact .inr ⟨fun _ => isRead, fun _ => notPagedOut⟩
    · exact .inl rfl
  · rw [moves.swap] at claimed
    exact .inl claimed

theorem settles (strict : before.Strict)
    (moves : before.Settles after page) : after.Strict := by
  refine strict.of_changes (fun address => ?_) fun other claimed => ?_
  · rw [moves.entryAt]
    split
    · exact .inr (.settled ((strict.entries page).readable
        (isPresent_of_isValid moves.isValid)))
    · exact .inl rfl
  · rw [moves.swap] at claimed
    exact .inl claimed

theorem forgets (strict : before.Strict)
    (moves : before.Forgets after page) : after.Strict := by
  refine strict.of_changes (fun address => ?_) fun other claimed => ?_
  · rw [moves.entryAt]
    split
    · exact .inr .empty
    · exact .inl rfl
  · exact .inl ((moves.isClaimed other).mp claimed).1

end Strict

/-- Which causes may end a run, and how far its clock may go. -/
structure Terms where
  fatal : Fatal → Prop
  total : Nat

/-- Is every cause put up with? -/
def Terms.IsLax (terms : Terms) : Prop :=
  ∀ cause, terms.fatal cause

variable {terms : Terms}

/-- The parts are in order, the ceiling is kept, and the clock may advance by
`time` more ticks. -/
structure Ready (terms : Terms) (time : Nat) (pending : Option Nat)
    (pager : Pager) : Prop where
  sound : pager.Sound pending
  ceiling : pager.ledger.residentCount ≤ pager.ledger.maxResident
  strict : terms.IsLax ∨ pager.Strict
  time_le : pager.ledger.generation + time ≤ terms.total
  overflow : pager.config.policy = .scfifo → 0 < time →
    Word.limit ≤ terms.total → terms.fatal .overflow

namespace Ready

theorem weaken {more : Nat} (ready : pager.Ready terms more pending)
    (le : time ≤ more) : pager.Ready terms time pending :=
  { ready with
    time_le := Nat.le_trans (Nat.add_le_add_left le _) ready.time_le
    overflow := fun policy positive =>
      ready.overflow policy (Nat.lt_of_lt_of_le positive le) }

theorem excuse (ready : pager.Ready terms time pending) {cause : Fatal}
    (ruledOut : ¬pager.Strict) : terms.fatal cause :=
  ready.strict.elim (fun lax => lax cause) fun strict =>
    absurd strict ruledOut

theorem withFrames (ready : pager.Ready terms time pending)
    (heldBy : pager.HeldBy frames) :
    ({ pager with frames } : Pager).Ready terms time pending where
  sound := heldBy.sound ready.sound
  ceiling := ready.ceiling
  strict := ready.strict.imp_right Strict.withFrames
  time_le := ready.time_le
  overflow := ready.overflow

theorem refresh (ready : pager.Ready terms (time + ticks) pending)
    (refreshes : pager.Refreshes table ledger ticks) :
    ({ pager with table, ledger } : Pager).Ready terms time pending where
  sound := refreshes.sound ready.sound
  ceiling := by
    dsimp only
    rw [refreshes.ranks.residentCount, refreshes.ranks.maxResident]
    exact ready.ceiling
  strict := ready.strict.imp_right fun strict => strict.refresh refreshes
  time_le := by
    have clockLe := refreshes.ranks.generation_le
    have timeLe := ready.time_le
    dsimp only
    omega
  overflow policy positive :=
    ready.overflow policy (Nat.lt_of_lt_of_le positive (Nat.le_add_right _ _))

theorem overflow_of_le (ready : pager.Ready terms time pending)
    (policy : pager.config.policy = .scfifo) (positive : 0 < time)
    (late : Word.limit ≤ pager.ledger.generation + time) :
    terms.fatal .overflow :=
  ready.overflow policy positive (Nat.le_trans late ready.time_le)

end Ready

end Pager

end DemandPaging
