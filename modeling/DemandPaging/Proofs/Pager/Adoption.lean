import DemandPaging.Proofs.Pager.Copies
import DemandPaging.Proofs.Pager.Growth

/-!
# Pages that come with a place of their own

A page that a child takes over from its parent keeps the place that it has in
the parent's ledger, and its slot if it is in swap.  A page in memory is mapped
first and takes its place then; a page in swap is there only when its slot, its
entry and its place all say so.  Page by page the child comes to have a copy of
what the parent has (`Copies`).
-/

namespace DemandPaging

theorem Entry.insert_remove_of_isValid {entry : Entry}
    (isValid : entry.isValid = true) (notPagedOut : entry.isPagedOut = false) :
    (entry.remove { pagedOut := true }).insert { valid := true } = entry := by
  obtain ⟨flags, frame, spare, high⟩ := entry
  obtain ⟨valid, read, write, exec, user, global, accessed, dirty, pagedOut⟩ :=
    flags
  cases isValid
  cases notPagedOut
  simp [Entry.insert, Entry.remove, Flags.union, Flags.difference]

namespace Pager

variable {pager before after : Pager} {pending : Option Nat}
  {handle page slot frame time : Nat} {contents : Page} {old new : Tracked}
  {terms : Terms} {flags : Flags} {bytes : List UInt8}

/-- The page that was pending takes the place `handle`. -/
theorem settles_adopted (sound : pager.Sound (some page))
    (isPaging : pager.isPaging = true)
    (isValid : (pager.entryAt page).isValid = true)
    (notPagedOut : (pager.entryAt page).isPagedOut = false)
    (aligned : Address.pageBase page = page)
    (place : pager.ledger.places[handle]? = some old)
    (unused : old.residence = .free)
    (resident : new.residence = .resident page) :
    pager.Settles
      { pager with ledger :=
          { pager.ledger.put handle new with
            index := pager.ledger.index.insert page handle
            residentCount := pager.ledger.residentCount + 1 } } page := by
  classical
  have missing := sound.ledger.residenceOf?_eq_none_iff.mp
    (not_tracked_of_pending sound)
  have puts := Ledger.puts_adopted_of_resident place unused resident missing
  exact {
    shape := ⟨rfl, rfl, rfl, puts.capacity, rfl, rfl⟩
    ledger := puts.isConsistent sound.ledger
    swap := rfl
    frames := rfl
    aligned := aligned
    isPaging := isPaging
    isValid := isValid
    entryAt := by
      intro address
      rw [Entry.insert_remove_of_isValid isValid notPagedOut]
      split
      · rename_i here
        exact entryAt_of_pageBase_eq here
      · rfl
    residenceOf? := by
      intro other
      have shown := puts.residenceOf? sound.ledger other
      simp only [Tracked.tracks_of_resident resident, resident] at shown
      refine shown.trans ?_
      by_cases same : other = page
      · rw [if_pos same, if_pos same]
      · rw [if_neg same, if_neg same,
          if_neg (Tracked.not_tracks_of_residence unused)]
        rfl }

/-- What is written to a slot that nobody holds is not noticed. -/
theorem Ready.scribbles {swap : SwapSpace}
    (ready : pager.Ready terms time pending)
    (consistent : swap.IsConsistent)
    (capacity : swap.capacity = pager.swap.capacity)
    (claims : ∀ other, swap.isClaimed other = pager.swap.isClaimed other)
    (held : ∀ other, pager.swap.isClaimed other = true →
      swap.contents? other = pager.swap.contents? other) :
    ({ pager with swap } : Pager).Ready terms time pending ∧
      pager.Keeps { pager with swap } := by
  have sound := ready.sound
  have shape : pager.SameShape { pager with swap } :=
    ⟨rfl, rfl, rfl, rfl, capacity, rfl⟩
  have heldBy : ∀ page slot,
      pager.residenceOf? page = some (.swapped page slot) →
        swap.contents? slot = pager.swap.contents? slot := fun page slot known =>
    held slot ((sound.claimed slot).mpr ⟨page, known⟩)
  refine ⟨?_, ⟨shape, fun _ _ => Iff.rfl⟩, fun address => ?_⟩
  · exact {
      sound := { sound with
        fits := sound.fits.of_sameShape shape
        swap := consistent
        claimed := by
          intro slot
          rw [claims]
          exact sound.claimed slot
        stored := by
          intro page slot known
          dsimp only
          rw [heldBy page slot known]
          exact sound.stored page slot known }
      ceiling := ready.ceiling
      strict := ready.strict.imp_right fun strict =>
        ⟨strict.entries, fun slot claimed => by
          rw [claims] at claimed
          exact strict.slot_le slot claimed⟩
      time_le := ready.time_le
      overflow := ready.overflow }
  · have alters : pager.Alters { pager with swap }
        (Address.pageBase (address + pageSize)) := {
      shape := shape
      aligned := Address.pageBase_pageBase _
      entryAt := fun _ _ => rfl
      residenceOf? := fun _ _ => rfl
      slots := fun other slot _ known => heldBy other slot known
      frames := fun _ _ _ => rfl }
    refine alters.logicalPage? sound ?_
    rw [Address.pageBase_add_pageSize]
    simp [pageSize]

/-- The page at `page`, which was not there, is in the slot `slot`, which was
free and has `bytes` now. -/
structure Receives (before after : Pager) (page slot : Nat) (flags : Flags)
    (bytes : List UInt8) : Prop where
  shape : before.SameShape after
  ledger : after.ledger.IsConsistent
  swap : after.swap.IsConsistent
  frames : after.frames = before.frames
  aligned : Address.pageBase page = page
  page_lt : page < addressLimit
  isPaging : before.isPaging = true
  absent : (before.entryAt page).isPresent = false
  isFree : before.swap.isClaimed slot = false
  notValid : flags.valid = false
  isPagedOut : flags.pagedOut = true
  entryAt : ∀ address, after.entryAt address =
    if Address.pageBase address = page then Entry.point 0 flags
    else before.entryAt address
  residenceOf? : ∀ other, after.residenceOf? other =
    if other = page then some (.swapped page slot)
    else before.residenceOf? other
  isClaimed : ∀ other, after.swap.isClaimed other =
    if other = slot then true else before.swap.isClaimed other
  contents? : ∀ other, after.swap.contents? other =
    if other = slot then some bytes else before.swap.contents? other

namespace Receives

theorem unheld (moves : before.Receives after page slot flags bytes)
    (sound : before.Sound pending) (other : Nat) :
    before.residenceOf? other ≠ some (.swapped other slot) := by
  intro holds
  have claimed := (sound.claimed slot).mpr ⟨other, holds⟩
  rw [moves.isFree] at claimed
  cases claimed

theorem alters (moves : before.Receives after page slot flags bytes)
    (sound : before.Sound pending) : before.Alters after page where
  shape := moves.shape
  aligned := moves.aligned
  entryAt address elsewhere := by rw [moves.entryAt, if_neg elsewhere]
  residenceOf? other elsewhere := by rw [moves.residenceOf?, if_neg elsewhere]
  slots other otherSlot _ holds := by
    rw [moves.contents?, if_neg]
    rintro rfl
    exact moves.unheld sound other holds
  frames _ _ _ := by rw [moves.frames]

theorem entryAt_page (moves : before.Receives after page slot flags bytes) :
    after.entryAt page = Entry.point 0 flags := by
  rw [moves.entryAt, if_pos moves.aligned]

theorem not_isValid (moves : before.Receives after page slot flags bytes) :
    (after.entryAt page).isValid = false := by
  rw [moves.entryAt_page]
  exact moves.notValid

theorem isPagedOut_page
    (moves : before.Receives after page slot flags bytes) :
    (after.entryAt page).isPagedOut = true := by
  rw [moves.entryAt_page]
  exact moves.isPagedOut

theorem residenceOf?_page
    (moves : before.Receives after page slot flags bytes) :
    after.residenceOf? page = some (.swapped page slot) := by
  rw [moves.residenceOf?, if_pos rfl]

theorem sound (moves : before.Receives after page slot flags bytes)
    (sound : before.Sound none) : after.Sound none := by
  have notValid : (after.entryAt page).isValid ≠ true := by
    rw [moves.not_isValid]
    exact Bool.false_ne_true
  have residence := moves.residenceOf?_page
  have untracked := sound.residenceOf?_of_not_isPresent moves.absent
  refine (moves.alters sound).sound sound ?_ fun _ _ => Iff.rfl
  exact {
    ledger := moves.ledger
    swap := moves.swap
    frames := moves.frames ▸ sound.frames
    page_lt := fun _ => moves.page_lt
    resident := fun _ isValid => absurd isValid notValid
    swapped := fun _ _ => ⟨slot, residence⟩
    tracked := by
      intro held known
      rw [residence] at known
      cases known
      rw [moves.shape.isPaging, moves.not_isValid, moves.isPagedOut_page]
      exact ⟨moves.isPaging, nofun, rfl, rfl⟩
    claimed := by
      intro other
      have notSwapped : ∀ slot,
          before.residenceOf? page ≠ some (.swapped page slot) := by
        intro slot swapped
        cases untracked.symm.trans swapped
      rw [moves.isClaimed, residence,
        ← sound.isClaimed_iff_of_not_swapped notSwapped]
      by_cases same : other = slot
      · simp [same]
      · simp [same, Ne.symm same]
    slot_new := by
      intro held other _ known
      rw [residence] at known
      cases known
      exact moves.unheld sound other
    stored := by
      intro held known
      rw [residence] at known
      cases known
      rw [moves.contents?, if_pos rfl]
      exact ⟨bytes, rfl⟩
    framed := fun isValid => absurd isValid notValid
    frame_new := fun isValid => absurd isValid notValid }

theorem adds (moves : before.Receives after page slot flags bytes)
    (sound : before.Sound none) :
    before.Adds after page (page + pageSize) ⟨bytes, flags.permissions⟩ where
  shape := moves.shape
  unowned frame contents := by
    have wasNotValid : (before.entryAt page).isValid = false :=
      (Bool.or_eq_false_iff.mp moves.absent).1
    rw [(moves.alters sound).unowned_iff moves.frames,
      unowned_iff_of_aligned moves.aligned, moves.not_isValid, wasNotValid]
    simp
  logicalPage? address := by
    by_cases samePage : Address.pageBase address = page
    · have held : after.bytesAt? page = some bytes := by
        rw [bytesAt?, moves.not_isValid, moves.isPagedOut_page,
          moves.residenceOf?_page, if_neg Bool.false_ne_true, if_pos rfl]
        change after.swap.contents? slot = some bytes
        rw [moves.contents?, if_pos rfl]
      rw [if_pos ((mem_page_iff moves.aligned).mp samePage),
        Pager.logicalPage?, samePage, held,
        entryAt_of_pageBase_eq samePage, moves.entryAt_page]
      rfl
    · rw [if_neg fun inPage =>
        samePage ((mem_page_iff moves.aligned).mpr inPage)]
      exact (moves.alters sound).logicalPage? sound samePage

end Receives

theorem Ready.receives (ready : before.Ready terms time none)
    (moves : before.Receives after page slot flags bytes)
    (strict : terms.IsLax ∨
      flags.read = true ∧ slot ≤ addressLimit / pageSize)
    (count : after.ledger.residentCount = before.ledger.residentCount)
    (clock : after.ledger.generation = before.ledger.generation) :
    after.Ready terms time none where
  sound := moves.sound ready.sound
  ceiling := by
    rw [count, moves.shape.maxResident]
    exact ready.ceiling
  strict := by
    rcases strict with lax | ⟨isRead, slot_le⟩
    · exact .inl lax
    refine ready.strict.imp_right fun strict =>
      strict.of_changes (fun address => ?_) fun other claimed => ?_
    · rw [moves.entryAt]
      split
      · refine .inr ⟨fun _ => isRead, fun isValid => ?_⟩
        exact absurd (isValid.symm.trans moves.notValid) nofun
      · exact .inl rfl
    · rw [moves.isClaimed] at claimed
      split at claimed
      · rename_i same
        rw [same]
        exact .inr slot_le
      · exact .inl claimed
  time_le := by
    rw [clock]
    exact ready.time_le
  overflow := by
    rw [moves.shape.config]
    exact ready.overflow

variable {parent middle : Pager} {stop : Nat} {memory : LogicalPage}

/-- What a fork relies on in the parent. -/
structure IsCopyable (parent : Pager) : Prop where
  ledger : parent.ledger.IsConsistent
  resident : parent.isPaging = true → ∀ page, Address.pageBase page = page →
    (parent.entryAt page).isValid = true →
      (parent.entryAt page).isPagedOut = false →
        parent.residenceOf? page = some (.resident page)
  framed : ∀ address, (parent.entryAt address).isValid = true →
    ∃ contents,
      parent.frames.contents? (parent.entryAt address).address = some contents
  aligned : parent.isPaging = true → ∀ page residence,
    parent.residenceOf? page = some residence → Address.pageBase page = page

/-- Up to `stop` user code sees what the parent has there, and nothing else
changed. -/
structure Copies (parent : Pager) (stop : Nat) (before after : Pager) :
    Prop extends before.Confined after where
  shown : ∀ address, address < stop →
    (parent.logicalPage? address).isSome = true
  logicalPage? : ∀ address, after.logicalPage? address =
    if address < stop then parent.logicalPage? address
    else before.logicalPage? address

namespace Copies

theorem refl (parent pager : Pager) : parent.Copies 0 pager pager where
  toConfined := .refl pager
  shown _ below := absurd below (Nat.not_lt_zero _)
  logicalPage? address := by rw [if_neg (Nat.not_lt_zero address)]

theorem keeps_trans (copies : parent.Copies stop before middle)
    (keeps : middle.Keeps after) : parent.Copies stop before after where
  toConfined := copies.toConfined.trans keeps.toConfined
  shown := copies.shown
  logicalPage? address :=
    (keeps.logicalPage? address).trans (copies.logicalPage? address)

/-- One more page is copied. -/
theorem adds (copies : parent.Copies stop before middle)
    (adds : middle.Adds after stop (stop + pageSize) memory)
    (aligned : Address.pageBase stop = stop)
    (shown : parent.logicalPage? stop = some memory) :
    parent.Copies (stop + pageSize) before after := by
  have inPage : ∀ address, stop ≤ address → address < stop + pageSize →
      parent.logicalPage? address = some memory := by
    intro address low high
    rw [logicalPage?_eq_of_pageBase_eq (aligned.symm ▸
      (mem_page_iff aligned).mpr ⟨low, high⟩), shown]
  refine ⟨copies.toConfined.trans adds.toConfined, fun address below => ?_,
    fun address => ?_⟩
  · by_cases isOld : address < stop
    · exact copies.shown address isOld
    · rw [inPage address (Nat.le_of_not_lt isOld) below]
      rfl
  · rw [adds.logicalPage?, copies.logicalPage?]
    by_cases isOld : address < stop
    · rw [if_neg (by omega), if_pos isOld, if_pos (by omega)]
    · rw [if_neg isOld]
      by_cases below : address < stop + pageSize
      · rw [if_pos ⟨Nat.le_of_not_lt isOld, below⟩, if_pos below,
          inPage address (Nat.le_of_not_lt isOld) below]
      · rw [if_neg (by omega), if_neg below]

/-- Once all that was copied is taken away again, nothing is left of it. -/
theorem clears (copies : parent.Copies stop before middle)
    (clears : middle.Clears after 0 stop)
    (absent : ∀ address, before.logicalPage? address = none) :
    parent.Copies 0 before after where
  toConfined := copies.toConfined.trans clears.toConfined
  shown _ below := absurd below (Nat.not_lt_zero _)
  logicalPage? address := by
    rw [clears.logicalPage?, copies.logicalPage?,
      if_neg (Nat.not_lt_zero address), absent]
    by_cases below : address < stop
    · rw [if_pos ⟨Nat.zero_le address, below⟩]
    · rw [if_neg fun both => below both.2, if_neg below]

end Copies

theorem Relabels.keeps_of_table (relabels : before.Relabels after)
    (table : after.table = before.table) : before.Keeps after where
  shape := relabels.shape
  unowned _ _ := relabels.unowned_iff
  logicalPage? address := by
    refine relabels.logicalPage? ?_
    rw [entryAt, entryAt, table]

theorem relabels_of_generation (consistent : pager.ledger.IsConsistent)
    (generation : Nat) :
    pager.Relabels
      { pager with ledger := { pager.ledger with generation } } where
  shape := ⟨rfl, rfl, rfl, rfl, rfl, rfl⟩
  ledger := ⟨consistent.find?_eq_some_iff, consistent.residentCount_eq,
    consistent.swappedCount_eq⟩
  swap := rfl
  frames := rfl
  isValid _ := rfl
  isPagedOut _ := rfl
  address _ := rfl
  residenceOf? _ := rfl

end Pager

end DemandPaging
