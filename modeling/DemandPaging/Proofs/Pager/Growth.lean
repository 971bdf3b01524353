import DemandPaging.Proofs.FlatMemory
import DemandPaging.Proofs.Pager.Eviction

/-!
# Pages that are added and taken away

The pagers that tracking a new page, taking it back and unmapping a page leave,
and the moves that lead to them.
-/

namespace DemandPaging

namespace Pager

variable {pager before after : Pager} {pending : Option Nat}
  {handle page slot frame time : Nat} {contents : Page} {old : Tracked}
  {terms : Terms} {flags : Flags}

/-- From `start` up to `stop` there is no page any more, and nothing else
changed. -/
structure Clears (before after : Pager) (start stop : Nat) : Prop extends
    before.Confined after where
  logicalPage? : ∀ address, after.logicalPage? address =
    if start ≤ address ∧ address < stop then none
    else before.logicalPage? address

/-- From `start` up to `stop` there are new pages, and nothing else
changed. -/
structure Adds (before after : Pager) (start stop : Nat)
    (memory : LogicalPage) : Prop extends before.Confined after where
  logicalPage? : ∀ address, after.logicalPage? address =
    if start ≤ address ∧ address < stop then some memory
    else before.logicalPage? address

/-- The page that holds `address` is no longer for user code, and nothing else
changed. -/
structure Withdraws (before after : Pager) (address : Nat) : Prop extends
    before.Confined after where
  logicalPage? : ∀ other, after.logicalPage? other =
    if Address.pageBase other = Address.pageBase address then
      (before.logicalPage? other).map LogicalPage.withdrawn
    else before.logicalPage? other

/-- What is put in the place of two runs of addresses, one behind the other, is
put in the place of both. -/
theorem ite_range_trans {Result : Type} {start boundary stop address : Nat}
    (new old : Result) (low : start ≤ boundary) (high : boundary ≤ stop) :
    (if boundary ≤ address ∧ address < stop then new
      else if start ≤ address ∧ address < boundary then new else old) =
    if start ≤ address ∧ address < stop then new else old := by
  by_cases isHigh : boundary ≤ address ∧ address < stop
  · rw [if_pos isHigh, if_pos (by omega)]
  · rw [if_neg isHigh]
    by_cases isLow : start ≤ address ∧ address < boundary
    · rw [if_pos isLow, if_pos (by omega)]
    · rw [if_neg isLow, if_neg (by omega)]

namespace Clears

variable {middle : Pager} {start boundary stop : Nat}

theorem of_keeps (keeps : before.Keeps after) (isEmpty : stop ≤ start) :
    before.Clears after start stop where
  toConfined := keeps.toConfined
  logicalPage? address := by
    rw [if_neg (by omega)]
    exact keeps.logicalPage? address

theorem trans (first : before.Clears middle start boundary)
    (second : middle.Clears after boundary stop) (low : start ≤ boundary)
    (high : boundary ≤ stop) : before.Clears after start stop where
  toConfined := first.toConfined.trans second.toConfined
  logicalPage? address := by
    rw [second.logicalPage?, first.logicalPage?]
    exact ite_range_trans _ _ low high

end Clears

namespace Adds

variable {middle : Pager} {start boundary stop : Nat} {memory : LogicalPage}

theorem of_keeps (keeps : before.Keeps after) (isEmpty : stop ≤ start) :
    before.Adds after start stop memory where
  toConfined := keeps.toConfined
  logicalPage? address := by
    rw [if_neg (by omega)]
    exact keeps.logicalPage? address

theorem trans (first : before.Adds middle start boundary memory)
    (second : middle.Adds after boundary stop memory) (low : start ≤ boundary)
    (high : boundary ≤ stop) : before.Adds after start stop memory where
  toConfined := first.toConfined.trans second.toConfined
  logicalPage? address := by
    rw [second.logicalPage?, first.logicalPage?]
    exact ite_range_trans _ _ low high

theorem keeps_trans (adds : before.Adds middle start stop memory)
    (keeps : middle.Keeps after) : before.Adds after start stop memory where
  toConfined := adds.toConfined.trans keeps.toConfined
  logicalPage? address :=
    (keeps.logicalPage? address).trans (adds.logicalPage? address)

/-- Where there was nothing before, taking the new pages away again leaves what
there was. -/
theorem keeps_of_clears (adds : before.Adds middle start stop memory)
    (clears : middle.Clears after start stop)
    (absent : ∀ address, start ≤ address → address < stop →
      before.logicalPage? address = none) : before.Keeps after where
  toConfined := adds.toConfined.trans clears.toConfined
  logicalPage? address := by
    rw [clears.logicalPage?, adds.logicalPage?]
    by_cases isNew : start ≤ address ∧ address < stop
    · rw [if_pos isNew, absent address isNew.1 isNew.2]
    · rw [if_neg isNew, if_neg isNew]

end Adds

theorem mem_page_iff {address : Nat} (aligned : Address.pageBase page = page) :
    Address.pageBase address = page ↔
      page ≤ address ∧ address < page + pageSize := by
  simp only [Address.pageBase, pageSize] at *
  omega

theorem Sound.isSome_logicalPage? (sound : pager.Sound pending)
    (address : Nat) :
    (pager.logicalPage? address).isSome =
      (pager.entryAt address).isPresent := by
  rw [Pager.logicalPage?, Option.isSome_map, bytesAt?, entryAt_pageBase,
    Entry.isPresent]
  cases isValid : (pager.entryAt address).isValid with
  | true =>
      obtain ⟨contents, lent⟩ := sound.framed address isValid
      rw [if_pos rfl, lent]
      rfl
  | false =>
      rw [if_neg Bool.false_ne_true, Bool.false_or]
      cases isPagedOut : (pager.entryAt address).isPagedOut with
      | true =>
          obtain ⟨slot, known⟩ := sound.swapped address isPagedOut isValid
          obtain ⟨bytes, held⟩ := sound.stored _ slot known
          rw [if_pos rfl, known]
          change (pager.swap.contents? slot).isSome = true
          rw [held]
          rfl
      | false => rfl

theorem Sound.isPaging_of_isPagedOut (sound : pager.Sound pending)
    (isPagedOut : (pager.entryAt page).isPagedOut = true)
    (notValid : (pager.entryAt page).isValid = false) :
    pager.isPaging = true := by
  obtain ⟨slot, known⟩ := sound.swapped page isPagedOut notValid
  exact (sound.tracked _ _ known).1

/-- Under paging every page is tracked. -/
theorem Sound.residence_of_isPresent (sound : pager.Sound none)
    (isPaging : pager.isPaging = true)
    (aligned : Address.pageBase page = page)
    (isPresent : (pager.entryAt page).isPresent = true) :
    ∃ residence, pager.residenceOf? page = some residence := by
  rw [Entry.isPresent, Bool.or_eq_true] at isPresent
  cases isValid : (pager.entryAt page).isValid with
  | true =>
      have known := sound.resident isPaging page isValid (Option.some_ne_none _).symm
      rw [aligned] at known
      exact ⟨_, known⟩
  | false =>
      rw [isValid] at isPresent
      obtain ⟨slot, known⟩ := sound.swapped page
        (isPresent.resolve_left Bool.false_ne_true) isValid
      rw [aligned] at known
      exact ⟨_, known⟩

section Withdrawing

variable {address : Nat} {table : PageTable}
  (entries : ∀ other, table.entryAt other =
    if Address.pageBase other = Address.pageBase address then
      (pager.entryAt address).remove { user := true }
    else pager.entryAt other)

include entries

theorem entryAt_withdrawn (other : Nat) :
    table.entryAt other = pager.entryAt other ∨
      table.entryAt other = (pager.entryAt other).remove { user := true } := by
  rw [entries]
  split
  · rename_i same
    have here : pager.entryAt other = pager.entryAt address :=
      PageTable.entryAt_eq_of_pageBase_eq same
    rw [here]
    exact .inr rfl
  · exact .inl rfl

theorem relabels_withdrawn (consistent : pager.ledger.IsConsistent) :
    pager.Relabels { pager with table } where
  shape := ⟨rfl, rfl, rfl, rfl, rfl, rfl⟩
  ledger := consistent
  swap := rfl
  frames := rfl
  isValid other := by
    change (table.entryAt other).isValid = _
    rcases entryAt_withdrawn entries other with same | same
    · rw [same]
    · rw [same]
      simp [Entry.isValid, Entry.remove, Flags.difference]
  isPagedOut other := by
    change (table.entryAt other).isPagedOut = _
    rcases entryAt_withdrawn entries other with same | same
    · rw [same]
    · rw [same]
      simp [Entry.isPagedOut, Entry.remove, Flags.difference]
  address other := by
    change (table.entryAt other).address = _
    rcases entryAt_withdrawn entries other with same | same
    · rw [same]
    · rw [same]
      rfl
  residenceOf? _ := rfl

theorem Ready.withdraws (ready : pager.Ready terms time pending) :
    ({ pager with table } : Pager).Ready terms time pending ∧
      pager.Withdraws { pager with table } address := by
  have relabels := relabels_withdrawn entries ready.sound.ledger
  refine ⟨⟨relabels.sound ready.sound, ready.ceiling,
    ready.strict.imp_right fun strict => ?_, ready.time_le, ready.overflow⟩,
    ⟨relabels.shape, fun _ _ => relabels.unowned_iff⟩, fun other => ?_⟩
  · refine strict.of_changes (fun other => ?_) fun _ claimed => .inl claimed
    refine (entryAt_withdrawn entries other).imp_right fun same => ?_
    change (table.entryAt other).IsStrict
    rw [same]
    exact (strict.entries other).withdrawn
  · by_cases same : Address.pageBase other = Address.pageBase address
    · have entry : ({ pager with table } : Pager).entryAt other =
          (pager.entryAt other).remove { user := true } := by
        change table.entryAt other = (pager.table.entryAt other).remove _
        rw [entries, if_pos same, PageTable.entryAt_eq_of_pageBase_eq same]
        rfl
      rw [if_pos same, Pager.logicalPage?, Pager.logicalPage?,
        relabels.bytesAt?, entry, Option.map_map]
      rfl
    · rw [if_neg same]
      refine relabels.logicalPage? ?_
      change (table.entryAt other).flags.permissions = _
      rw [entries, if_neg same]

end Withdrawing

theorem Sound.unpend (sound : pager.Sound (some page))
    (notPaging : pager.isPaging = false) : pager.Sound none :=
  { sound with
    resident := fun isPaging => by
      rw [notPaging] at isPaging
      cases isPaging
    tracked := fun other residence known => by
      obtain ⟨isPaging, _⟩ := sound.tracked other residence known
      rw [notPaging] at isPaging
      cases isPaging }

/-- The pager once the page at `page`, which was pending, is at the place
`handle`. -/
def settled (pager : Pager) (handle page : Nat) (old : Tracked) : Pager :=
  { pager with
    table := pager.table.update page fun entry =>
      (entry.remove { pagedOut := true }).insert { valid := true }
    ledger :=
      { pager.ledger.put handle { old with residence := .resident page } with
        residentCount := pager.ledger.residentCount + 1
        index := pager.ledger.index.insert page handle } }

theorem settles_settled (sound : pager.Sound (some page))
    (isPaging : pager.isPaging = true)
    (isValid : (pager.entryAt page).isValid = true)
    (aligned : Address.pageBase page = page)
    (place : pager.ledger.places[handle]? = some old)
    (unused : old.residence = .free) :
    pager.Settles (pager.settled handle page old) page := by
  classical
  have missing := sound.ledger.residenceOf?_eq_none_iff.mp
    (not_tracked_of_pending sound)
  have puts := Ledger.puts_resident_of_free place unused missing
  have noPage : ∀ other, ¬old.Tracks other := fun _ =>
    Tracked.not_tracks_of_residence unused
  exact {
    shape := ⟨rfl, rfl, rfl, puts.capacity, rfl, rfl⟩
    ledger := puts.isConsistent sound.ledger
    swap := rfl
    frames := rfl
    aligned := aligned
    isPaging := isPaging
    isValid := isValid
    entryAt := by
      exact entryAt_updated _ aligned (isPresent_of_isValid isValid)
    residenceOf? := by
      intro other
      have shown := puts.residenceOf? sound.ledger other
      simp only [Tracked.tracks_resident] at shown
      refine shown.trans ?_
      by_cases same : other = page
      · rw [if_pos same, if_pos same]
      · rw [if_neg same, if_neg same, if_neg (noPage other)]
        rfl }

theorem Settles.keeps (moves : before.Settles after page)
    (sound : before.Sound (some page)) : before.Keeps after where
  shape := moves.shape
  unowned _ _ := moves.unowned_iff
  logicalPage? := moves.logicalPage? sound

theorem Ready.settles (ready : before.Ready terms time (some page))
    (moves : before.Settles after page)
    (ceiling : after.ledger.residentCount ≤ after.ledger.maxResident)
    (clock : after.ledger.generation = before.ledger.generation) :
    after.Ready terms time none where
  sound := moves.sound ready.sound
  ceiling := ceiling
  strict := ready.strict.imp_right fun strict => strict.settles moves
  time_le := by
    rw [clock]
    exact ready.time_le
  overflow := by
    rw [moves.shape.config]
    exact ready.overflow

/-- The pager once the page at `page` is mapped to a frame that is nobody's. -/
theorem Ready.maps (ready : before.Ready terms time none)
    (moves : before.Maps after page frame flags)
    (strict : terms.IsLax ∨
      flags.read = true ∧ flags.pagedOut = false) :
    after.Ready terms time (some page) where
  sound := moves.sound ready.sound
  ceiling := by
    rw [moves.ledger]
    exact ready.ceiling
  strict := by
    rcases strict with lax | ⟨isRead, notPagedOut⟩
    · exact .inl lax
    · exact ready.strict.imp_right fun strict =>
        strict.maps moves isRead notPagedOut
  time_le := by
    rw [moves.ledger]
    exact ready.time_le
  overflow := by
    rw [moves.shape.config]
    exact ready.overflow

/-- A borrowed frame that a page is mapped to is taken out of those that are
nobody's. -/
theorem Maps.adds {origin middle : Pager}
    (moves : middle.Maps after page frame flags)
    (sound : middle.Sound none)
    (borrows : origin.Borrows middle frame contents) :
    origin.Adds after page (page + pageSize)
      ⟨contents.toList, flags.permissions⟩ where
  shape := borrows.shape.trans moves.shape
  unowned := borrows.unowned_of_settled fun _ _ => moves.unowned_iff
  logicalPage? address := by
    rw [moves.logicalPage? sound borrows.lent.1, borrows.logicalPage?]
    by_cases here : Address.pageBase address = page
    · rw [if_pos here, if_pos ((mem_page_iff moves.aligned).mp here)]
    · rw [if_neg here, if_neg fun inPage =>
        here ((mem_page_iff moves.aligned).mpr inPage)]

/-- A page that is not tracked has only an entry. -/
theorem forgets_of_untracked (ledger : pager.ledger.IsConsistent)
    (swap : pager.swap.IsConsistent)
    (aligned : Address.pageBase page = page)
    (isPresent : (pager.entryAt page).isPresent = true)
    (untracked : pager.residenceOf? page = none) :
    pager.Forgets
      { pager with table := pager.table.update page fun _ => Entry.empty }
      page where
  shape := ⟨rfl, rfl, rfl, rfl, rfl, rfl⟩
  ledger := ledger
  swap := swap
  frames := rfl
  aligned := aligned
  entryAt := entryAt_updated _ aligned isPresent
  residenceOf? other := by
    by_cases same : other = page
    · rw [if_pos same, same]
      exact untracked
    · rw [if_neg same]
      rfl
  isClaimed slot := by
    rw [untracked]
    simp
  contents? _ := rfl

/-- The ledger and the slots that are left when the page at `page`, which is at
`residence`, loses its place. -/
structure Untracks (pager : Pager) (page : Nat) (residence : Residence)
    (ledger : Ledger) (swap : SwapSpace) : Prop where
  place : ∃ handle old, pager.ledger.find? page = some handle ∧
    pager.ledger.places[handle]? = some old ∧ old.residence = residence ∧
      pager.ledger.release handle = .ok (old, ledger)
  slot : ∀ slot, residence.slot? = some slot →
    pager.swap.release slot = .ok swap
  noSlot : residence.slot? = none → swap = pager.swap

/-- A page that is tracked also has a place and, if it is in swap, a slot. -/
theorem forgets_of_tracked (consistent : pager.ledger.IsConsistent)
    (swap : pager.swap.IsConsistent)
    (aligned : Address.pageBase page = page)
    (isPresent : (pager.entryAt page).isPresent = true)
    (claimed : ∀ slot, pager.residenceOf? page = some (.swapped page slot) →
      pager.swap.isClaimed slot = true)
    {residence : Residence}
    (known : pager.residenceOf? page = some residence) :
    ∃ ledger swap, pager.Untracks page residence ledger swap ∧
      pager.Forgets { pager with
        table := pager.table.update page fun _ => Entry.empty
        ledger, swap } page ∧
      ledger.residentCount ≤ pager.ledger.residentCount ∧
      ledger.generation = pager.ledger.generation := by
  classical
  obtain ⟨handle, old, place, tracks, residence_eq⟩ :=
    consistent.residenceOf?_eq_some_iff.mp known
  obtain ⟨ledger, released, puts, maxResident, count, clock⟩ :=
    consistent.release_of_tracks place tracks
  have found : pager.ledger.find? page = some handle :=
    consistent.find?_iff.mpr ⟨old, place, tracks⟩
  have shown := puts.residenceOf? consistent
  have tracksOnly : ∀ other, old.Tracks other ↔ other = page := by
    intro other
    constructor
    · exact fun both => both.2.symm.trans tracks.2
    · rintro rfl
      exact tracks
  have forgotten : ∀ other, ledger.residenceOf? other =
      if other = page then none else pager.residenceOf? other := by
    intro other
    rw [shown, if_neg (Tracked.not_tracks_of_residence rfl)]
    simp only [tracksOnly]
    rfl
  have atPlace : ∃ handle old, pager.ledger.find? page = some handle ∧
      pager.ledger.places[handle]? = some old ∧ old.residence = residence ∧
        pager.ledger.release handle = .ok (old, ledger) :=
    ⟨handle, old, found, place, residence_eq, released⟩
  cases slots : residence.slot? with
  | none =>
      refine ⟨ledger, pager.swap, ⟨atPlace, fun _ taken => ?_, fun _ => rfl⟩,
        ?_, count, clock⟩
      · cases slots.symm.trans taken
      exact {
        shape := ⟨rfl, rfl, maxResident, puts.capacity, rfl, rfl⟩
        ledger := puts.isConsistent consistent
        swap := swap
        frames := rfl
        aligned := aligned
        entryAt := entryAt_updated _ aligned isPresent
        residenceOf? := forgotten
        isClaimed := by
          intro slot
          refine ⟨fun claimed => ⟨claimed, ?_⟩, fun both => both.1⟩
          rw [known]
          rintro ⟨⟩
          cases slots
        contents? := fun _ => rfl }
  | some slot =>
      rw [consistent.eq_swapped_of_slot? known slots] at known
      obtain ⟨swap, success, isConsistent, capacity, file, _, claimed⟩ :=
        SwapSpace.release_of_isClaimed swap (claimed slot known)
      refine ⟨ledger, swap, ⟨atPlace, fun _ taken => ?_, fun isNone => ?_⟩,
        ?_, count, clock⟩
      · cases slots.symm.trans taken
        exact success
      · cases slots.symm.trans isNone
      exact {
        shape := ⟨rfl, rfl, maxResident, puts.capacity, capacity, rfl⟩
        ledger := puts.isConsistent consistent
        swap := isConsistent
        frames := rfl
        aligned := aligned
        entryAt := entryAt_updated _ aligned isPresent
        residenceOf? := forgotten
        isClaimed := by
          intro other
          rw [claimed, known]
          by_cases same : other = slot
          · simp [same]
          · simp [same, Ne.symm same]
        contents? := fun other => by
          dsimp only
          rw [SwapSpace.contents?, file, SwapSpace.contents?] }

theorem Ready.forgets (ready : before.Ready terms time pending)
    (moves : before.Forgets after page)
    (onlyPending : ∀ other, other ≠ page → pending ≠ some other)
    (count : after.ledger.residentCount ≤ before.ledger.residentCount)
    (clock : after.ledger.generation = before.ledger.generation) :
    after.Ready terms time none where
  sound := moves.sound ready.sound onlyPending
  ceiling := by
    rw [moves.shape.maxResident]
    exact Nat.le_trans count ready.ceiling
  strict := ready.strict.imp_right fun strict => strict.forgets moves
  time_le := by
    rw [clock]
    exact ready.time_le
  overflow := by
    rw [moves.shape.config]
    exact ready.overflow

theorem Forgets.logicalPage?_eq (moves : before.Forgets after page)
    (sound : before.Sound pending) (address : Nat) :
    after.logicalPage? address =
      if page ≤ address ∧ address < page + pageSize then none
      else before.logicalPage? address := by
  rw [moves.logicalPage? sound]
  by_cases here : Address.pageBase address = page
  · rw [if_pos here, if_pos ((mem_page_iff moves.aligned).mp here)]
  · rw [if_neg here, if_neg fun inPage =>
      here ((mem_page_iff moves.aligned).mpr inPage)]

/-- A page in swap leaves no frame behind. -/
theorem Forgets.clears_of_not_isValid (moves : before.Forgets after page)
    (sound : before.Sound pending)
    (notValid : (before.entryAt page).isValid = false) :
    before.Clears after page (page + pageSize) where
  shape := moves.shape
  unowned frame contents := by
    rw [moves.unowned_iff sound, notValid]
    simp
  logicalPage? := moves.logicalPage?_eq sound

/-- The frame of a page that was in memory is given back. -/
theorem Forgets.release (moves : before.Forgets after page)
    (sound : before.Sound pending)
    (onlyPending : ∀ other, other ≠ page → pending ≠ some other)
    (isValid : (before.entryAt page).isValid = true) :
    ∃ frames,
      before.frames.release (before.entryAt page).address = .ok frames ∧
      after.HeldBy frames ∧
      before.Clears { after with frames } page (page + pageSize) := by
  obtain ⟨contents, lent⟩ := sound.framed page isValid
  have unowned : after.Unowned (before.entryAt page).address contents :=
    (moves.unowned_iff sound).mpr (.inr ⟨isValid, rfl, lent⟩)
  obtain ⟨frames, released, heldBy, settled⟩ :=
    heldBy_of_release (moves.sound sound onlyPending) unowned
  rw [moves.frames] at released
  refine ⟨frames, released, heldBy,
    ⟨moves.shape.trans heldBy.sameShape, fun other held => ?_⟩,
    fun address => (heldBy.logicalPage? address).trans
      (moves.logicalPage?_eq sound address)⟩
  rw [settled, moves.unowned_iff sound]
  constructor
  · rintro ⟨known | ⟨_, own, _⟩, different⟩
    · exact known
    · exact absurd own different
  · intro known
    exact ⟨.inl known, Ne.symm (known.2 page isValid)⟩

end Pager

end DemandPaging
