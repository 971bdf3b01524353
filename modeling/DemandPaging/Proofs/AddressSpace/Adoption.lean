import DemandPaging.AddressSpace.Fork
import DemandPaging.Proofs.AddressSpace.Growth
import DemandPaging.Proofs.Pager.Adoption

/-!
# Taking over pages

What a child does to take over a page at the place that the page has in the
parent.  Between the steps its parts do not agree: a page in memory is mapped
and not tracked, and a page in swap has a slot and an entry and no place.
-/

namespace DemandPaging

namespace AddressSpace

open Pager (Terms)

variable {origin state middle after : Hosted AddressSpace} {terms : Terms}
  {handle page slot frame time : Nat} {flags : Flags} {bytes : List UInt8}
  {memory : LogicalPage} {new : Tracked} {table : PageTable}
  {swap : SwapSpace} {failed : PagingError → Hosted AddressSpace → Prop}

/-- The entry of a page in swap is made, or there is no room for a table. -/
theorem meets_markPagedOut (aligned : Address.pageBase page = page)
    (inside : terms.IsLax ∨ page < addressLimit) :
    ((markPagedOut page flags).run state).Meets terms.fatal
      (fun _ after => page < addressLimit ∧ ∃ table,
        (∀ other, table.entryAt other =
          if Address.pageBase other = page then Entry.point 0 flags
          else (pager state).entryAt other) ∧
        Becomes state { pager state with table } after)
      (fun _ => Becomes state (pager state)) := by
  rw [markPagedOut]
  by_cases isInside : page < addressLimit
  · obtain ⟨refused, _⟩ | ⟨walked, allowed, found, same, _⟩ :=
      (pager state).table.walk_of_lt isInside
    · refine Action.meets_bind_of (fun entry after => entry = none ∧
        Becomes state (pager state) after) ?_ ?_
      · rw [onTable, Action.meets_zoom_iff]
        refine (Action.meets_step_of_ok refused).mono_done ?_
        rintro _ _ ⟨isNone, rfl⟩
        exact ⟨isNone, .refl state, rfl⟩
      · rintro _ middle ⟨rfl, becomes⟩
        exact becomes
    · refine Action.meets_bind_of (fun entry after =>
        entry = some ((pager state).entryAt page) ∧
          Becomes state { pager state with table := walked } after) ?_ ?_
      · rw [onTable, Action.meets_zoom_iff]
        refine (Action.meets_step_of_ok allowed).mono_done ?_
        rintro _ _ ⟨isSome, rfl⟩
        exact ⟨isSome, ⟨rfl, rfl, fun _ _ => rfl⟩, rfl⟩
      · rintro _ middle ⟨rfl, becomes⟩
        refine Action.meets_bind_of (fun _ after => after = middle) rfl ?_
        rintro _ _ rfl
        refine (meets_updateEntry _).mono_done fun _ _ updates => ?_
        rw [becomes.parts] at updates
        refine ⟨isInside, _, fun other => ?_, becomes.trans updates⟩
        rw [PageTable.entryAt_update (.inl (by rw [found]; rfl)), aligned,
          same]
        rfl
  · rcases inside with lax | inside
    · refine Action.meets_bind_of (fun _ _ => False) ?_ fun _ _ => False.elim
      rw [onTable, Action.meets_zoom_iff, Action.run_step_of_error
        (PageTable.walk_of_le (Nat.le_of_not_lt isInside) true)]
      exact lax _
    · exact absurd inside isInside

/-- The page at `page` has a slot with `bytes` in it and an entry. -/
structure Received (before : Pager) (page slot : Nat) (flags : Flags)
    (bytes : List UInt8) (table : PageTable) (swap : SwapSpace) : Prop where
  page_lt : page < addressLimit
  isFree : before.swap.isClaimed slot = false
  consistent : swap.IsConsistent
  capacity : swap.capacity = before.swap.capacity
  isClaimed : ∀ other, swap.isClaimed other =
    if other = slot then true else before.swap.isClaimed other
  contents? : ∀ other, swap.contents? other =
    if other = slot then some bytes else before.swap.contents? other
  entryAt : ∀ other, table.entryAt other =
    if Address.pageBase other = page then Entry.point 0 flags
    else before.entryAt other

/-- A slot that is free is claimed. -/
theorem meets_claimAt (claimable : ∀ cause,
      (pager state).swap.claimAt slot = .error cause → terms.fatal cause) :
    ((onSlots (Action.change fun swap => swap.claimAt slot)).run state).Meets
      terms.fatal
      (fun _ after => (pager state).swap.used[slot]? = some false ∧
        Becomes state
          { pager state with swap := (pager state).swap.take slot } after)
      failed := by
  rw [onSlots, Action.meets_zoom_iff]
  cases ended : (pager state).swap.claimAt slot with
  | error cause =>
      rw [Action.run_change_of_error ended]
      exact claimable cause ended
  | ok taken =>
      rw [Action.run_change_of_ok ended]
      obtain ⟨isFree, rfl⟩ := SwapSpace.claimAt_eq_ok_iff.mp ended
      exact ⟨isFree, ⟨rfl, rfl, fun _ _ => rfl⟩, rfl⟩

/-- A slot that was claimed and written is given back, and nobody minds what is
in it. -/
theorem meets_giveBack {fatal : Fatal → Prop} {file : SwapFile}
    (ready : Ready terms time none state) (length : bytes.length = pageSize)
    (isFree : (pager state).swap.used[slot]? = some false)
    (written : (pager state).swap.file.write (slot * pageSize) bytes =
      .ok file)
    (becomes : Becomes state { pager state with
      swap := { (pager state).swap.take slot with file } } middle) :
    ((releaseSlot slot).run middle).Meets fatal
      (fun _ => Kept state terms time none) failed := by
  have unclaimed := SwapSpace.isClaimed_of_free isFree
  obtain ⟨scribbled, isScribbled⟩ : ∃ swap : SwapSpace,
      swap = { (pager state).swap with file } := ⟨_, rfl⟩
  have free : scribbled.used[slot]? = some false := by
    rw [isScribbled]
    exact isFree
  have released : (pager middle).swap.release slot = .ok scribbled := by
    rw [becomes.parts, ← SwapSpace.release_take free, isScribbled]
    rfl
  refine (meets_releaseSlot released).mono_done fun _ final gives => ?_
  have whole := becomes.trans gives
  rw [becomes.parts] at whole
  have elsewhere : ∀ other, (pager state).swap.isClaimed other = true →
      scribbled.contents? other = (pager state).swap.contents? other := by
    intro other isClaimed
    rw [SwapSpace.contents?_of_write length written (by rw [isScribbled]) other,
      if_neg]
    rintro rfl
    cases unclaimed.symm.trans isClaimed
  have consistent : scribbled.IsConsistent := by
    rw [isScribbled]
    exact ready.sound.swap
  obtain ⟨inOrder, keeps⟩ := ready.parts.scribbles consistent
    (by rw [isScribbled]; rfl) (fun _ => by rw [isScribbled]; rfl) elsewhere
  exact ⟨ready.becomes whole inOrder, .of_becomes whole keeps⟩

/-- A page is put into its slot and gets its entry, or the slot goes back. -/
theorem meets_receiveSlot (ready : Ready terms time none state)
    (length : bytes.length = pageSize)
    (aligned : Address.pageBase page = page)
    (inside : terms.IsLax ∨ page < addressLimit)
    (claimable : ∀ cause,
      (pager state).swap.claimAt slot = .error cause → terms.fatal cause)
    (low : terms.IsLax ∨ slot ≤ addressLimit / pageSize) :
    ((receiveSlot page slot bytes flags).run state).Meets terms.fatal
      (fun _ after => ∃ table swap,
        Received (pager state) page slot flags bytes table swap ∧
        Becomes state { pager state with table, swap } after)
      (fun _ => Kept state terms time none) := by
  have overflow : Word.limit ≤ slot * pageSize → terms.fatal .overflow := by
    intro late
    rcases low with lax | low
    · exact lax _
    · have fits := Pager.offset_lt low
      omega
  rw [receiveSlot]
  refine Action.meets_bind (meets_claimAt claimable) ?_
  rintro _ claimed ⟨isFree, claims⟩
  have atSlot : (pager claimed).swap = (pager state).swap.take slot := by
    rw [claims.parts]
  refine Action.meets_bind (Action.meets_onFailure
    (meets_storeSlot length overflow) fun _ broken breaks => ?_) ?_
  · -- The slot is given back as it was taken.
    have released : (pager broken).swap.release slot =
        .ok (pager state).swap := by
      rw [breaks.parts, atSlot]
      exact SwapSpace.release_take isFree
    refine (meets_releaseSlot released).mono_done fun _ final gives => ?_
    have whole := (claims.trans breaks).trans gives
    rw [breaks.parts, claims.parts] at whole
    exact (Kept.refl ready).unchanged whole
  rintro _ stored ⟨file, written, stores⟩
  rw [atSlot] at written
  have toStored : Becomes state { pager state with
      swap := { (pager state).swap.take slot with file } } stored := by
    have whole := claims.trans stores
    rw [claims.parts] at whole
    exact whole
  refine Action.meets_onFailure ((meets_markPagedOut aligned
    inside).mono_done fun _ marked marks => ?_)
    fun _ broken breaks => ?_
  · obtain ⟨isInside, table, entries, becomes⟩ := marks
    rw [toStored.parts] at entries becomes
    refine ⟨table, { (pager state).swap.take slot with file }, ?_,
      toStored.trans becomes⟩
    exact {
      page_lt := isInside
      isFree := SwapSpace.isClaimed_of_free isFree
      consistent := ready.sound.swap.take isFree
      capacity := SwapSpace.capacity_take ..
      isClaimed := SwapSpace.isClaimed_take_of_free isFree
      contents? := SwapSpace.contents?_of_write length written rfl
      entryAt := entries }
  · have toBroken := toStored.trans breaks
    rw [toStored.parts] at toBroken
    exact meets_giveBack ready length isFree written toBroken

/-- A place is taken over, if the ledger has it to give. -/
theorem meets_adopt
    (adoptable : ∀ cause,
      (pager state).ledger.adopt handle new = .error cause →
        terms.fatal cause) :
    ((onLedger (Action.change fun ledger =>
      ledger.adopt handle new)).run state).Meets terms.fatal
      (fun _ after => ∃ ledger,
        (pager state).ledger.adopt handle new = .ok ledger ∧
          Becomes state { pager state with ledger } after)
      failed := by
  rw [onLedger, Action.meets_zoom_iff]
  cases ended : (pager state).ledger.adopt handle new with
  | error cause =>
      rw [Action.run_change_of_error ended]
      exact adoptable cause ended
  | ok ledger =>
      rw [Action.run_change_of_ok ended]
      exact ⟨ledger, rfl, ⟨rfl, rfl, fun _ _ => rfl⟩, rfl⟩

/-- A page in memory takes its place. -/
theorem meets_adopt_of_placed
    (placed : Placed origin terms time page frame flags memory state)
    (aligned : Address.pageBase page = page)
    (isPaging : (pager state).isPaging = true)
    (notPagedOut : flags.pagedOut = false)
    (resident : new.residence = .resident page)
    (adoptable : ∀ cause,
      (pager state).ledger.adopt handle new = .error cause →
        terms.fatal cause) :
    ((onLedger (Action.change fun ledger =>
      ledger.adopt handle new)).run state).Meets terms.fatal
      (fun _ after => Left origin (fun before after =>
          before.Adds after page (page + pageSize) memory) terms time after ∧
        (pager state).ledger.adopt handle new = .ok (pager after).ledger)
      failed := by
  refine (meets_adopt adoptable).mono_done ?_
  rintro _ after ⟨ledger, adopted, becomes⟩
  have sameLedger : (pager after).ledger = ledger := by rw [becomes.parts]
  rw [sameLedger]
  refine ⟨?_, adopted⟩
  obtain ⟨⟨old, place, unused⟩, _, kinds⟩ :=
    Ledger.adopt_eq_ok_iff.mp adopted
  rw [resident] at kinds
  obtain ⟨_, ⟨⟩, room, rfl⟩ | ⟨_, _, impossible, _⟩ := kinds
  · have atPage : ((pager state).entryAt page).isPagedOut = false := by
      rw [placed.entry]
      exact notPagedOut
    have moves := Pager.settles_adopted placed.ready.sound isPaging
      placed.isValid atPage aligned place unused resident
    refine ⟨placed.ready.becomes becomes (placed.ready.parts.settles moves
      (Nat.succ_le_of_lt room) rfl), ?_⟩
    exact placed.changes.becomes becomes fun adds =>
      adds.keeps_trans (moves.keeps placed.ready.sound)
  · cases impossible

/-- A page in swap takes its place. -/
theorem meets_adopt_of_received {before : Hosted AddressSpace}
    (ready : Ready terms time none before)
    (received : Received (pager before) page slot flags bytes table swap)
    (becomes : Becomes before { pager before with table, swap } state)
    (aligned : Address.pageBase page = page)
    (isPaging : (pager before).isPaging = true)
    (absent : ((pager before).entryAt page).isPresent = false)
    (notValid : flags.valid = false) (isPagedOut : flags.pagedOut = true)
    (swapped : new.residence = .swapped page slot)
    (strict : terms.IsLax ∨
      flags.read = true ∧ slot ≤ addressLimit / pageSize)
    (adoptable : ∀ cause,
      (pager state).ledger.adopt handle new = .error cause →
        terms.fatal cause) :
    ((onLedger (Action.change fun ledger =>
      ledger.adopt handle new)).run state).Meets terms.fatal
      (fun _ after => Left before (fun before after =>
          before.Adds after page (page + pageSize)
            ⟨bytes, flags.permissions⟩) terms time after ∧
        (pager state).ledger.adopt handle new = .ok (pager after).ledger)
      failed := by
  classical
  refine (meets_adopt adoptable).mono_done ?_
  rintro _ after ⟨ledger, adopted, adopts⟩
  have sameLedger : (pager after).ledger = ledger := by rw [adopts.parts]
  rw [sameLedger]
  refine ⟨?_, adopted⟩
  have whole := becomes.trans adopts
  rw [becomes.parts] at adopted whole
  obtain ⟨⟨old, place, unused⟩, missing, kinds⟩ :=
    Ledger.adopt_eq_ok_iff.mp adopted
  have sound := ready.sound
  have address : new.address = page := by
    rw [Tracked.address, swapped]
    rfl
  rw [address] at missing
  rw [swapped] at kinds
  obtain ⟨_, impossible, _⟩ | ⟨_, _, ⟨⟩, rfl⟩ := kinds
  · cases impossible
  · have puts := Ledger.puts_adopted_of_swapped place unused swapped missing
    have moves : (pager before).Receives { pager before with
        table, swap
        ledger :=
          { (pager before).ledger.put handle new with
            index := (pager before).ledger.index.insert page handle
            swappedCount := (pager before).ledger.swappedCount + 1 } }
        page slot flags bytes := {
      shape := ⟨rfl, rfl, rfl, puts.capacity, received.capacity, rfl⟩
      ledger := puts.isConsistent sound.ledger
      swap := received.consistent
      frames := rfl
      aligned := aligned
      page_lt := received.page_lt
      isPaging := isPaging
      absent := absent
      isFree := received.isFree
      notValid := notValid
      isPagedOut := isPagedOut
      entryAt := received.entryAt
      residenceOf? := by
        intro other
        have shown := puts.residenceOf? sound.ledger other
        simp only [Tracked.tracks_of_swapped swapped, swapped] at shown
        refine shown.trans ?_
        by_cases same : other = page
        · rw [if_pos same, if_pos same]
        · rw [if_neg same, if_neg same,
            if_neg (Tracked.not_tracks_of_residence unused)]
          rfl
      isClaimed := received.isClaimed
      contents? := received.contents? }
    exact ⟨ready.becomes whole (ready.parts.receives moves strict rfl rfl),
      .of_becomes whole (moves.adds sound)⟩

end AddressSpace

end DemandPaging
