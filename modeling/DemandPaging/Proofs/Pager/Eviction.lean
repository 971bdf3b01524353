import DemandPaging.Proofs.Pager.Keeping

/-!
# Pages that leave and come back

An eviction is a choice, a move to swap and a frame given back, and the return
of a page is a move from swap with its slot given up.  Where the page that
leaves takes the slot of the one that returns, neither order of the two moves
is what happens: the slot never becomes free.  The outcome is that of the
return first and the eviction second, with a page too many in memory in
between, and it is by way of that pager that the outcome is shown to be in
order.
-/

namespace DemandPaging

namespace Pager

variable {pager before : Pager} {pending : Option Nat}
  {handle page slot frame ticks time : Nat} {contents : Page} {old : Tracked}
  {swap released : SwapSpace} {terms : Terms}

/-- The frame of a page that went to swap is given back. -/
theorem SwapsOut.release {after : Pager} {frames : FramePool}
    (moves : before.SwapsOut after page slot) (sound : before.Sound pending)
    (released : before.frames.release (before.entryAt page).address =
      .ok frames) :
    after.HeldBy frames ∧ before.Keeps { after with frames } := by
  have isValid : (before.entryAt page).isValid = true :=
    (sound.tracked page _ moves.known).2.2.2.1
  obtain ⟨contents, lent⟩ := sound.framed page isValid
  have unowned : after.Unowned (before.entryAt page).address contents :=
    (moves.unowned_iff sound).mpr (.inr ⟨rfl, lent⟩)
  obtain ⟨given, success, heldBy, settled⟩ :=
    heldBy_of_release (moves.sound sound) unowned
  rw [moves.frames, released] at success
  cases success
  refine ⟨heldBy, ⟨moves.shape.trans heldBy.sameShape,
    fun other held => ?_⟩, fun address => ?_⟩
  · rw [settled, moves.unowned_iff sound]
    constructor
    · rintro ⟨known | ⟨own, _⟩, different⟩
      · exact known
      · exact absurd own different
    · intro known
      exact ⟨.inl known, Ne.symm (known.2 page isValid)⟩
  · exact (heldBy.logicalPage? address).trans
      (moves.logicalPage? sound address)

/-- What an eviction leaves of the pages that are not in memory: they are where
they were, and there is room for one of them. -/
structure Spares (before after : Pager) : Prop where
  room : after.ledger.residentCount + 1 = before.ledger.residentCount
  trackedCount : after.ledger.trackedCount = before.ledger.trackedCount
  find? : ∀ page, after.ledger.find? page = before.ledger.find? page
  residenceOf? : ∀ page, before.residenceOf? page ≠ some (.resident page) →
    after.residenceOf? page = before.residenceOf? page
  marks : ∀ address,
    before.residenceOf? (Address.pageBase address) ≠
        some (.resident (Address.pageBase address)) →
      (before.entryAt address).SameButMarks (after.entryAt address)

/-- An eviction to the slot `slot` of `swap`: the place and the page that was
chosen, what the choice left of table and ledger, and what became of its
frame. -/
structure Eviction (before : Pager) (ticks slot : Nat) (swap : SwapSpace) where
  handle : Nat
  page : Nat
  recency : Nat
  table : PageTable
  ledger : Ledger
  contents : Page
  file : SwapFile
  frames : FramePool
  refreshes : before.Refreshes table ledger ticks
  place : ledger.places[handle]? = some ⟨.resident page, recency⟩
  lent : before.frames.contents? (table.entryAt page).address = some contents
  written : swap.file.write (slot * pageSize) contents.toList = .ok file
  released : before.frames.release (table.entryAt page).address = .ok frames

namespace Eviction

/-- The pager once the page is chosen. -/
def chosen (eviction : before.Eviction ticks slot swap) : Pager :=
  { before with table := eviction.table, ledger := eviction.ledger }

/-- The pager once the page has moved, with its frame still lent. -/
def moved (eviction : before.Eviction ticks slot swap) : Pager :=
  { before with
    table := eviction.table.update eviction.page fun entry =>
      Entry.pagedOut entry.flags
    ledger :=
      { eviction.ledger.put eviction.handle
          ⟨.swapped eviction.page slot, eviction.recency⟩ with
        residentCount := eviction.ledger.residentCount - 1
        swappedCount := eviction.ledger.swappedCount + 1 }
    swap := { swap with file := eviction.file } }

/-- The pager after the eviction. -/
def after (eviction : before.Eviction ticks slot swap) : Pager :=
  { eviction.moved with frames := eviction.frames }

theorem sound_chosen (eviction : before.Eviction ticks slot swap)
    (sound : before.Sound pending) : eviction.chosen.Sound pending :=
  eviction.refreshes.sound sound

theorem known (eviction : before.Eviction ticks slot swap) :
    eviction.chosen.residenceOf? eviction.page =
      some (.resident eviction.page) :=
  eviction.refreshes.ranks.isConsistent.residenceOf?_of_resident
    eviction.place rfl

theorem isValid (eviction : before.Eviction ticks slot swap)
    (sound : before.Sound pending) :
    (eviction.chosen.entryAt eviction.page).isValid = true :=
  ((eviction.sound_chosen sound).tracked _ _ eviction.known).2.2.2.1

theorem aligned (eviction : before.Eviction ticks slot swap)
    (sound : before.Sound pending) :
    Address.pageBase eviction.page = eviction.page :=
  ((eviction.sound_chosen sound).tracked _ _ eviction.known).2.1

theorem bytesAt?_page (eviction : before.Eviction ticks slot swap)
    (sound : before.Sound pending) :
    eviction.chosen.bytesAt? eviction.page =
      some eviction.contents.toList := by
  rw [bytesAt?, if_pos (eviction.isValid sound)]
  exact congrArg (Option.map Vector.toList) eviction.lent

/-- The place that changes in the ledger. -/
theorem puts (eviction : before.Eviction ticks slot swap) :
    eviction.ledger.Puts eviction.handle
      ⟨.resident eviction.page, eviction.recency⟩
      ⟨.swapped eviction.page slot, eviction.recency⟩
      eviction.moved.ledger :=
  Ledger.puts_swapped eviction.refreshes.ranks.isConsistent eviction.place rfl

theorem residenceOf?_moved (eviction : before.Eviction ticks slot swap)
    (other : Nat) :
    eviction.moved.residenceOf? other =
      if other = eviction.page then some (.swapped eviction.page slot)
      else eviction.chosen.residenceOf? other := by
  classical
  have shown := eviction.puts.residenceOf?
    eviction.refreshes.ranks.isConsistent other
  simp only [Tracked.tracks_resident, Tracked.tracks_swapped] at shown
  rw [residenceOf?, shown]
  by_cases same : other = eviction.page
  · rw [if_pos same, if_pos same]
  · rw [if_neg same, if_neg same, if_neg same]
    rfl

theorem entryAt_moved (eviction : before.Eviction ticks slot swap)
    (sound : before.Sound pending) (address : Nat) :
    eviction.moved.entryAt address =
      if Address.pageBase address = eviction.page then
        Entry.pagedOut (eviction.chosen.entryAt eviction.page).flags
      else eviction.chosen.entryAt address := by
  have isPresent := isPresent_of_isValid (eviction.isValid sound)
  exact entryAt_updated _ (eviction.aligned sound) isPresent address

theorem contents?_moved (eviction : before.Eviction ticks slot swap)
    (sound : before.Sound pending) (other : Nat) :
    eviction.moved.swap.contents? other =
      if other = slot then eviction.chosen.bytesAt? eviction.page
      else swap.contents? other := by
  rw [eviction.bytesAt?_page sound]
  exact SwapSpace.contents?_of_write (Vector.length_toList ..)
    eviction.written rfl other

/-- A page that goes to a slot that was free. -/
theorem swapsOut (sound : before.Sound pending)
    (isFree : before.swap.used[slot]? = some false)
    (eviction : before.Eviction ticks slot (before.swap.take slot)) :
    eviction.chosen.SwapsOut eviction.moved eviction.page slot where
  shape := ⟨rfl, rfl, rfl, eviction.puts.capacity,
    SwapSpace.capacity_take, rfl⟩
  ledger := eviction.puts.isConsistent eviction.refreshes.ranks.isConsistent
  swap := sound.swap.take isFree
  frames := rfl
  known := eviction.known
  isFree := SwapSpace.isClaimed_of_free isFree
  entryAt := eviction.entryAt_moved sound
  residenceOf? := eviction.residenceOf?_moved
  isClaimed := SwapSpace.isClaimed_take_of_free isFree
  contents? := eviction.contents?_moved sound

theorem residentCount_after (eviction : before.Eviction ticks slot swap) :
    eviction.after.ledger.residentCount + 1 = before.ledger.residentCount := by
  have positive := eviction.refreshes.ranks.isConsistent.residentCount_pos
    eviction.place rfl
  rw [← eviction.refreshes.ranks.residentCount]
  exact Nat.sub_add_cancel positive

theorem maxResident_after (eviction : before.Eviction ticks slot swap) :
    eviction.after.ledger.maxResident = before.ledger.maxResident :=
  eviction.refreshes.ranks.maxResident

theorem spares (eviction : before.Eviction ticks slot swap)
    (sound : before.Sound pending) : before.Spares eviction.after := by
  have sameRanks := eviction.refreshes.ranks.residenceOf?
  have different : ∀ other,
      before.residenceOf? other ≠ some (.resident other) →
        other ≠ eviction.page := by
    rintro _ elsewhere rfl
    exact elsewhere ((sameRanks _).symm.trans eviction.known)
  exact {
    room := eviction.residentCount_after
    trackedCount := by
      have counted := eviction.residentCount_after
      have swapped := eviction.refreshes.ranks.swappedCount
      change eviction.after.ledger.residentCount +
        (eviction.ledger.swappedCount + 1) = _
      rw [Ledger.trackedCount]
      omega
    find? := eviction.refreshes.ranks.find?
    residenceOf? := by
      intro other elsewhere
      have shown := eviction.residenceOf?_moved other
      rw [if_neg (different other elsewhere)] at shown
      exact shown.trans (sameRanks other)
    marks := by
      intro address elsewhere
      have shown := eviction.entryAt_moved sound address
      rw [if_neg (different _ elsewhere)] at shown
      change eviction.after.entryAt address = _ at shown
      rw [shown]
      exact eviction.refreshes.marks address }

section FreeSlot

variable (sound : before.Sound pending)
  (isFree : before.swap.used[slot]? = some false)
  (eviction : before.Eviction ticks slot (before.swap.take slot))

include sound isFree

theorem release_moved : eviction.moved.HeldBy eviction.frames ∧
    eviction.chosen.Keeps eviction.after :=
  (eviction.swapsOut sound isFree).release (eviction.sound_chosen sound)
    eviction.released

/-- User code does not notice an eviction, and the frames of others are as
before. -/
theorem keeps : before.Keeps eviction.after :=
  eviction.refreshes.keeps.trans (eviction.release_moved sound isFree).2

omit sound in
theorem ready_after (ready : before.Ready terms (time + ticks) pending)
    (low : terms.IsLax ∨ slot ≤ addressLimit / pageSize) :
    eviction.after.Ready terms time pending := by
  have readyChosen : eviction.chosen.Ready terms time pending :=
    ready.refresh eviction.refreshes
  have moves := eviction.swapsOut ready.sound isFree
  have isPresent := isPresent_of_isValid (eviction.isValid ready.sound)
  exact {
    sound := (eviction.release_moved ready.sound isFree).1.sound
      (moves.sound readyChosen.sound)
    ceiling := by
      have counted := eviction.residentCount_after
      have ceiling := ready.ceiling
      rw [eviction.maxResident_after]
      omega
    strict := by
      rcases low with lax | slot_le
      · exact .inl lax
      · exact readyChosen.strict.imp_right fun strict =>
          (strict.swapsOut moves slot_le isPresent).withFrames
    time_le := readyChosen.time_le
    overflow := readyChosen.overflow }

end FreeSlot

end Eviction

/-- The pager once the page at `page` is in the frame `frame`. -/
def returned (pager : Pager) (handle page frame : Nat) (old : Tracked) :
    Pager :=
  { pager with
    table := pager.table.update page fun entry =>
      Entry.resident frame entry.flags
    ledger :=
      { pager.ledger.put handle { old with residence := .resident page } with
        residentCount := pager.ledger.residentCount + 1
        swappedCount := pager.ledger.swappedCount - 1 } }

theorem entryAt_returned (aligned : Address.pageBase page = page)
    (isPresent : (pager.entryAt page).isPresent = true) (address : Nat) :
    (pager.returned handle page frame old).entryAt address =
      if Address.pageBase address = page then
        Entry.resident frame (pager.entryAt page).flags
      else pager.entryAt address :=
  entryAt_updated _ aligned isPresent address

theorem puts_returned (frame : Nat) (consistent : pager.ledger.IsConsistent)
    (place : pager.ledger.places[handle]? = some old)
    (swapped : old.residence = .swapped page slot) :
    pager.ledger.Puts handle old { old with residence := .resident page }
      (pager.returned handle page frame old).ledger :=
  Ledger.puts_resident_of_swapped consistent place swapped

theorem residenceOf?_returned (consistent : pager.ledger.IsConsistent)
    (place : pager.ledger.places[handle]? = some old)
    (swapped : old.residence = .swapped page slot) (other : Nat) :
    (pager.returned handle page frame old).residenceOf? other =
      if other = page then some (.resident page)
      else pager.residenceOf? other := by
  classical
  have shown := (puts_returned frame consistent place
    swapped).residenceOf? consistent other
  simp only [Tracked.tracks_of_swapped swapped,
    Tracked.tracks_resident] at shown
  rw [residenceOf?, shown]
  by_cases same : other = page
  · rw [if_pos same, if_pos same]
  · rw [if_neg same, if_neg same, if_neg same]
    rfl

/-- A page comes back from the slot that is given up for it. -/
theorem swapsIn_returned (sound : pager.Sound pending)
    (place : pager.ledger.places[handle]? = some old)
    (swapped : old.residence = .swapped page slot)
    (unowned : pager.Unowned frame contents)
    (held : pager.bytesAt? page = some contents.toList) :
    ∃ released, pager.swap.release slot = .ok released ∧
      pager.SwapsIn
        (({ pager with swap := released } : Pager).returned handle page frame
          old) page slot frame := by
  have known : pager.residenceOf? page = some (.swapped page slot) :=
    sound.ledger.residenceOf?_of_swapped place swapped
  obtain ⟨released, success, consistent, capacity, file, _, claimed⟩ :=
    SwapSpace.release_of_isClaimed sound.swap
      ((sound.claimed slot).mpr ⟨page, known⟩)
  refine ⟨released, success, ?_⟩
  exact {
    shape := ⟨rfl, rfl, rfl,
      (puts_returned frame sound.ledger place swapped).capacity,
      capacity, rfl⟩
    ledger := (puts_returned frame sound.ledger place
      swapped).isConsistent sound.ledger
    swap := consistent
    frames := rfl
    known := known
    filled := ⟨contents, unowned, held⟩
    pointed := fun flags => sound.address_point unowned _
    entryAt := entryAt_returned (sound.tracked page _ known).2.1
      (sound.isPresent_of_residenceOf? known)
    residenceOf? := residenceOf?_returned sound.ledger place swapped
    isClaimed := claimed
    contents? := fun other => by
      change SwapSpace.contents? released other = _
      rw [SwapSpace.contents?, file]
      rfl }

/-- A page that came back into a borrowed frame is not noticed. -/
theorem SwapsIn.keeps {origin middle after : Pager}
    (moves : middle.SwapsIn after page slot frame)
    (sound : middle.Sound pending)
    (borrows : origin.Borrows middle frame contents) :
    origin.Keeps after where
  shape := borrows.shape.trans moves.shape
  unowned := borrows.unowned_of_settled fun _ _ => moves.unowned_iff sound
  logicalPage? address :=
    (moves.logicalPage? sound address).trans (borrows.logicalPage? address)

theorem Ready.swapsIn {middle after : Pager}
    (ready : middle.Ready terms time pending)
    (moves : middle.SwapsIn after page slot frame)
    (ceiling : after.ledger.residentCount ≤ after.ledger.maxResident)
    (clock : after.ledger.generation = middle.ledger.generation) :
    after.Ready terms time pending where
  sound := moves.sound ready.sound
  ceiling := ceiling
  strict := ready.strict.imp_right fun strict => strict.swapsIn moves
    (ready.sound.isPresent_of_residenceOf? moves.known)
  time_le := by
    rw [clock]
    exact ready.time_le
  overflow := by
    rw [moves.shape.config]
    exact ready.overflow

namespace Eviction

section HandedOver

variable (sound : before.Sound pending)
  (place : before.ledger.places[handle]? = some old)
  (swapped : old.residence = .swapped page slot)
  (unowned : before.Unowned frame contents)
  (held : before.bytesAt? page = some contents.toList)
  (eviction : before.Eviction ticks slot before.swap)

include place swapped

/-- The page that comes back keeps its place while the other one leaves. -/
theorem place_returning :
    ∃ recency,
      eviction.ledger.places[handle]? = some ⟨.swapped page slot, recency⟩ ∧
      eviction.moved.ledger.places[handle]? =
        some ⟨.swapped page slot, recency⟩ := by
  obtain ⟨recency, chosenPlace⟩ := eviction.refreshes.ranks.place place
  rw [swapped] at chosenPlace
  refine ⟨recency, chosenPlace, ?_⟩
  rw [eviction.puts.getElem?_places, if_neg]
  · exact chosenPlace
  · rintro rfl
    cases eviction.place.symm.trans chosenPlace

include sound unowned held

/-- A page that leaves to the slot of the one that comes back: as if that one
had come back before. -/
theorem handsOver :
    ∃ recency between,
      eviction.moved.ledger.places[handle]? =
        some ⟨.swapped page slot, recency⟩ ∧
      eviction.chosen.SwapsIn between page slot frame ∧
      between.SwapsOut (eviction.moved.returned handle page frame
        ⟨.swapped page slot, recency⟩) eviction.page slot := by
  have soundChosen := eviction.sound_chosen sound
  obtain ⟨recency, chosenPlace, movedPlace⟩ :=
    eviction.place_returning place swapped
  have known : eviction.chosen.residenceOf? page =
      some (.swapped page slot) :=
    soundChosen.ledger.residenceOf?_of_swapped chosenPlace rfl
  have aligned := (soundChosen.tracked page _ known).2.1
  have isPresent := soundChosen.isPresent_of_residenceOf? known
  have different : eviction.page ≠ page := by
    intro same
    have resident := eviction.known
    rw [same, known] at resident
    cases resident
  have stillUnowned : eviction.chosen.Unowned frame contents :=
    (eviction.refreshes.keeps.unowned frame contents).mpr unowned
  have stillHeld : eviction.chosen.bytesAt? page = some contents.toList :=
    (eviction.refreshes.relabels.bytesAt? page).trans held
  obtain ⟨released, success, movesIn⟩ := swapsIn_returned soundChosen
    chosenPlace rfl stillUnowned stillHeld
  have consistentMoved := eviction.puts.isConsistent
    eviction.refreshes.ranks.isConsistent
  have notHere : ¬Address.pageBase page = eviction.page := by
    rw [aligned]
    exact Ne.symm different
  have samePage : eviction.moved.entryAt page =
      eviction.chosen.entryAt page := by
    rw [eviction.entryAt_moved sound, if_neg notHere]
  have puts := puts_returned frame consistentMoved movedPlace rfl
  refine ⟨recency, _, movedPlace, movesIn, ?_⟩
  exact {
    shape := ⟨rfl, rfl, rfl, by
      rw [movesIn.shape.ledgerCapacity, puts.capacity]
      exact eviction.puts.capacity,
      movesIn.shape.swapCapacity.symm ▸ rfl, rfl⟩
    ledger := puts.isConsistent consistentMoved
    swap := sound.swap
    frames := rfl
    known := by
      rw [movesIn.residenceOf?, if_neg different, eviction.known]
    isFree := by rw [movesIn.isClaimed, if_pos rfl]
    entryAt := by
      intro address
      rw [entryAt_returned aligned (samePage ▸ isPresent), samePage,
        eviction.entryAt_moved sound, movesIn.entryAt, movesIn.entryAt,
        eviction.aligned sound, if_neg different]
      by_cases here : Address.pageBase address = page
      · rw [if_pos here, if_pos here, if_neg (here ▸ Ne.symm different)]
      · rw [if_neg here, if_neg here]
    residenceOf? := by
      intro other
      rw [residenceOf?_returned consistentMoved movedPlace rfl,
        eviction.residenceOf?_moved, movesIn.residenceOf?]
      by_cases here : other = page
      · rw [if_pos here, if_pos here, if_neg (here ▸ Ne.symm different)]
      · rw [if_neg here, if_neg here]
    isClaimed := by
      intro other
      rw [movesIn.isClaimed]
      by_cases same : other = slot
      · rw [if_pos same, same]
        exact (sound.claimed slot).mpr
          ⟨page, sound.ledger.residenceOf?_of_swapped place swapped⟩
      · rw [if_neg same, if_neg same]
        rfl
    contents? := by
      intro other
      have victimAligned := eviction.aligned sound
      have sameBytes := (movesIn.alters soundChosen).bytesAt? soundChosen
        (victimAligned.symm ▸ different)
      rw [victimAligned] at sameBytes
      rw [sameBytes, movesIn.contents?]
      exact eviction.contents?_moved sound other }

end HandedOver

end Eviction

/-- All is prepared for the page at `page` to come back to its place: with it
the pager is in order, and user code sees what it saw in `origin`. -/
structure Awaits (pager origin : Pager) (terms : Terms) (time : Nat)
    (pending : Option Nat) (handle page slot frame : Nat) (old : Tracked) :
    Prop where
  place : pager.ledger.places[handle]? = some old
  swapped : old.residence = .swapped page slot
  room : pager.ledger.residentCount < pager.ledger.maxResident
  ready : (pager.returned handle page frame old).Ready terms time pending
  keeps : origin.Keeps (pager.returned handle page frame old)

/-- A page comes back where there is room, from a slot that is given up. -/
theorem Ready.awaits_of_room {origin : Pager}
    (ready : pager.Ready terms time pending)
    (borrows : origin.Borrows pager frame contents)
    (place : pager.ledger.places[handle]? = some old)
    (swapped : old.residence = .swapped page slot)
    (held : pager.bytesAt? page = some contents.toList)
    (room : pager.ledger.residentCount < pager.ledger.maxResident) :
    ∃ released, pager.swap.release slot = .ok released ∧
      ({ pager with swap := released } : Pager).Awaits origin terms time
        pending handle page slot frame old := by
  obtain ⟨released, success, moves⟩ := swapsIn_returned ready.sound place
    swapped borrows.lent held
  exact ⟨released, success, place, swapped, room,
    ready.swapsIn moves room rfl, moves.keeps ready.sound borrows⟩

/-- A page comes back while another one leaves to its slot. -/
theorem Ready.awaits_of_handedOver {origin : Pager}
    (ready : before.Ready terms (time + ticks) pending)
    (borrows : origin.Borrows before frame contents)
    (place : before.ledger.places[handle]? = some old)
    (swapped : old.residence = .swapped page slot)
    (held : before.bytesAt? page = some contents.toList)
    (eviction : before.Eviction ticks slot before.swap) :
    ∃ old, eviction.after.Awaits origin terms time pending handle page slot
      frame old := by
  have readyChosen : eviction.chosen.Ready terms time pending :=
    ready.refresh eviction.refreshes
  obtain ⟨recency, between, stays, movesIn, movesOut⟩ := eviction.handsOver
    ready.sound place swapped borrows.lent held
  have soundBetween := movesIn.sound readyChosen.sound
  have borrowsChosen := borrows.of_keeps eviction.refreshes.keeps
  have counted := eviction.residentCount_after
  have ceiling := ready.ceiling
  have sameCeiling := eviction.maxResident_after
  have known := eviction.known
  have sameEntry : between.entryAt eviction.page =
      eviction.chosen.entryAt eviction.page := by
    rw [movesIn.entryAt, eviction.aligned ready.sound, if_neg]
    intro same
    rw [same, movesIn.known] at known
    cases known
  have released : between.frames.release
      (between.entryAt eviction.page).address = .ok eviction.frames := by
    rw [movesIn.frames, sameEntry]
    exact eviction.released
  obtain ⟨heldBy, keepsOut⟩ := movesOut.release soundBetween released
  refine ⟨_, stays, rfl, by omega, ?_,
    (movesIn.keeps readyChosen.sound borrowsChosen).trans keepsOut⟩
  exact {
    sound := heldBy.sound (movesOut.sound soundBetween)
    ceiling := by
      change eviction.after.ledger.residentCount + 1 ≤
        eviction.after.ledger.maxResident
      omega
    strict := readyChosen.strict.imp_right fun strict => by
      have isPresent := readyChosen.sound.isPresent_of_residenceOf?
        movesIn.known
      have victimPresent := soundBetween.isPresent_of_residenceOf?
        movesOut.known
      have slot_le := strict.slot_le slot
        ((readyChosen.sound.claimed slot).mpr ⟨page, movesIn.known⟩)
      exact ((strict.swapsIn movesIn isPresent).swapsOut movesOut slot_le
        victimPresent).withFrames
    time_le := readyChosen.time_le
    overflow := readyChosen.overflow }

end Pager

end DemandPaging
