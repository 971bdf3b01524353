import DemandPaging.AddressSpace.Consistency
import DemandPaging.Proofs.AddressSpace.PageSets
import DemandPaging.Proofs.Mapping.Unwinding

/-!
# What the check of a space decides

The check looks up each leaf in the ledger and compares numbers.  It asks for
no leaf of a tracked page and for no page of a claimed slot, yet it finds out
whether these are there: no two leaves have one page, no two pages one place,
and so two sets of pages of which one is part of the other are the same if they
are equally large.  For a consistent ledger and consistent slots the check
therefore passes exactly if the parts of the space agree.
-/

namespace DemandPaging

namespace AddressSpace

variable {space : AddressSpace} {page slot : Nat} {entry : Entry}
  {slot? : Option Nat} {leaf : Nat × Entry} {leaves : List (Nat × Entry)}
  {slots : List (Option Nat)}

/-- The ledger has the page at `page` where its leaf says. -/
structure BearsOut (space : AddressSpace) (page : Nat) (entry : Entry) :
    Prop where
  resident : entry.isValid = true → space.IsResident page
  swapped : entry.isValid = false →
    ∃ slot, space.HoldsSlot page slot ∧ space.swap.isClaimed slot = true

theorem bearsOut_iff_of_isValid (valid : entry.isValid = true) :
    space.BearsOut page entry ↔ space.IsResident page :=
  ⟨fun bearsOut => bearsOut.resident valid, fun resident =>
    ⟨fun _ => resident,
      fun invalid => absurd (valid.symm.trans invalid) Bool.noConfusion⟩⟩

theorem bearsOut_iff_of_not_isValid (invalid : entry.isValid = false) :
    space.BearsOut page entry ↔
      ∃ slot, space.HoldsSlot page slot ∧ space.swap.isClaimed slot = true :=
  ⟨fun bearsOut => bearsOut.swapped invalid, fun swapped =>
    ⟨fun valid => absurd (invalid.symm.trans valid) Bool.noConfusion,
      fun _ => swapped⟩⟩

section
variable (consistent : space.ledger.IsConsistent)
include consistent

theorem slotOf?_eq_some_iff :
    space.slotOf? page = some slot ↔ space.HoldsSlot page slot := by
  simp only [slotOf?, Option.bind_eq_bind, Option.bind_eq_some_iff,
    consistent.find?_iff]
  constructor
  · rintro ⟨handle, ⟨tracked, place, tracks⟩, _, same, held⟩
    cases place.symm.trans same
    obtain ⟨residence, recency⟩ := tracked
    cases residence with
    | free => cases held
    | resident other => cases held
    | swapped other otherSlot =>
        cases held
        obtain rfl := (Tracked.tracks_swapped _ _ _ _).mp tracks
        exact ⟨handle, _, place, rfl⟩
  · rintro ⟨handle, ⟨residence, recency⟩, place, swapped⟩
    obtain rfl : residence = .swapped page slot := swapped
    exact ⟨handle, ⟨_, place, (Tracked.tracks_swapped _ _ _ _).mpr rfl⟩, _,
      place, rfl⟩

theorem slotOf?_of_isResident (resident : space.IsResident page) :
    space.slotOf? page = none := by
  refine Option.eq_none_iff_forall_ne_some.mpr fun slot held => ?_
  obtain ⟨_, _, place, swapped⟩ := (slotOf?_eq_some_iff consistent).mp held
  obtain ⟨_, _, otherPlace, inMemory⟩ := resident
  have known := consistent.residenceOf?_of_swapped place swapped
  rw [consistent.residenceOf?_of_resident otherPlace inMemory] at known
  cases known

theorem isResident_iff_of_place {handle : Nat} {tracked : Tracked}
    (place : space.ledger.places[handle]? = some tracked)
    (tracks : tracked.Tracks page) :
    space.IsResident page ↔ tracked.residence = .resident page := by
  constructor
  · rintro ⟨other, otherTracked, otherPlace, resident⟩
    have known := consistent.residenceOf?_of_resident otherPlace resident
    rw [consistent.residenceOf?_eq_some_iff.mpr
      ⟨handle, tracked, place, tracks, rfl⟩] at known
    exact Option.some.inj known
  · exact fun resident => ⟨handle, tracked, place, resident⟩

theorem isResident_iff_isResident_of_place {handle : Nat} {tracked : Tracked}
    (place : space.ledger.places[handle]? = some tracked)
    (tracks : tracked.Tracks page) :
    space.IsResident page ↔ tracked.isResident = true := by
  rw [isResident_iff_of_place consistent place tracks]
  obtain ⟨residence, recency⟩ := tracked
  cases residence with
  | free => cases tracks.1
  | resident other =>
      obtain rfl : other = page := tracks.2
      exact ⟨fun _ => rfl, fun _ => rfl⟩
  | swapped other slot => simp [Tracked.isResident, Residence.isResident]

theorem holdsSlot_iff_of_place {handle : Nat} {tracked : Tracked}
    (place : space.ledger.places[handle]? = some tracked)
    (tracks : tracked.Tracks page) :
    space.HoldsSlot page slot ↔ tracked.residence = .swapped page slot := by
  constructor
  · rintro ⟨other, otherTracked, otherPlace, swapped⟩
    have known := consistent.residenceOf?_of_swapped otherPlace swapped
    rw [consistent.residenceOf?_eq_some_iff.mpr
      ⟨handle, tracked, place, tracks, rfl⟩] at known
    exact Option.some.inj known
  · exact fun swapped => ⟨handle, tracked, place, swapped⟩

theorem BearsOut.exists_find? (bearsOut : space.BearsOut page entry) :
    ∃ handle, space.ledger.find? page = some handle := by
  cases valid : entry.isValid with
  | true =>
      obtain ⟨handle, tracked, place, resident⟩ := bearsOut.resident valid
      exact ⟨handle, consistent.find?_iff.mpr
        ⟨tracked, place, (Tracked.tracks_of_resident resident).mpr rfl⟩⟩
  | false =>
      obtain ⟨_, ⟨handle, tracked, place, swapped⟩, _⟩ :=
        bearsOut.swapped valid
      exact ⟨handle, consistent.find?_iff.mpr
        ⟨tracked, place, (Tracked.tracks_of_swapped swapped).mpr rfl⟩⟩

theorem checkTracked_eq_ok_iff :
    space.checkTracked page entry = .ok slot? ↔
      space.BearsOut page entry ∧ slot? = space.slotOf? page := by
  cases found : space.ledger.find? page with
  | none =>
      refine iff_of_false ?_ ?_
      · simp [checkTracked, found, throw, throwThe, MonadExceptOf.throw]
      · rintro ⟨bearsOut, _⟩
        obtain ⟨handle, known⟩ := bearsOut.exists_find? consistent
        cases found.symm.trans known
  | some handle =>
      obtain ⟨tracked, place, tracks⟩ := consistent.find?_iff.mp found
      have got := Ledger.get_eq_ok_iff.mpr place
      simp only [checkTracked, found, got, bind_eq_ok_iff, ensure_eq_ok_iff,
        tracks.2, true_and, exists_const, Except.ok.injEq, exists_eq_left']
      cases valid : entry.isValid with
      | true =>
          simp only [↓reduceIte, bind_eq_ok_iff, ensure_eq_ok_iff,
            exists_const]
          rw [bearsOut_iff_of_isValid valid,
            ← isResident_iff_isResident_of_place consistent place tracks]
          refine and_congr_right fun resident => ?_
          rw [slotOf?_of_isResident consistent resident, eq_comm]
          exact ⟨Except.ok.inj, congrArg Except.ok⟩
      | false =>
          have inSwap {slot : Nat} : space.HoldsSlot page slot ↔
              tracked.residence = .swapped page slot :=
            holdsSlot_iff_of_place consistent place tracks
          rw [bearsOut_iff_of_not_isValid valid]
          simp only [↓reduceIte, Bool.false_eq_true]
          obtain ⟨residence, recency⟩ := tracked
          cases residence with
          | free => cases tracks.1
          | resident other =>
              refine iff_of_false ?_ ?_
              · rintro ⟨⟩
              · rintro ⟨⟨slot, holds, _⟩, _⟩
                cases inSwap.mp holds
          | swapped other slot =>
              obtain rfl : other = page := tracks.2
              have holds : space.HoldsSlot other slot := inSwap.mpr rfl
              rw [(slotOf?_eq_some_iff consistent).mpr holds]
              simp only [bind_eq_ok_iff, ensure_eq_ok_iff, exists_const]
              constructor
              · rintro ⟨claimed, same⟩
                exact ⟨⟨slot, holds, claimed⟩, (Except.ok.inj same).symm⟩
              · rintro ⟨⟨_, otherHolds, claimed⟩, same⟩
                cases inSwap.mp otherHolds
                exact ⟨claimed, congrArg Except.ok same.symm⟩

end

/-- What the check asks of a leaf. -/
structure ChecksOut (space : AddressSpace) (leaf : Nat × Entry) : Prop where
  exclusive : ¬(leaf.2.isValid = true ∧ leaf.2.isPagedOut = true)
  bearsOut : space.isPaging = true → space.BearsOut leaf.1 leaf.2
  not_isPagedOut : space.isPaging = false → leaf.2.isPagedOut = false

/-- The slot that the check notes for a leaf. -/
def notedSlot? (space : AddressSpace) (leaf : Nat × Entry) : Option Nat :=
  if space.isPaging then space.slotOf? leaf.1 else none

theorem checkLeaf_eq_ok_iff (consistent : space.ledger.IsConsistent) :
    space.checkLeaf leaf = .ok slot? ↔
      space.ChecksOut leaf ∧ slot? = space.notedSlot? leaf := by
  obtain ⟨page, entry⟩ := leaf
  have exclusive_iff : (!(entry.isValid && entry.isPagedOut)) = true ↔
      ¬(entry.isValid = true ∧ entry.isPagedOut = true) := by
    rw [Bool.not_eq_true', Bool.and_eq_false_iff]
    simp [imp_iff_not_or]
  simp only [checkLeaf, bind_eq_ok_iff, ensure_eq_ok_iff, exists_const,
    exclusive_iff]
  cases isPaging : space.isPaging with
  | true =>
      rw [if_pos rfl, checkTracked_eq_ok_iff consistent, ← and_assoc,
        notedSlot?, if_pos isPaging]
      refine and_congr_left' ⟨?_, ?_⟩
      · rintro ⟨exclusive, bearsOut⟩
        exact ⟨exclusive, fun _ => bearsOut, fun notPaging => by
          cases isPaging.symm.trans notPaging⟩
      · exact fun passes => ⟨passes.exclusive, passes.bearsOut isPaging⟩
  | false =>
      rw [if_neg Bool.false_ne_true, notedSlot?,
        if_neg (Bool.eq_false_iff.mp isPaging)]
      simp only [bind_eq_ok_iff, ensure_eq_ok_iff, exists_const]
      rw [← and_assoc]
      refine and_congr ⟨?_, ?_⟩ ?_
      · rintro ⟨exclusive, notPagedOut⟩
        refine ⟨exclusive, fun yes => ?_, fun _ => ?_⟩
        · cases isPaging.symm.trans yes
        · exact Bool.not_eq_true' _ |>.mp notPagedOut
      · intro passes
        refine ⟨passes.exclusive, ?_⟩
        rw [passes.not_isPagedOut isPaging]
        rfl
      · rw [eq_comm]
        exact ⟨Except.ok.inj, congrArg Except.ok⟩

theorem checkLeaves_eq_ok_iff (consistent : space.ledger.IsConsistent) :
    space.checkLeaves leaves = .ok slots ↔
      (∀ leaf ∈ leaves, space.ChecksOut leaf) ∧
        slots = leaves.map space.notedSlot? := by
  induction leaves generalizing slots with
  | nil => simp [checkLeaves, eq_comm]
  | cons leaf leaves ih =>
      simp only [checkLeaves, bind_eq_ok_iff, checkLeaf_eq_ok_iff consistent,
        ih, List.forall_mem_cons, List.map_cons]
      constructor
      · rintro ⟨_, ⟨passes, rfl⟩, _, ⟨rest, rfl⟩, ⟨⟩⟩
        exact ⟨⟨passes, rest⟩, rfl⟩
      · rintro ⟨⟨passes, rest⟩, rfl⟩
        exact ⟨_, ⟨passes, rfl⟩, _, ⟨rest, rfl⟩, rfl⟩

/-- The slots that the check notes in a space under paging. -/
def notedSlots (space : AddressSpace) : List Nat :=
  space.table.leaves.filterMap fun leaf => space.slotOf? leaf.1

/-- The numbers that the check compares are the same. -/
structure AddsUp (space : AddressSpace) : Prop where
  residentCount : space.mappedCount = space.ledger.residentCount
  swappedCount : space.notedSlots.length = space.ledger.swappedCount
  ceiling : space.ledger.residentCount ≤ space.ledger.maxResident
  inUse : space.swap.inUse = space.notedSlots.length
  nodup : space.notedSlots.Nodup

section
variable (consistent : space.ledger.IsConsistent)
include consistent

theorem BearsOut.slotOf?_isNone (bearsOut : space.BearsOut page entry) :
    (space.slotOf? page).isNone = entry.isValid := by
  cases valid : entry.isValid with
  | true =>
      rw [slotOf?_of_isResident consistent (bearsOut.resident valid)]
      rfl
  | false =>
      obtain ⟨slot, holds, _⟩ := bearsOut.swapped valid
      rw [(slotOf?_eq_some_iff consistent).mpr holds]
      rfl

theorem check_eq_ok_iff :
    space.check = .ok () ↔
      (∀ leaf ∈ space.table.leaves, space.ChecksOut leaf) ∧
        (space.isPaging = true → space.AddsUp) := by
  simp only [check, bind_eq_ok_iff, checkLeaves_eq_ok_iff consistent,
    and_assoc, exists_and_left, exists_eq_left]
  refine and_congr_right fun passes => ?_
  cases isPaging : space.isPaging with
  | false =>
      simp [pure, Except.pure]
  | true =>
      have noted : space.notedSlot? = fun leaf => space.slotOf? leaf.1 :=
        funext fun leaf => if_pos isPaging
      have valid : (space.table.leaves.map space.notedSlot?).countP
          Option.isNone = space.mappedCount := by
        rw [noted, List.countP_map, mappedCount]
        refine List.countP_congr fun leaf member => ?_
        rw [Function.comp_apply,
          ((passes leaf member).bearsOut isPaging).slotOf?_isNone consistent]
      have slots : (space.table.leaves.map space.notedSlot?).filterMap id =
          space.notedSlots := by
        rw [noted, List.filterMap_map]
        rfl
      simp only [↓reduceIte, valid, slots, bind_eq_ok_iff, ensure_eq_ok_iff,
        exists_const, consistent.trackedCount_le, true_and, forall_const]
      constructor
      · rintro ⟨residents, swapped, ceiling, inUse, nodup⟩
        exact ⟨residents, swapped, ceiling, inUse, nodup⟩
      · rintro ⟨residents, swapped, ceiling, inUse, nodup⟩
        exact ⟨residents, swapped, ceiling, inUse, nodup⟩

end

theorem ChecksOut.isPagedOut_eq (passes : space.ChecksOut leaf)
    (member : leaf ∈ space.table.leaves) :
    leaf.2.isPagedOut = !leaf.2.isValid := by
  obtain ⟨_, _, present⟩ := PageTable.mem_leaves_iff.mp member
  have exclusive := passes.exclusive
  rw [Entry.isPresent] at present
  cases valid : leaf.2.isValid <;> cases inSwap : leaf.2.isPagedOut <;>
    simp_all

theorem Agrees.passes (agrees : space.Agrees)
    (member : leaf ∈ space.table.leaves) : space.ChecksOut leaf where
  exclusive := agrees.exclusive _ _ member
  bearsOut isPaging := by
    have tracks := agrees.tracks isPaging
    refine ⟨fun valid => (tracks.isMapped_iff _).mp ⟨_, member, valid⟩,
      fun invalid => ?_⟩
    obtain ⟨_, _, present⟩ := PageTable.mem_leaves_iff.mp member
    rw [Entry.isPresent, invalid, Bool.false_or] at present
    obtain ⟨slot, holds⟩ :=
      (tracks.isPagedOut_iff _).mp ⟨_, member, present⟩
    exact ⟨slot, holds, (tracks.isClaimed_iff slot).mpr ⟨_, holds⟩⟩
  not_isPagedOut notPaging := by
    refine Bool.eq_false_iff.mpr fun pagedOut => ?_
    exact agrees.not_isPagedOut notPaging _ ⟨_, member, pagedOut⟩

section
variable (consistent : space.ledger.IsConsistent)
include consistent

theorem mem_notedSlots_iff : slot ∈ space.notedSlots ↔
    ∃ page entry, (page, entry) ∈ space.table.leaves ∧
      space.HoldsSlot page slot := by
  simp only [notedSlots, List.mem_filterMap, Prod.exists,
    slotOf?_eq_some_iff consistent]

/-- No slot is noted twice if no two leaves have one. -/
theorem nodup_notedSlots_iff : space.notedSlots.Nodup ↔
    ∀ (first second slot : Nat) (firstEntry secondEntry : Entry),
      (first, firstEntry) ∈ space.table.leaves →
        (second, secondEntry) ∈ space.table.leaves →
          space.HoldsSlot first slot → space.HoldsSlot second slot →
            first = second := by
  rw [notedSlots, List.Nodup, List.pairwise_filterMap]
  constructor
  · intro apart first second slot firstEntry secondEntry firstLeaf secondLeaf
      firstHolds secondHolds
    by_contra different
    have symmetric : Std.Symm fun first second : Nat × Entry =>
        ∀ slot, space.slotOf? first.1 = some slot →
          ∀ other, space.slotOf? second.1 = some other → slot ≠ other :=
      ⟨fun _ _ distinct other otherHeld slot held same =>
        distinct slot held other otherHeld same.symm⟩
    refine apart.forall firstLeaf secondLeaf
      (fun same => different (congrArg Prod.fst same)) slot
      ((slotOf?_eq_some_iff consistent).mpr firstHolds) slot
      ((slotOf?_eq_some_iff consistent).mpr secondHolds) rfl
  · intro injective
    refine space.table.pairwise_leaves.imp_of_mem ?_
    rintro ⟨first, firstEntry⟩ ⟨second, secondEntry⟩ firstLeaf secondLeaf less
      slot firstHeld _ secondHeld rfl
    exact Nat.ne_of_lt less (injective first second slot firstEntry secondEntry
      firstLeaf secondLeaf ((slotOf?_eq_some_iff consistent).mp firstHeld)
      ((slotOf?_eq_some_iff consistent).mp secondHeld))

theorem length_notedSlots (isPaging : space.isPaging = true)
    (passes : ∀ leaf ∈ space.table.leaves, space.ChecksOut leaf) :
    space.notedSlots.length =
      (space.table.pagesOfKind Entry.isPagedOut).card := by
  rw [notedSlots, List.length_filterMap_eq_countP,
    PageTable.card_pagesOfKind]
  refine List.countP_congr fun leaf member => ?_
  rw [(passes leaf member).isPagedOut_eq member,
    ← ((passes leaf member).bearsOut isPaging).slotOf?_isNone consistent,
    Option.not_isNone]

/-- Leaves that pass and numbers that are the same leave no page without a leaf
and no slot without a page. -/
theorem AddsUp.tracks (addsUp : space.AddsUp)
    (counted : space.swap.IsConsistent) (isPaging : space.isPaging = true)
    (passes : ∀ leaf ∈ space.table.leaves, space.ChecksOut leaf) :
    space.Tracks := by
  have mapped : space.table.pagesOfKind Entry.isValid =
      space.ledger.residentPages := by
    refine Finset.eq_of_subset_of_card_le (fun page member => ?_) ?_
    · obtain ⟨entry, leaf, valid⟩ := PageTable.mem_pagesOfKind.mp member
      exact mem_residentPages_iff.mpr
        (((passes _ leaf).bearsOut isPaging).resident valid)
    · rw [consistent.card_residentPages, PageTable.card_pagesOfKind]
      exact addsUp.residentCount.ge
  have inSwap : space.table.pagesOfKind Entry.isPagedOut =
      space.ledger.swappedPages := by
    refine Finset.eq_of_subset_of_card_le (fun page member => ?_) ?_
    · obtain ⟨entry, leaf, pagedOut⟩ := PageTable.mem_pagesOfKind.mp member
      have invalid := (passes _ leaf).isPagedOut_eq leaf
      rw [pagedOut, eq_comm, Bool.not_eq_true'] at invalid
      obtain ⟨slot, holds, _⟩ :=
        ((passes _ leaf).bearsOut isPaging).swapped invalid
      exact mem_swappedPages_iff.mpr ⟨slot, holds⟩
    · rw [consistent.card_swappedPages, ← addsUp.swappedCount,
        length_notedSlots consistent isPaging passes]
  have leafOf {page slot : Nat} (holds : space.HoldsSlot page slot) :
      ∃ entry, (page, entry) ∈ space.table.leaves ∧
        entry.isPagedOut = true := by
    rw [← PageTable.mem_pagesOfKind, inSwap]
    exact mem_swappedPages_iff.mpr ⟨slot, holds⟩
  have claimed : space.notedSlots.toFinset = space.swap.claimedSlots := by
    refine Finset.eq_of_subset_of_card_le (fun slot member => ?_) ?_
    · obtain ⟨page, entry, leaf, holds⟩ :=
        (mem_notedSlots_iff consistent).mp (List.mem_toFinset.mp member)
      have pagedOut : entry.isValid = false := by
        rw [← ((passes _ leaf).bearsOut isPaging).slotOf?_isNone consistent,
          (slotOf?_eq_some_iff consistent).mpr holds]
        rfl
      obtain ⟨other, otherHolds, isClaimed⟩ :=
        ((passes _ leaf).bearsOut isPaging).swapped pagedOut
      have same := (slotOf?_eq_some_iff consistent).mpr holds
      rw [(slotOf?_eq_some_iff consistent).mpr otherHolds] at same
      cases same
      exact SwapSpace.mem_claimedSlots.mpr isClaimed
    · rw [counted.card_claimedSlots, addsUp.inUse,
        List.toFinset_card_of_nodup addsUp.nodup]
  refine ⟨fun page => ?_, fun page => ?_, fun slot => ?_, ?_,
    addsUp.ceiling⟩
  · rw [← mem_residentPages_iff, ← mapped, PageTable.mem_pagesOfKind]
    rfl
  · rw [← mem_swappedPages_iff, ← inSwap, PageTable.mem_pagesOfKind]
    rfl
  · rw [← SwapSpace.mem_claimedSlots, ← claimed, List.mem_toFinset,
      mem_notedSlots_iff consistent]
    constructor
    · rintro ⟨page, _, _, holds⟩
      exact ⟨page, holds⟩
    · rintro ⟨page, holds⟩
      obtain ⟨entry, leaf, _⟩ := leafOf holds
      exact ⟨page, entry, leaf, holds⟩
  · intro first second slot firstHolds secondHolds
    obtain ⟨firstEntry, firstLeaf, _⟩ := leafOf firstHolds
    obtain ⟨secondEntry, secondLeaf, _⟩ := leafOf secondHolds
    exact (nodup_notedSlots_iff consistent).mp addsUp.nodup first second slot
      firstEntry secondEntry firstLeaf secondLeaf firstHolds secondHolds

theorem Agrees.addsUp (agrees : space.Agrees)
    (counted : space.swap.IsConsistent) (isPaging : space.isPaging = true) :
    space.AddsUp := by
  have tracks := agrees.tracks isPaging
  have length := length_notedSlots consistent isPaging
    fun _ member => agrees.passes member
  have nodup : space.notedSlots.Nodup :=
    (nodup_notedSlots_iff consistent).mpr
      fun _ _ _ _ _ _ _ firstHolds secondHolds =>
        tracks.slot_inj firstHolds secondHolds
  have claimed : space.swap.claimedSlots = space.notedSlots.toFinset := by
    ext slot
    rw [SwapSpace.mem_claimedSlots, tracks.isClaimed_iff, List.mem_toFinset,
      mem_notedSlots_iff consistent]
    constructor
    · rintro ⟨page, holds⟩
      obtain ⟨entry, leaf, _⟩ :=
        (tracks.isPagedOut_iff page).mpr ⟨slot, holds⟩
      exact ⟨page, entry, leaf, holds⟩
    · rintro ⟨page, _, _, holds⟩
      exact ⟨page, holds⟩
  refine ⟨(tracks.residentCount_eq consistent).symm, ?_,
    tracks.residentCount_le, ?_, nodup⟩
  · rw [length, tracks.pagesOfKind_isPagedOut, consistent.card_swappedPages]
  · rw [← counted.card_claimedSlots, claimed,
      List.toFinset_card_of_nodup nodup]

theorem agrees_of_check (counted : space.swap.IsConsistent)
    (passed : space.check = .ok ()) : space.Agrees := by
  obtain ⟨passes, addsUp⟩ := (check_eq_ok_iff consistent).mp passed
  refine ⟨fun page entry leaf => (passes _ leaf).exclusive,
    fun isPaging => (addsUp isPaging).tracks consistent counted isPaging
      passes, ?_⟩
  rintro notPaging page ⟨entry, leaf, pagedOut⟩
  rw [(passes _ leaf).not_isPagedOut notPaging] at pagedOut
  cases pagedOut

theorem Agrees.check_eq_ok (agrees : space.Agrees)
    (counted : space.swap.IsConsistent) : space.check = .ok () :=
  (check_eq_ok_iff consistent).mpr
    ⟨fun _ member => agrees.passes member, agrees.addsUp consistent counted⟩

/-- The check passes exactly if no leaf is both in memory and in swap, a space
under paging has the pages in memory resident, those in swap swapped and the
claimed slots theirs, one each, below the ceiling, and one that is not has none
in swap.  It is for a ledger whose index and counters are true copies of its
places, so each page has one place, and for slots that are counted; page table,
ledger and slots may differ from each other in any way. -/
theorem check_decides_agreement (counted : space.swap.IsConsistent) :
    space.check = .ok () ↔ space.Agrees :=
  ⟨agrees_of_check consistent counted,
    fun agrees => agrees.check_eq_ok consistent counted⟩

end

/-- The page in swap of `crowdedSpace` while its slot is not claimed. -/
def leakySpace : AddressSpace :=
  { crowdedSpace.focus with swap := smallSpace.swap }

theorem check_decides_agreement_of_crowded :
    crowdedSpace.focus.check = .ok () ∧ leakySpace.check ≠ .ok () := by
  constructor
  · exact (check_decides_agreement wellFormed_crowdedSpace.ledger
      wellFormed_crowdedSpace.swap).mpr wellFormed_crowdedSpace.agrees
  · intro passed
    have consistent : leakySpace.ledger.IsConsistent :=
      isConsistent_crowdedSpace
    have counted : leakySpace.swap.IsConsistent :=
      isNew_small.inOrder.wellFormed.swap
    have agrees := (check_decides_agreement consistent counted).mp passed
    have claimed : smallSpace.swap.isClaimed 0 = true :=
      ((agrees.tracks rfl).isClaimed_iff 0).mpr ⟨0, 0, _, rfl, rfl⟩
    exact absurd (claimed.symm.trans
      (isNew_small.isMade.isVacant.slots 0)) Bool.noConfusion

end AddressSpace

end DemandPaging
