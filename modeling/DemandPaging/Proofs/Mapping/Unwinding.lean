import DemandPaging.Proofs.Mapping.Addition

/-!
# Calls that add pages and fail

A call that adds a run of pages and fails takes away those that it added, so
that every page stands as it did before the call.  There is one exception.  The
run may come to a page that is in swap, and if that page is refused its leaf is
cleared while its place and its slot are kept (`Loses`): then the space is
malformed, and it would be well-formed and as before if the leaf were put back.
-/

namespace DemandPaging

namespace AddressSpace

variable {origin state middle after : Hosted AddressSpace}
  {start boundary stop page old new : Nat} {flags permissions : Flags}
  {shown : PageView} {error : PagingError} {table : PageTable}

namespace Gains

theorem nil (formed : NearlyFormed none origin) :
    Gains origin start start shown origin where
  formed := formed
  absent _ low high := absurd high (Nat.not_lt.mpr low)
  view := (patch_of_le (Nat.le_refl _)).symm

theorem view?_of_le (gains : Gains origin start stop shown after)
    {address : Nat} (beyond : stop ≤ address) :
    view? after address = view? origin address := by
  rw [gains.view, patch, if_neg (by omega)]

theorem trans (first : Gains origin start boundary shown middle)
    (second : Gains middle boundary stop shown after)
    (low : start ≤ boundary) (high : boundary ≤ stop) :
    Gains origin start stop shown after where
  formed := second.formed
  absent address above below := by
    rcases Nat.lt_or_ge address boundary with isLow | isHigh
    · exact first.absent address above isLow
    · rw [← first.view?_of_le isHigh]
      exact second.absent address isHigh below
  view := by
    rw [second.view, first.view, patch_patch low high]

end Gains

/-- The page at `page` was there and is lost, and no other page is harmed. -/
structure Loses (origin : Hosted AddressSpace) (page : Nat)
    (error : PagingError) (after : Hosted AddressSpace) : Prop where
  refusal : IsRefusal error
  aligned : Address.pageBase page = page
  wasThere : (view? origin page).isSome = true
  isGone : view? after page = none
  malformed : ¬after.focus.Agrees
  mendable : ∃ table, Lacks after table (some page) ∧
    WellFormed (withTable after table) ∧
      view? (withTable after table) = view? origin

/-- All is as it was. -/
def Intact (origin after : Hosted AddressSpace) : Prop :=
  WellFormed after ∧ view? after = view? origin

/-- The pages from `start` up to `stop` were to be added and were not.  All is
as it was, or a page is lost that was in the way: if it was the first of them it
was in swap, and else it may have left memory for those before it. -/
inductive FailsToAdd (origin : Hosted AddressSpace) (start stop : Nat)
    (error : PagingError) (after : Hosted AddressSpace) : Prop where
  | intact (intact : Intact origin after)
  | loses (page : Nat) (low : start ≤ page) (high : page < stop)
      (absent : ∀ address, start ≤ address → address < page →
        view? origin address = none)
      (isPagedOut : page = start → origin.focus.IsPagedOut page)
      (loses : Loses origin page error after)

theorem Shown.loses (shows : Shown (view? origin) (some page) table after)
    (aligned : Address.pageBase page = page)
    (wasThere : (view? origin page).isSome = true)
    (refusal : IsRefusal error) : Loses origin page error after := by
  have formed := shows.formed
  have missing : (pager after).entryAt page = Entry.empty := by
    rw [shows.lacks page, aligned, if_pos rfl]
  have isPresent :
      ((pager (withTable after table)).entryAt page).isPresent = true := by
    rw [← Pager.isSome_view?]
    exact (congrArg Option.isSome (congrFun shows.view page)).trans wasThere
  obtain ⟨residence, known, _⟩ :=
    formed.nearly.known formed.ledger aligned isPresent
  refine ⟨refusal, aligned, wasThere, if_neg ?_, fun agrees => ?_,
    table, shows.lacks, formed.wellFormed, shows.view⟩
  · rw [missing]
    exact Bool.false_ne_true
  · -- The place of the page would have to have a leaf.
    have nearly := agrees.nearlyTracks formed.isPaging
    have same : (pager after).residenceOf? page = some residence := known
    obtain rfl | ⟨slot, rfl⟩ := formed.ledger.resident_or_swapped known
    · have isValid := (nearly.isValid_of_resident formed.ledger same).2
      rw [missing] at isValid
      cases isValid
    · have isPagedOut := (nearly.isPagedOut_of_swapped formed.ledger same).2
      rw [missing] at isPagedOut
      cases isPagedOut

theorem lost?_eq_some_iff {gone : Nat} : lost? state page error = some gone ↔
    page = gone ∧ error ≠ .outOfMemory ∧
      ((pager state).entryAt page).isPagedOut = true := by
  rw [lost?, inSwap?]
  split
  · simp [*]
  · split <;> simp [*]

/-- Once the pages that were added are gone again, all is as it was, or the one
page that could not be added is lost. -/
theorem Shown.intact_or_loses
    (shows : Shown (view? origin) (lost? state page error) table after)
    (kind : error = .outOfMemory ∨ IsRefusal error)
    (aligned : Address.pageBase page = page)
    (same : view? state page = view? origin page) :
    Intact origin after ∧ lost? state page error = none ∨
      Loses origin page error after ∧ lost? state page error = some page := by
  cases isLost : lost? state page error with
  | none =>
      rw [isLost] at shows
      exact .inl ⟨⟨shows.intact.1.wellFormed, shows.intact.2⟩, rfl⟩
  | some gone =>
      rw [isLost] at shows
      obtain ⟨rfl, isRefused, isPagedOut⟩ := lost?_eq_some_iff.mp isLost
      have isThere : (view? state page).isSome = true := by
        refine (Pager.isSome_view? _ _).trans ?_
        rw [Entry.isPresent, isPagedOut, Bool.or_true]
      rw [same] at isThere
      exact .inr ⟨shows.loses aligned isThere (kind.resolve_left isRefused),
        rfl⟩

/-- A run of pages is added behind those that were added since `origin`, or all
of them are taken away again. -/
theorem meets_addRun_of_gains (count : Nat)
    (gains : Gains origin start page
      ⟨flags.permissions, some (Page.ofList []).toList⟩ state)
    (begins : start = Address.pageCeil old) (le : start ≤ page)
    (unchanged : page = start → state = origin)
    (aligned : Address.pageBase page = page)
    (isRead : flags.read = true) (isClear : flags.pagedOut = false) :
    ((addRun flags old page count).run state).Meets (fun _ => True)
      (fun _ => Gains origin start (page + count * pageSize)
        ⟨flags.permissions, some (Page.ofList []).toList⟩)
      (FailsToAdd origin start (page + count * pageSize)) := by
  induction count generalizing state page with
  | zero =>
      rw [Nat.zero_mul]
      exact gains
  | succ count ih =>
      have further := Address.add_succ_mul_pageSize page count
      have next := Address.pageBase_next aligned
      rw [further, addRun]
      refine Action.meets_bind (Action.meets_onFailure
        (meets_addPage_of_nearlyFormed gains.formed [] aligned isRead
          isClear) ?_) ?_
      · -- The pages that were added before the one that failed go again.
        rintro error refused ⟨kind, table, shows⟩
        refine Action.meets_bind (meets_shrink_of_shown shows aligned ?_) ?_
        · intro gone isLost
          obtain ⟨rfl, _⟩ := lost?_eq_some_iff.mp isLost
          exact Nat.le_refl _
        rintro _ after ⟨left, shrunk⟩
        rw [← begins, gains.view, patch_patch_self gains.absent] at shrunk
        obtain ⟨intact, _⟩ | ⟨loses, isLost⟩ := shrunk.intact_or_loses kind
          aligned (gains.view?_of_le (Nat.le_refl _))
        · exact .intact intact
        · have inside : page < page + pageSize + count * pageSize := by
            simp only [pageSize]
            omega
          refine .loses page le inside gains.absent (fun isFirst => ?_) loses
          rw [unchanged isFirst] at isLost
          exact (isPagedOut_iff origin page).mpr
            ⟨aligned, (lost?_eq_some_iff.mp isLost).2.2⟩
      rintro _ middle added
      refine ih (gains.trans added le (Nat.le_add_right _ _))
        (Nat.le_add_right_of_le le) (fun isFirst => ?_) next
      simp only [pageSize] at isFirst
      omega

/-- Memory that grows has new pages up to its new end, or every page that was
there stands as it did, but for at most one. -/
theorem meets_grow_of_nearlyFormed (formed : NearlyFormed none state)
    (le : old ≤ new) (isClear : permissions.pagedOut = false) :
    ((grow old new permissions).run state).Meets (fun _ => True)
      (fun size after => size = new ∧
        Gains state (Address.pageCeil old) (Address.pageCeil new)
          ⟨(grownFlags permissions).permissions,
            some (Page.ofList []).toList⟩ after)
      (FailsToAdd state (Address.pageCeil old) (Address.pageCeil new)) := by
  rw [grow, if_neg (Nat.not_lt.mpr le)]
  refine Action.meets_roundUp_bind (fun _ => trivial) fun _ => ?_
  have isRead : (grownFlags permissions).read = true := Bool.or_true _
  have notPagedOut : (grownFlags permissions).pagedOut = false := by
    rw [grownFlags, Flags.union, isClear]
    rfl
  have aligned : Address.pageBase (Address.pageCeil old) =
      Address.pageCeil old :=
    Address.pageBase_eq_self_iff.mpr (Address.isPageAligned_pageCeil old)
  have adds := meets_addRun_of_gains (grownPages old new) (.nil formed) rfl
    (Nat.le_refl _) (fun _ => rfl) aligned isRead notPagedOut
  rw [pageCeil_add_grownPages le] at adds
  exact Action.meets_bind adds fun _ after gains => ⟨rfl, gains⟩

/-- The flags of the first page. -/
def firstFlags : Flags :=
  { read := true, write := true, exec := true, user := true }

/-- A call that adds pages adds them where there were none.  If it fails, every
page that was there stands as it did, unless one of those that it was to add was
in swap by then and was refused: then that page has lost its leaf, and nothing
else is amiss. -/
theorem adds_or_unwinds (wellFormed : WellFormed state)
    (isPaging : state.focus.isPaging = true) :
    (∀ code : List UInt8, ((firstPage code).run state).Meets (fun _ => True)
      (fun _ => Gains state 0 pageSize
        ⟨firstFlags.permissions, some (Page.ofList code).toList⟩)
      (fun error after =>
        Intact state after ∧
            (error = .outOfMemory ∨ ¬state.focus.IsPagedOut 0) ∨
          Loses state 0 error after ∧ state.focus.IsPagedOut 0)) ∧
    ∀ (old new : Nat) (permissions : Flags), old ≤ new →
      permissions.pagedOut = false →
        ((grow old new permissions).run state).Meets (fun _ => True)
          (fun size after => size = new ∧
            Gains state (Address.pageCeil old) (Address.pageCeil new)
              ⟨(grownFlags permissions).permissions,
                some (Page.ofList []).toList⟩ after)
          (FailsToAdd state (Address.pageCeil old)
            (Address.pageCeil new)) := by
  have formed := wellFormed.nearlyFormed isPaging
  refine ⟨fun code => ?_, fun old new permissions le isClear =>
    meets_grow_of_nearlyFormed formed le isClear⟩
  rw [firstPage]
  refine Action.meets_crashUnless_bind (fun _ => trivial) fun _ => ?_
  have adds := meets_addPage_of_nearlyFormed formed code
    (rfl : Address.pageBase 0 = 0) (rfl : firstFlags.read = true) rfl
  rw [Nat.zero_add] at adds
  refine adds.mono_failed fun error after unwinds => ?_
  obtain ⟨kind, table, shows⟩ := unwinds
  have inSwap : state.focus.IsPagedOut 0 ↔
      ((pager state).entryAt 0).isPagedOut = true :=
    (isPagedOut_iff state 0).trans (and_iff_right rfl)
  obtain ⟨intact, notLost⟩ | ⟨loses, isLost⟩ :=
    shows.intact_or_loses kind rfl rfl
  · refine .inl ⟨intact, ?_⟩
    by_cases exhausted : error = .outOfMemory
    · exact .inl exhausted
    · refine .inr fun isPagedOut => ?_
      have lost := lost?_eq_some_iff.mpr
        ⟨rfl, exhausted, inSwap.mp isPagedOut⟩
      cases notLost.symm.trans lost
  · exact .inr ⟨loses, inSwap.mpr (lost?_eq_some_iff.mp isLost).2.2⟩

/-- A space with a single place, which a page in swap has. -/
def crowdedSpace : Hosted AddressSpace :=
  ⟨{ smallSpace with
    table := (smallSpace.table.addTable 0).write 0
      (Entry.pagedOut { read := true, user := true })
    ledger :=
      { places := #[⟨.swapped 0 0, 0⟩]
        index := (∅ : Std.TreeMap Nat Nat).insert 0 0
        maxResident := 1
        residentCount := 0
        swappedCount := 1
        generation := 0 }
    swap := smallSpace.swap.take 0
    config := ⟨1, 0, .scfifo⟩ }, smallHost⟩

theorem places_crowdedSpace {handle : Nat} {tracked : Tracked} :
    crowdedSpace.focus.ledger.places[handle]? = some tracked ↔
      handle = 0 ∧ tracked = ⟨.swapped 0 0, 0⟩ := by
  cases handle <;> simp [crowdedSpace, eq_comm]

theorem leaf_crowdedSpace {page : Nat} {entry : Entry} :
    (page, entry) ∈ crowdedSpace.focus.table.leaves ↔
      page = 0 ∧ entry = Entry.pagedOut { read := true, user := true } := by
  have written : crowdedSpace.focus.table.entryAt page =
      if Address.pageBase page = 0 then
        Entry.pagedOut { read := true, user := true }
      else Entry.empty := entryAt_write_small _ page
  rw [PageTable.mem_leaves_iff_entryAt, written]
  constructor
  · rintro ⟨aligned, rfl, isPresent⟩
    rw [aligned] at isPresent ⊢
    by_cases isFirst : page = 0
    · exact ⟨isFirst, if_pos isFirst⟩
    · rw [if_neg isFirst] at isPresent
      cases isPresent
  · rintro ⟨rfl, rfl⟩
    exact ⟨rfl, rfl, rfl⟩

theorem isConsistent_crowdedSpace :
    crowdedSpace.focus.ledger.IsConsistent where
  find?_eq_some_iff address handle := by
    simp only [places_crowdedSpace]
    have indexed : crowdedSpace.focus.ledger.find? address =
        if 0 = address then some 0 else none := by
      simp [Ledger.find?, crowdedSpace, Std.TreeMap.getElem?_insert]
    rw [indexed]
    constructor
    · intro found
      split at found
      · cases found
        exact ⟨_, ⟨rfl, rfl⟩, rfl, ‹_›⟩
      · cases found
    · rintro ⟨_, ⟨rfl, rfl⟩, _, rfl⟩
      rfl
  residentCount_eq := rfl
  swappedCount_eq := rfl

theorem isPagedOut_crowdedSpace {page : Nat} :
    crowdedSpace.focus.IsPagedOut page ↔ page = 0 := by
  simp only [IsPagedOut, leaf_crowdedSpace]
  constructor
  · rintro ⟨_, ⟨rfl, _⟩, _⟩
    rfl
  · rintro rfl
    exact ⟨_, ⟨rfl, rfl⟩, rfl⟩

theorem holdsSlot_crowdedSpace {page slot : Nat} :
    crowdedSpace.focus.HoldsSlot page slot ↔ page = 0 ∧ slot = 0 := by
  simp only [HoldsSlot, places_crowdedSpace]
  constructor
  · rintro ⟨_, _, ⟨_, rfl⟩, swapped⟩
    cases swapped
    exact ⟨rfl, rfl⟩
  · rintro ⟨rfl, rfl⟩
    exact ⟨0, _, ⟨rfl, rfl⟩, rfl⟩

theorem tracks_crowdedSpace : crowdedSpace.focus.Tracks where
  isMapped_iff page := by
    simp only [IsMapped, IsResident, leaf_crowdedSpace, places_crowdedSpace]
    refine iff_of_false ?_ ?_
    · rintro ⟨_, ⟨_, rfl⟩, isValid⟩
      cases isValid
    · rintro ⟨_, _, ⟨_, rfl⟩, resident⟩
      cases resident
  isPagedOut_iff page := by
    simp [isPagedOut_crowdedSpace, holdsSlot_crowdedSpace]
  isClaimed_iff slot := by
    have isFree : smallSpace.swap.used[0]? = some false := rfl
    have vacant : smallSpace.swap.isClaimed slot = false :=
      isNew_small.isMade.isVacant.slots slot
    have claimed : crowdedSpace.focus.swap.isClaimed slot =
        if slot = 0 then true else smallSpace.swap.isClaimed slot :=
      SwapSpace.isClaimed_take_of_free isFree slot
    rw [claimed, vacant]
    simp [holdsSlot_crowdedSpace]
  slot_inj first second :=
    (holdsSlot_crowdedSpace.mp first).1.trans
      (holdsSlot_crowdedSpace.mp second).1.symm
  residentCount_le := Nat.zero_le _

theorem wellFormed_crowdedSpace : WellFormed crowdedSpace where
  agrees :=
    { exclusive := by
        rintro page entry leaf ⟨isValid, _⟩
        obtain ⟨_, rfl⟩ := leaf_crowdedSpace.mp leaf
        cases isValid
      tracks := fun _ => tracks_crowdedSpace
      not_isPagedOut := nofun }
  ledger := isConsistent_crowdedSpace
  swap := isNew_small.inOrder.wellFormed.swap.take rfl
  pool := FramePool.isConsistent_new 3
  pool_lt := by decide
  total_le := by decide
  maxResident_eq := rfl
  capacity_eq := rfl
  maxSwap_le := Nat.zero_le _
  maxResident_pos _ := Nat.one_pos
  isPaging_policy _ := rfl
  page_lt page entry leaf := by
    obtain ⟨rfl, _⟩ := leaf_crowdedSpace.mp leaf
    decide
  readable page entry leaf isValid := by
    obtain ⟨_, rfl⟩ := leaf_crowdedSpace.mp leaf
    cases isValid
  framed page entry leaf isValid := by
    obtain ⟨_, rfl⟩ := leaf_crowdedSpace.mp leaf
    cases isValid
  frame_inj first second firstEntry secondEntry leaf _ isValid := by
    obtain ⟨_, rfl⟩ := leaf_crowdedSpace.mp leaf
    cases isValid

theorem adds_or_unwinds_of_crowded :
    WellFormed crowdedSpace ∧ crowdedSpace.focus.isPaging = true ∧
      ∃ error after, (firstPage []).run crowdedSpace = .failed error after ∧
        Loses crowdedSpace 0 error after := by
  have computed : (match (firstPage []).run crowdedSpace with
      | .failed error _ => error != .outOfMemory
      | _ => false) = true := by
    decide +kernel
  obtain ⟨first, _⟩ := adds_or_unwinds wellFormed_crowdedSpace rfl
  have meets := first []
  refine ⟨wellFormed_crowdedSpace, rfl, ?_⟩
  cases ran : (firstPage []).run crowdedSpace with
  | done _ _ =>
      rw [ran] at computed
      cases computed
  | fatal _ =>
      rw [ran] at computed
      cases computed
  | failed error after =>
      rw [ran] at computed meets
      refine ⟨error, after, rfl, ?_⟩
      obtain ⟨_, exhausted | notThere⟩ | ⟨loses, _⟩ := meets
      · exact absurd exhausted (bne_iff_ne.mp computed)
      · exact absurd (isPagedOut_crowdedSpace.mpr rfl) notThere
      · exact loses

end AddressSpace

end DemandPaging
