import DemandPaging.Proofs.Growth.Leaving
import DemandPaging.Proofs.Growth.Means
import DemandPaging.Proofs.Growth.Pending
import DemandPaging.Proofs.Mapping.Addition
import DemandPaging.Proofs.UserCopy.PageIn

/-!
# Pages that are added, and what they cost

A page that is added costs a frame and, under paging, a place; if memory is full
another page leaves for it and gives a frame back (`Joins`).  A page that is not
added costs nothing (`Remains`), and something was short (`Shortage`).  Either
way the space is well-formed afterwards.
-/

namespace DemandPaging

namespace AddressSpace

variable {origin state middle after : Hosted AddressSpace} {page frame : Nat}
  {flags : Flags} {contents : Page} {frames : FramePool}
  {table : PageTable} {error : PagingError}

/-- The page at `page` takes a free place.  For it `evicted` pages leave
memory. -/
structure Enters (before : Hosted AddressSpace) (page evicted : Nat)
    (after : Hosted AddressSpace) : Prop where
  place : ∃ handle,
    before.focus.ledger.residenceAt? handle = some .free ∧
    after.focus.ledger.residenceAt? handle = some (.resident page) ∧
    ∀ other, other ≠ handle →
      before.focus.ledger.RecedesAt after.focus.ledger other
  residentCount : after.focus.ledger.residentCount + evicted =
    before.focus.ledger.residentCount + 1
  swappedCount : after.focus.ledger.swappedCount =
    before.focus.ledger.swappedCount + evicted
  evictions : after.focus.stats.evictions =
    before.focus.stats.evictions + evicted
  generation_le : after.focus.ledger.generation ≤
    before.focus.ledger.generation +
      (before.focus.ledger.residentCount + 1)

/-- The page at `page` is added.  It has a frame, which was free; under paging
it also has a place, and another page left memory for it if memory was full. -/
structure Joins (before : Hosted AddressSpace) (page : Nat)
    (after : Hosted AddressSpace) : Prop where
  wellFormed : WellFormed after
  setting : SameSetting before after
  isPresent : ∀ address, ((pager after).entryAt address).isPresent =
    if Address.pageBase address = page then true
    else ((pager before).entryAt address).isPresent
  budget : after.focus.table.budget = before.focus.table.budget
  isReliable : before.focus.swap.IsReliable → after.focus.swap.IsReliable
  hasFrame : 0 < (pager before).frames.freeCount
  tracked : before.focus.isPaging = true →
    Enters before page before.focus.ledger.isResidentFull.toNat after ∧
    (pager after).frames.freeCount + 1 = (pager before).frames.freeCount +
      before.focus.ledger.isResidentFull.toNat
  plain : before.focus.isPaging = false →
    after.focus.ledger = before.focus.ledger ∧
    after.focus.swap = before.focus.swap ∧
    (pager after).frames.freeCount + 1 = (pager before).frames.freeCount

/-- Every page is where it was, and no frame is lost. -/
structure Remains (before after : Hosted AddressSpace) : Prop where
  wellFormed : WellFormed after
  setting : SameSetting before after
  isPresent : ∀ address, ((pager after).entryAt address).isPresent =
    ((pager before).entryAt address).isPresent
  places : ∀ handle, after.focus.ledger.residenceAt? handle =
    before.focus.ledger.residenceAt? handle
  residentCount :
    after.focus.ledger.residentCount = before.focus.ledger.residentCount
  swap : after.focus.swap = before.focus.swap
  freeCount :
    (pager after).frames.freeCount = (pager before).frames.freeCount

/-- What was short when a page was not added: a frame for it or for a page
table, a place in the ledger, or a swap file that takes the page that was to
leave. -/
inductive Shortage (state : Hosted AddressSpace) : PagingError → Prop where
  | noFrame (noneFree : (pager state).frames.freeCount = 0) :
      Shortage state .outOfMemory
  | noTable (budget : state.focus.table.budget ≠ none) :
      Shortage state .outOfMemory
  | noPlace (hasFrame : 0 < (pager state).frames.freeCount)
      (isPaging : state.focus.isPaging = true)
      (isFull : state.focus.ledger.isFull = true) :
      Shortage state (.tooManyPages state.focus.ledger.capacity)
  | noTransfer (isPaging : state.focus.isPaging = true)
      (unreliable : ¬state.focus.swap.IsReliable)
      (failure : TransferError) : Shortage state (.swapTransfer failure)

theorem Resembles.stays (same : Resembles state after) : Stays state after :=
  ⟨congrArg AddressSpace.pool same.focus, congrArg Array.size same.pools,
    fun number _ => same.pool number⟩

theorem WellFormed.of_retains (wellFormed : WellFormed state)
    (retains : (pager state).Retains (pager after)) (served : IsServed after) :
    WellFormed after :=
  Housed.wellFormed
    ⟨served, retains.ledger, retains.houses wellFormed.housed.houses⟩
    (wellFormed.isFormed.of_retains retains served).agrees

theorem WellFormed.remains (wellFormed : WellFormed state)
    (retains : (pager state).Retains (pager after))
    (stays : Stays state after)
    (places : ∀ handle, after.focus.ledger.residenceAt? handle =
      state.focus.ledger.residenceAt? handle)
    (freeCount : (pager after).frames.freeCount =
      (pager state).frames.freeCount) : Remains state after where
  wellFormed := wellFormed.of_retains retains
    (wellFormed.housed.served.of_stays stays)
  setting := stays.setting retains.shape
  isPresent address := (retains.alike address).isPresent
  places := places
  residentCount := retains.residentCount
  swap := retains.swap
  freeCount := freeCount

theorem WellFormed.remains_of_resembles (wellFormed : WellFormed state)
    (same : Resembles state after) : Remains state after := by
  refine wellFormed.remains ?_ same.stays (fun handle => ?_) ?_
  · rw [same.pager]
    exact .refl wellFormed.ledger wellFormed.pool
  · rw [same.focus]
  · rw [same.pager]

theorem WellFormed.remains_of_heldBy {back : FramePool}
    (wellFormed : WellFormed state) (held : (pager state).HeldBy back)
    (freeCount : back.freeCount = (pager state).frames.freeCount)
    (same : Resembles (withFrames state back) after) : Remains state after := by
  have served := wellFormed.housed.served
  have becomes := becomes_setPool served back
  refine wellFormed.remains ?_ (becomes.stays.trans same.stays)
    (fun handle => ?_) ?_
  · rw [same.pager, pager_withFrames served]
    exact held.retains wellFormed.ledger
  · rw [same.focus]
    rfl
  · rw [same.pager, pager_withFrames served]
    exact freeCount

/-- What is said of a page that is added does not depend on transfers and
events. -/
theorem Joins.of_resembles (joins : Joins origin page state)
    (same : Resembles state after) : Joins origin page after := by
  obtain ⟨focus, pools, transfers, events⟩ := after
  obtain rfl : focus = state.focus := same.focus
  obtain rfl : pools = state.host.pools := same.pools
  exact { joins with
    wellFormed := { joins.wellFormed with }
    setting := { joins.setting with }
    tracked := fun isPaging =>
      ⟨{ (joins.tracked isPaging).1 with }, (joins.tracked isPaging).2⟩ }

namespace Newcomer

variable (newcomer : Newcomer state page)
  (formed : NearlyFormed (some page) state)

include formed

theorem vacates : Vacates state newcomer.roomy
    state.focus.ledger.isResidentFull.toNat :=
  newcomer.vacancy.vacates formed

theorem enters :
    Enters state page state.focus.ledger.isResidentFull.toNat
      newcomer.after := by
  have vacates := newcomer.vacates formed
  obtain ⟨old, unused, _, settles⟩ := newcomer.settled vacates.isConsistent
  have wasFree :
      newcomer.roomy.focus.ledger.residenceAt? newcomer.handle =
        some .free := by
    rw [Ledger.residenceAt?_of_place settles.place, unused]
  have sameSwapped : newcomer.ledger.swappedCount =
      newcomer.roomy.focus.ledger.swappedCount := by
    refine vacates.isConsistent.swappedCount_congr settles.isConsistent
      fun handle other slot => ?_
    rw [settles.residence]
    by_cases here : handle = newcomer.handle
    · rw [if_pos here, here, wasFree]
      exact iff_of_false nofun nofun
    · rw [if_neg here]
  exact {
    place := by
      refine ⟨newcomer.handle, (vacates.recedes _).free wasFree,
        (settles.residence _).trans (if_pos rfl), fun other elsewhere => ?_⟩
      have still := (settles.residence other).trans (if_neg elsewhere)
      exact (vacates.recedes other).trans (.inl still)
    residentCount := by
      have more := settles.residentCount
      have fewer := vacates.residentCount
      change newcomer.ledger.residentCount + _ = _
      omega
    swappedCount := sameSwapped.trans vacates.swappedCount
    evictions := vacates.evictions
    generation_le := by
      have earlier := vacates.generation_le
      have ticks :=
        generation_le_of_settle vacates.isConsistent newcomer.settles
      change newcomer.ledger.generation ≤ _
      omega }

theorem setting : SameSetting state newcomer.after := by
  have vacates := newcomer.vacates formed
  obtain ⟨_, _, _, settles⟩ := newcomer.settled vacates.isConsistent
  have settling : SameSetting newcomer.roomy newcomer.after :=
    ⟨rfl, rfl, rfl, settles.maxResident, settles.capacity, rfl,
      fun _ _ => rfl⟩
  exact vacates.setting.trans settling

theorem freeCount : (pager newcomer.after).frames.freeCount =
    (pager state).frames.freeCount +
      state.focus.ledger.isResidentFull.toNat := by
  have vacates := newcomer.vacates formed
  change (newcomer.roomy.host.pool newcomer.roomy.focus.pool).freeCount = _
  rw [vacates.setting.pool]
  exact vacates.freeCount

end Newcomer

theorem stays_mounted (served : IsServed origin) (frames : FramePool)
    (table : PageTable) : Stays origin (mounted origin frames table) :=
  { (becomes_setPool served frames).stays with }

theorem NearlyFormed.residenceOf?_eq_none (formed : NearlyFormed none state)
    (absent : ((pager state).entryAt page).isPresent = false) :
    (pager state).residenceOf? page = none := by
  obtain ⟨notValid, notPagedOut⟩ := Bool.or_eq_false_iff.mp absent
  cases known : (pager state).residenceOf? page with
  | none => rfl
  | some residence =>
      obtain ⟨taken, located⟩ := formed.ledger.address_of_residenceOf? known
      cases residence with
      | free => cases taken
      | resident other =>
          obtain rfl : other = page := located
          have isValid :=
            (formed.nearly.isValid_of_resident formed.ledger known).2
          cases notValid.symm.trans isValid
      | swapped other slot =>
          obtain rfl : other = page := located
          have isPagedOut :=
            (formed.nearly.isPagedOut_of_swapped formed.ledger known).2
          cases notPagedOut.symm.trans isPagedOut

namespace Mounts

variable (mounts : Mounts origin page frame flags contents frames table)
  (oneLess : frames.freeCount + 1 = (pager origin).frames.freeCount)
  (budget : table.budget = origin.focus.table.budget)

include mounts

theorem isPresent (address : Nat) :
    ((pager (mounted origin frames table)).entryAt address).isPresent =
      if Address.pageBase address = page then true
      else ((pager origin).entryAt address).isPresent := by
  change (table.entryAt address).isPresent = _
  rw [mounts.entryAt]
  split <;> rfl

include oneLess budget

theorem joins (wellFormed : WellFormed origin)
    (notPaging : origin.focus.isPaging = false) (isRead : flags.read = true)
    (isClear : flags.pagedOut = false) :
    Joins origin page (mounted origin frames table) := by
  have housed := wellFormed.housed
  have sameFrames := frames_mounted housed.served frames table
  have settled : Housed (mounted origin frames table) :=
    ⟨housed.served.withFrames frames, wellFormed.ledger,
      mounts.houses housed isRead⟩
  exact {
    wellFormed := by
      refine settled.wellFormed
        (agrees_of_not_isPaging notPaging fun address => ?_)
      change (table.entryAt address).isPagedOut = false
      rw [mounts.entryAt]
      split
      · exact isClear
      · exact wellFormed.isFormed.isPagedOut_eq_false notPaging
    setting :=
      (stays_mounted housed.served frames table).setting
        (mounts.shape housed.served)
    isPresent := mounts.isPresent
    budget := budget
    isReliable := id
    hasFrame := by omega
    tracked := fun isPaging => nomatch notPaging.symm.trans isPaging
    plain := fun _ => ⟨rfl, rfl, by rwa [sameFrames]⟩ }

theorem joins_after (formed : NearlyFormed none origin)
    (pending : NearlyFormed (some page) (mounted origin frames table))
    (newcomer : Newcomer (mounted origin frames table) page) :
    Joins origin page newcomer.after := by
  have sameFrames := frames_mounted formed.served frames table
  obtain ⟨sameBudget, reliable⟩ := newcomer.vacancy.means
  exact {
    wellFormed := (newcomer.nearlyFormed pending mounts.aligned).wellFormed
    setting := ((stays_mounted formed.served frames table).setting
      (mounts.shape formed.served)).trans (newcomer.setting pending)
    isPresent := by
      intro address
      have sameView :=
        congrFun (newcomer.view? pending mounts.aligned) address
      rw [← Pager.isSome_view?, ← mounts.isPresent, ← Pager.isSome_view?]
      exact congrArg Option.isSome sameView
    budget := (PageTable.budget_update _ _ _).trans (sameBudget.trans budget)
    isReliable := reliable
    hasFrame := by omega
    tracked := by
      intro _
      have enters := newcomer.enters pending
      refine ⟨{ enters with }, ?_⟩
      have given := newcomer.freeCount pending
      rw [sameFrames] at given
      change _ = frames.freeCount + origin.focus.ledger.isResidentFull.toNat
        at given
      omega
    plain := fun notPaging => nomatch notPaging.symm.trans formed.isPaging }

omit oneLess budget in
/-- If the page is taken back, every page is where it was. -/
theorem remains_of_withdraw {fatal : Fatal → Prop}
    {failed : PagingError → Hosted AddressSpace → Prop}
    (formed : NearlyFormed none origin)
    (oneLess : frames.freeCount + 1 = (pager origin).frames.freeCount)
    (absent : ((pager origin).entryAt page).isPresent = false)
    (retains : (pager (mounted origin frames table)).Retains (pager state))
    (stays : Stays (mounted origin frames table) state)
    (places : ∀ handle, state.focus.ledger.residenceAt? handle =
      origin.focus.ledger.residenceAt? handle)
    (freeCount : (pager state).frames.freeCount = frames.freeCount) :
    ((withdraw page frame).run state).Meets fatal (fun _ => Remains origin)
      failed := by
  have toMounted := stays_mounted formed.served frames table
  have served := formed.served.of_stays (toMounted.trans stays)
  refine (mounts.withdraws formed retains served).mono_done ?_
  rintro _ after ⟨back, released, becomes⟩
  have restores := mounts.retains_restored formed retains released
  have noLeaf : leafOf origin page = Entry.empty :=
    if_neg (Bool.eq_false_iff.mp (Bool.or_eq_false_iff.mp absent).2)
  rw [noLeaf, ← becomes.parts] at restores
  refine formed.wellFormed.remains restores
    ((toMounted.trans stays).trans becomes.stays) (fun handle => ?_) ?_
  · have sameLedger : after.focus.ledger = state.focus.ledger :=
      congrArg Pager.ledger becomes.parts
    rw [sameLedger]
    exact places handle
  · have sameFrames : (pager after).frames = back :=
      congrArg Pager.frames becomes.parts
    rw [sameFrames, FramePool.freeCount_of_release released, freeCount]
    exact oneLess

/-- A page that is mapped comes to be tracked, or is taken back. -/
theorem joins_or_remains_of_track (formed : NearlyFormed none origin)
    (absent : ((pager origin).entryAt page).isPresent = false)
    (isRead : flags.read = true) (isClear : flags.pagedOut = false)
    (same : Resembles (mounted origin frames table) state) :
    (((track page).onFailure fun _ => withdraw page frame).run state).Meets
      (RunsLate origin ((pager origin).turns + 1))
      (fun _ => Joins origin page)
      (fun error after => Remains origin after ∧ Shortage origin error) := by
  have notPagedOut := (Bool.or_eq_false_iff.mp absent).2
  have pending := mounts.nearlyFormed formed notPagedOut isRead isClear
  have sameFrames := frames_mounted formed.served frames table
  have pool : (pager (mounted origin frames table)).frames.IsConsistent := by
    rw [sameFrames]
    exact mounts.aside.held.isConsistent
  have isValid :
      ((pager (mounted origin frames table)).entryAt page).isValid = true := by
    rw [mounts.rewrites.entryAt_page]
    rfl
  refine Action.meets_onFailure
    (((resembles_track_or_ends same).and isFull_of_track).mono_fatal ?_ |>.mono_done
      ?_) ?_
  · intro cause ends
    have late := ends.runsLate pending
      (formed.residenceOf?_eq_none absent) isValid
    have turns := formed.residentCount_le_turns nofun
    exact late.mono (Nat.succ_le_succ turns)
  · rintro _ after ⟨⟨newcomer, tracked⟩, _⟩
    exact (mounts.joins_after oneLess budget formed pending
      newcomer).of_resembles tracked
  rintro error middle ⟨⟨rfl, isFull, unchanged⟩ |
    ⟨candidate, ⟨failure, rfl⟩, refused⟩, whenReliable⟩
  · refine (mounts.remains_of_withdraw formed oneLess absent ?_ unchanged.stays
      (fun handle => ?_) ?_).mono_done fun _ after remains => ⟨remains, ?_⟩
    · rw [unchanged.pager]
      exact .refl pending.ledger pool
    · rw [unchanged.focus]
      rfl
    · rw [unchanged.pager, sameFrames]
    · exact .noPlace (by omega) formed.isPaging isFull
  · have chances := chances_of_select pending.ledger pending.isAligned
      candidate.selects
    have toRefused : Stays (mounted origin frames table) candidate.refused :=
      ⟨rfl, rfl, fun _ _ => rfl⟩
    refine (mounts.remains_of_withdraw formed oneLess absent ?_
      (toRefused.trans refused.stays) (fun handle => ?_) ?_).mono_done
        fun _ after remains => ⟨remains, ?_⟩
    · rw [refused.pager]
      exact candidate.retains pending.ledger pending.isAligned pool
    · rw [refused.focus]
      exact chances.residence handle
    · rw [refused.pager]
      exact congrArg FramePool.freeCount sameFrames
    · refine .noTransfer formed.isPaging (fun reliable => ?_) failure
      have sameSwap : state.focus.swap = origin.focus.swap := by
        rw [same.focus]
        rfl
      obtain ⟨_, impossible⟩ := whenReliable (sameSwap ▸ reliable)
      cases impossible

end Mounts

/-- A page is added where there was none, or every page is where it was and
something was short. -/
theorem joins_or_remains (wellFormed : WellFormed state) (bytes : List UInt8)
    (aligned : Address.pageBase page = page) (inside : page < addressLimit)
    (absent : ((pager state).entryAt page).isPresent = false)
    (isRead : flags.read = true) (isClear : flags.pagedOut = false) :
    ((addPage page bytes flags).run state).Meets
      (RunsLate state ((pager state).turns + 1)) (fun _ => Joins state page)
      (fun error after => Remains state after ∧ Shortage state error) := by
  have housed := wellFormed.housed
  have notValid := (Bool.or_eq_false_iff.mp absent).1
  rw [addPage]
  refine meets_borrow housed bytes (fun noneFree after unchanged =>
    ⟨wellFormed.remains_of_resembles unchanged, .noFrame noneFree⟩) ?_
  intro frame frames middle oneLess aside borrows
  rw [install]
  refine Action.meets_bind ((meets_place_of_setsAside housed aside borrows
    aligned fun misplaced => ?_).mono_failed ?_) ?_
  · cases notValid.symm.trans (misplaced inside)
  · rintro error after ⟨rfl, budget, back, count, held, returned⟩
    exact ⟨wellFormed.remains_of_heldBy held (count.trans oneLess) returned,
      .noTable budget⟩
  rintro _ placed ⟨table, budget, mounts, places⟩
  have samePaging : placed.focus.isPaging = state.focus.isPaging := by
    rw [places.focus]
    rfl
  have enrolls : (enroll page).run placed =
      (Action.runIf state.focus.isPaging (track page)).run placed := by
    rw [enroll, Action.run_bind_of_done (run_look _), samePaging]
  rw [Action.run_onFailure, enrolls]
  cases isPaging : state.focus.isPaging with
  | false =>
      exact (mounts.joins oneLess budget wellFormed isPaging isRead
        isClear).of_resembles places
  | true =>
      have tracks := mounts.joins_or_remains_of_track oneLess budget
        (wellFormed.nearlyFormed isPaging) absent isRead isClear places
      rw [Action.run_onFailure] at tracks
      exact tracks

end AddressSpace

end DemandPaging
