import DemandPaging.PageFault
import DemandPaging.Proofs.AddressSpace.Runs
import DemandPaging.Proofs.UserCopy.Progress

/-!
# Page faults to the letter

A fault is refused, found stale, or brings its page in, and which of the three
it is depends on the entry of the page alone.  A refused fault and a stale one
are counted and change nothing else.  A fault on a page in swap brings the page
in with its bytes and its permissions, after which the same fault is stale; or
it fails for want of a frame or because a transfer fails, and then the page is
where it was.
-/

namespace DemandPaging

/-- User code may make the access to a page with the flags `flags`: the page is
one of user code, and its permissions have what the access needs. -/
def Access.IsPermitted (access : Access) (flags : Flags) : Prop :=
  flags.user = true ∧
    match access with
    | load => flags.read = true
    | store => flags.write = true
    | instruction => flags.exec = true

theorem Access.allowedBy_iff_isPermitted {access : Access} {flags : Flags} :
    access.allowedBy flags = true ↔ access.IsPermitted flags := by
  cases access with
  | load => exact allowedBy_load
  | store => exact allowedBy_store
  | instruction => exact allowedBy_instruction

theorem Access.isPermitted_permissions {access : Access} {flags : Flags} :
    access.IsPermitted flags.permissions ↔ access.IsPermitted flags := by
  cases access <;> exact Iff.rfl

namespace AddressSpace

variable {state after : Hosted AddressSpace} {access : Access}
  {address : Nat} {entry : Entry} {error : PagingError}

/-- The page that holds `address` has the leaf `entry`, which permits the
access. -/
structure AllowsAccess (state : Hosted AddressSpace) (access : Access)
    (address : Nat) (entry : Entry) : Prop where
  leaf : (Address.pageBase address, entry) ∈ state.focus.table.leaves
  isPermitted : access.IsPermitted entry.flags

/-- The page that holds `address` is beyond user memory, or it has no leaf that
permits the access. -/
def IsRefused (state : Hosted AddressSpace) (access : Access) (address : Nat) :
    Prop :=
  addressLimit ≤ Address.pageBase address ∨
    ∀ entry, ¬AllowsAccess state access address entry

/-- The page that holds `address` is in memory and permits the access. -/
def IsGranted (state : Hosted AddressSpace) (access : Access) (address : Nat) :
    Prop :=
  ∃ entry, AllowsAccess state access address entry ∧ entry.isValid = true

/-- The page that holds `address` is in swap and permits the access. -/
def IsDeferred (state : Hosted AddressSpace) (access : Access)
    (address : Nat) : Prop :=
  ∃ entry, AllowsAccess state access address entry ∧ entry.isPagedOut = true

/-- The space once a fault has been counted, with what was reported so far. -/
def faulted (state : Hosted AddressSpace) (events : Array Event) :
    Hosted AddressSpace where
  focus := { state.focus with
    stats := { state.focus.stats with
      faults := state.focus.stats.faults + 1 } }
  host := { state.host with events }

theorem AllowsAccess.get? (allows : AllowsAccess state access address entry) :
    state.focus.table.get? (Address.pageBase address) = some entry ∧
      entry.isPresent = true := by
  obtain ⟨_, rfl, isPresent⟩ :=
    PageTable.mem_leaves_iff_entryAt.mp allows.leaf
  exact ⟨PageTable.get?_of_isPresent isPresent, isPresent⟩

theorem allowsAccess_of_get?
    (found : state.focus.table.get? (Address.pageBase address) = some entry)
    (isPresent : entry.isPresent = true)
    (isPermitted : access.IsPermitted entry.flags) :
    AllowsAccess state access address entry := by
  refine ⟨PageTable.mem_leaves_iff_entryAt.mpr
    ⟨Address.pageBase_pageBase address, PageTable.entryAt_of_get? found,
      isPresent⟩, isPermitted⟩

theorem AllowsAccess.unique {other : Entry}
    (allows : AllowsAccess state access address entry)
    (again : AllowsAccess state access address other) : entry = other :=
  Option.some.inj (allows.get?.1.symm.trans again.get?.1)

/-- What a fault does with the entry of its page. -/
def resolveEntry (address : Nat) (access : Access) :
    Option Entry → SpaceAction Resolution
  | none => denyAccess address access
  | some entry =>
    if !entry.isPresent || !access.allowedBy entry.flags then
      denyAccess address access
    else if entry.isPagedOut then do
      pageIn (Address.pageBase address)
      return .pagedIn
    else do
      Hosted.report (.spurious access address)
      return .retry

theorem run_resolveFault_of_lt
    (inside : Address.pageBase address < addressLimit) :
    (resolveFault address access).run state =
      (resolveEntry address access
        (state.focus.table.get? (Address.pageBase address))).run
          (faulted state state.host.events) := by
  have counted : (count fun stats =>
      { stats with faults := stats.faults + 1 }).run state =
        .done () (faulted state state.host.events) := rfl
  rw [resolveFault, Action.run_bind_of_done counted,
    Action.run_bind_of_done (by rw [Action.run_failUnless, if_pos inside]),
    Action.run_bind_of_done (run_lookup_of_lt inside)]
  rfl

theorem run_resolveFault_of_isRefused
    (refused : IsRefused state access address) :
    ∃ events, (resolveFault address access).run state =
      .failed (.badAddress address) (faulted state events) := by
  have denied : ∃ events,
      (denyAccess address access : SpaceAction Resolution).run
        (faulted state state.host.events) =
          .failed (.badAddress address) (faulted state events) :=
    ⟨_, rfl⟩
  by_cases inside : Address.pageBase address < addressLimit
  case neg =>
    refine ⟨state.host.events, ?_⟩
    have counted : (count fun stats =>
        { stats with faults := stats.faults + 1 }).run state =
          .done () (faulted state state.host.events) := rfl
    rw [resolveFault, Action.run_bind_of_done counted,
      Action.run_bind_of_failed (by
        rw [Action.run_failUnless, if_neg inside])]
  rw [run_resolveFault_of_lt inside]
  have noLeaf := refused.resolve_left (Nat.not_le.mpr inside)
  cases found : state.focus.table.get? (Address.pageBase address) with
  | none => exact denied
  | some entry =>
      have isDenied : (!entry.isPresent || !access.allowedBy entry.flags) =
          true := by
        by_contra allowed
        simp only [Bool.not_eq_true, Bool.or_eq_false_iff,
          Bool.not_eq_false'] at allowed
        exact noLeaf entry (allowsAccess_of_get? found allowed.1
          (Access.allowedBy_iff_isPermitted.mp allowed.2))
      rw [resolveEntry, if_pos isDenied]
      exact denied

theorem AllowsAccess.isDenied_eq_false
    (allows : AllowsAccess state access address entry) :
    ¬(!entry.isPresent || !access.allowedBy entry.flags) = true := by
  rw [allows.get?.2, Access.allowedBy_iff_isPermitted.mpr allows.isPermitted]
  exact Bool.false_ne_true

section IsFormed

variable (formed : IsFormed state)

include formed

theorem AllowsAccess.lt_addressLimit
    (allows : AllowsAccess state access address entry) :
    Address.pageBase address < addressLimit :=
  formed.page_lt _ _ allows.leaf

/-- A fault on a page in memory that permits the access is counted, and nothing
else happens. -/
theorem run_resolveFault_of_isGranted
    (granted : IsGranted state access address) :
    ∃ events, (resolveFault address access).run state =
      .done .retry (faulted state events) := by
  obtain ⟨entry, allows, isValid⟩ := granted
  have notPagedOut : entry.isPagedOut = false := by
    rw [← Bool.not_eq_true]
    exact fun isPagedOut =>
      formed.agrees.exclusive _ _ allows.leaf ⟨isValid, isPagedOut⟩
  rw [run_resolveFault_of_lt (allows.lt_addressLimit formed), allows.get?.1,
    resolveEntry, if_neg allows.isDenied_eq_false, notPagedOut]
  exact ⟨_, rfl⟩

theorem IsDeferred.isPaging (deferred : IsDeferred state access address) :
    state.focus.isPaging = true := by
  obtain ⟨_, allows, isPagedOut⟩ := deferred
  obtain ⟨_, rfl, _⟩ := PageTable.mem_leaves_iff_entryAt.mp allows.leaf
  exact formed.isPaging_of_isPagedOut isPagedOut

theorem IsDeferred.not_isRefused
    (deferred : IsDeferred state access address) :
    ¬IsRefused state access address := by
  obtain ⟨entry, allows, _⟩ := deferred
  rintro (outside | noneAllows)
  · exact absurd (allows.lt_addressLimit formed) (Nat.not_lt.mpr outside)
  · exact noneAllows entry allows

theorem IsDeferred.not_isGranted
    (deferred : IsDeferred state access address) :
    ¬IsGranted state access address := by
  obtain ⟨entry, allows, isPagedOut⟩ := deferred
  rintro ⟨other, again, isValid⟩
  obtain rfl := allows.unique again
  exact formed.agrees.exclusive _ _ allows.leaf ⟨isValid, isPagedOut⟩

/-- A fault on a page in swap that permits the access brings the page in. -/
theorem run_resolveFault_of_isDeferred
    (deferred : IsDeferred state access address) :
    (resolveFault address access).run state =
      ((fun _ => Resolution.pagedIn) <$>
        pageIn (Address.pageBase address)).run
          (faulted state state.host.events) := by
  obtain ⟨entry, allows, isPagedOut⟩ := deferred
  rw [run_resolveFault_of_lt (allows.lt_addressLimit formed), allows.get?.1,
    resolveEntry, if_neg allows.isDenied_eq_false, if_pos isPagedOut,
    map_eq_pure_bind]

omit formed in
theorem isGranted_or_isDeferred
    (allowed : ¬IsRefused state access address) :
    IsGranted state access address ∨ IsDeferred state access address := by
  rw [IsRefused, not_or, not_forall] at allowed
  obtain ⟨_, entry, allows⟩ := allowed
  rw [not_not] at allows
  obtain isValid | isPagedOut := Bool.or_eq_true_iff.mp allows.get?.2
  · exact .inl ⟨entry, allows, isValid⟩
  · exact .inr ⟨entry, allows, isPagedOut⟩

end IsFormed

/-- Whether some leaf allows an access is known from what user code may do with
the page. -/
theorem exists_allowsAccess_iff : (∃ entry,
      AllowsAccess state access address entry) ↔
    ∃ flags, permissions? state address = some flags ∧
      access.IsPermitted flags := by
  rw [permissions?_eq]
  constructor
  · rintro ⟨entry, allows⟩
    obtain ⟨_, rfl, isPresent⟩ :=
      PageTable.mem_leaves_iff_entryAt.mp allows.leaf
    have isPermitted := allows.isPermitted
    rw [PageTable.entryAt_pageBase] at isPresent isPermitted
    exact ⟨_, if_pos isPresent, Access.isPermitted_permissions.mpr isPermitted⟩
  · rintro ⟨flags, shown, isPermitted⟩
    split at shown
    · rename_i isPresent
      cases shown
      exact ⟨(pager state).entryAt address,
        PageTable.mem_leaves_iff_entryAt.mpr
          ⟨Address.pageBase_pageBase address, PageTable.entryAt_pageBase _ _,
            isPresent⟩, Access.isPermitted_permissions.mp isPermitted⟩
    · cases shown

/-- Where an access was allowed and user code may do what it might before, the
access is allowed. -/
theorem AllowsAccess.of_permissions?
    (allows : AllowsAccess state access address entry)
    (same : permissions? after = permissions? state) :
    AllowsAccess after access address ((pager after).entryAt address) := by
  have stillAllowed := exists_allowsAccess_iff.mp ⟨entry, allows⟩
  rw [← same] at stillAllowed
  obtain ⟨other, stillAllows⟩ := exists_allowsAccess_iff.mpr stillAllowed
  obtain ⟨_, rfl, _⟩ := PageTable.mem_leaves_iff_entryAt.mp stillAllows.leaf
  rwa [PageTable.entryAt_pageBase] at stillAllows

/-- A fault brought the page that holds `address` in.  The page is there for
the access, user code sees the memory that it saw, and pages moved as far as a
page-in moves them. -/
structure BringsIn (state after : Hosted AddressSpace) (access : Access)
    (address : Nat) : Prop where
  granted : IsGranted after access address
  permissions? : permissions? after = AddressSpace.permissions? state
  logicalPage? : logicalPage? after = AddressSpace.logicalPage? state
  faults : after.focus.stats.faults = state.focus.stats.faults + 1
  moves : ∃ handle slot frame,
    Returns (faulted state state.host.events) after handle
      (Address.pageBase address) slot frame ∧
    (ReturnsAlone (faulted state state.host.events) after handle
        (Address.pageBase address) slot frame ∨
      ∃ spared other otherPage otherFrame target,
        Exchanges (faulted state state.host.events) after handle
          (Address.pageBase address) slot frame spared other otherPage
          otherFrame target)

/-- A fault could not bring the page that holds `address` in.  The page is in
swap as it was, and user code sees the memory that it saw. -/
structure StaysAway (state after : Hosted AddressSpace) (access : Access)
    (address : Nat) (error : PagingError) : Prop where
  deferred : IsDeferred after access address
  permissions? : permissions? after = AddressSpace.permissions? state
  logicalPage? : logicalPage? after = AddressSpace.logicalPage? state
  faults : after.focus.stats.faults = state.focus.stats.faults + 1
  reason : (error = .outOfMemory ∧
      (state.host.pool state.focus.pool).freeCount = 0 ∧
        Resembles (faulted state state.host.events) after) ∨
    IsTransferFailure state after error ∧
      ∃ spared, Undoes (faulted state state.host.events) after spared

theorem StaysAway.ne_badAddress
    (stays : StaysAway state after access address error) (bad : Nat) :
    error ≠ .badAddress bad := by
  rintro rfl
  obtain ⟨impossible, _⟩ | ⟨failure, _⟩ := stays.reason
  · cases impossible
  · obtain ⟨_, impossible⟩ := failure.isTransfer
    cases impossible

theorem IsFormed.faulted (formed : IsFormed state) (events : Array Event) :
    IsFormed (faulted state events) where
  __ := formed
  agrees := ⟨formed.agrees.exclusive,
    fun isPaging => { formed.agrees.tracks isPaging with },
    formed.agrees.not_isPagedOut⟩

/-- What a fault on a page in swap that permits the access comes to. -/
theorem meets_resolveFault_of_isDeferred (formed : IsFormed state)
    (deferred : IsDeferred state access address) :
    ((resolveFault address access).run state).Meets
      (PageInEnds state (Address.pageBase address))
      (fun resolution after => resolution = .pagedIn ∧
        BringsIn state after access address ∧
        ∃ events, (resolveFault address access).run after =
          .done .retry (faulted after events))
      fun error after => StaysAway state after access address error := by
  rw [run_resolveFault_of_isDeferred formed deferred, Action.meets_map_iff]
  obtain ⟨entry, allows, isPagedOut⟩ := deferred
  have counted := formed.faulted state.host.events
  have isOut : ((pager (faulted state state.host.events)).entryAt
      address).isPagedOut = true := by
    obtain ⟨_, rfl, _⟩ := PageTable.mem_leaves_iff_entryAt.mp allows.leaf
    rwa [PageTable.entryAt_pageBase] at isPagedOut
  have isPaging := counted.isPaging_of_isPagedOut isOut
  have aligned := Address.pageBase_pageBase address
  obtain ⟨handle, slot, known, goesOn⟩ :=
    run_pageIn_of_isPagedOut counted isPaging
      ((isPagedOut_iff _ _).mpr ⟨Address.pageBase_pageBase _, by
        rwa [aligned, Pager.entryAt_pageBase]⟩)
  rw [aligned] at known goesOn
  have moves := meets_pageInFrom_of_isFormed counted isPaging known
  rw [← goesOn] at moves
  refine (moves.and (meets_pageIn_of_isPagedOut counted isOut)).mono ?_ ?_
  · rintro _ after ⟨⟨frame, returns, exchanged⟩, carries, sameView, isValid⟩
    have granted : IsGranted after access address :=
      ⟨_, allows.of_permissions? carries.permissions?, isValid⟩
    refine ⟨rfl, ⟨granted, carries.permissions?,
      logicalPage?_eq_of_view? sameView, ?_, handle, slot, frame, returns,
      exchanged⟩, run_resolveFault_of_isGranted carries.formed granted⟩
    obtain alone | ⟨_, _, _, _, _, exchanges⟩ := exchanged
    · rw [alone.stats]
      rfl
    · rw [exchanges.stats]
      rfl
  · rintro error after ⟨reason, _, carries, sameView, stillOut⟩
    refine ⟨⟨_, allows.of_permissions? carries.permissions?, stillOut⟩,
      carries.permissions?, logicalPage?_eq_of_view? sameView, ?_, reason⟩
    obtain ⟨_, _, same⟩ | ⟨_, _, undoes⟩ := reason
    · rw [same.focus]
      rfl
    · rw [undoes.stats]
      rfl

/-- A page-in ends no run while the clock has time for every page in memory
and a word can address the slots in use. -/
theorem not_pageInEnds (formed : IsFormed state)
    (inTime : state.focus.ledger.generation +
      state.focus.ledger.residentCount + 1 < Word.limit)
    (inReach : ∀ slot, state.focus.swap.isClaimed slot = true →
      slot * pageSize < Word.limit)
    (isPaging : state.focus.isPaging = true) {page : Nat} {cause : Fatal} :
    ¬PageInEnds state page cause := by
  rintro (⟨_, _, _, late⟩ | ⟨_, slot, holds, isFar⟩)
  · omega
  · have claimed := ((formed.agrees.tracks isPaging).isClaimed_iff slot).mpr
      ⟨page, holds⟩
    exact absurd (inReach slot claimed) (Nat.not_lt.mpr isFar)

/-- A fault is refused exactly if its page is beyond user memory or has no leaf
that allows the access, and it is found stale exactly if the page is in memory
and allows it.  Either way it is counted and nothing else happens.  Otherwise
the page is in swap, and it comes in for the access or stays where it is for
want of a frame or because a transfer fails.  The run ends only if the clock of
the queue runs out, or if a slot is in use that is beyond what a word can
address. -/
theorem resolveFault_grants_permitted (wellFormed : WellFormed state)
    (address : Nat) (access : Access) :
    ((∃ after, (resolveFault address access).run state =
        .failed (.badAddress address) after) ↔
      IsRefused state access address) ∧
    ((∃ after, (resolveFault address access).run state =
        .done .retry after) ↔ IsGranted state access address) ∧
    (IsRefused state access address →
      ∃ events, (resolveFault address access).run state =
        .failed (.badAddress address) (faulted state events)) ∧
    (IsGranted state access address →
      ∃ events, (resolveFault address access).run state =
        .done .retry (faulted state events)) ∧
    (¬IsRefused state access address ∧ ¬IsGranted state access address →
      IsDeferred state access address ∧
      ((resolveFault address access).run state).Meets
        (PageInEnds state (Address.pageBase address))
        (fun resolution after => resolution = .pagedIn ∧
          BringsIn state after access address ∧
          ∃ events, (resolveFault address access).run after =
            .done .retry (faulted after events))
        fun error after => StaysAway state after access address error) ∧
    (state.focus.ledger.generation + state.focus.ledger.residentCount + 1 <
        Word.limit →
      (∀ slot, state.focus.swap.isClaimed slot = true →
        slot * pageSize < Word.limit) →
        ∀ cause, (resolveFault address access).run state ≠ .fatal cause) := by
  have formed := wellFormed.isFormed
  have refuses : IsRefused state access address → _ :=
    run_resolveFault_of_isRefused
  have grants : IsGranted state access address → _ :=
    run_resolveFault_of_isGranted formed
  have defers : IsDeferred state access address → _ :=
    meets_resolveFault_of_isDeferred formed
  have decides : IsRefused state access address ∨
      IsGranted state access address ∨ IsDeferred state access address := by
    by_cases refused : IsRefused state access address
    · exact .inl refused
    · exact .inr (isGranted_or_isDeferred refused)
  refine ⟨⟨?_, fun refused => ?_⟩, ⟨?_, fun granted => ?_⟩, refuses, grants,
    fun ⟨notRefused, notGranted⟩ => ?_, fun inTime inReach cause ends => ?_⟩
  · rintro ⟨after, failed⟩
    obtain refused | granted | deferred := decides
    · exact refused
    · obtain ⟨_, stale⟩ := grants granted
      cases stale.symm.trans failed
    · have stays := defers deferred
      rw [failed] at stays
      exact absurd rfl (stays.ne_badAddress address)
  · obtain ⟨events, failed⟩ := refuses refused
    exact ⟨_, failed⟩
  · rintro ⟨after, stale⟩
    obtain refused | granted | deferred := decides
    · obtain ⟨_, failed⟩ := refuses refused
      cases failed.symm.trans stale
    · exact granted
    · have comes := defers deferred
      rw [stale] at comes
      cases comes.1
  · obtain ⟨events, stale⟩ := grants granted
    exact ⟨_, stale⟩
  · have deferred := (decides.resolve_left notRefused).resolve_left notGranted
    exact ⟨deferred, defers deferred⟩
  · obtain refused | granted | deferred := decides
    · obtain ⟨_, failed⟩ := refuses refused
      cases failed.symm.trans ends
    · obtain ⟨_, stale⟩ := grants granted
      cases stale.symm.trans ends
    · have late := defers deferred
      rw [ends] at late
      exact not_pageInEnds formed inTime inReach
        (deferred.isPaging formed) late

/-- User code may read the page, which is in swap, but not write to it. -/
theorem resolveFault_grants_permitted_of_evicted :
    ∃ state after : Hosted AddressSpace, WellFormed state ∧
      (∃ events, (resolveFault 0 .store).run state =
        .failed (.badAddress 0) (faulted state events)) ∧
      (resolveFault 0 .load).run state = .done .pagedIn after ∧
      BringsIn state after .load 0 ∧
      (∃ events, (resolveFault 0 .load).run after =
        .done .retry (faulted after events)) ∧
      ∀ access cause, (resolveFault 0 access).run state ≠ .fatal cause := by
  have computed : leadsThrough (fun _ state =>
        decide (state.focus.ledger.generation +
          state.focus.ledger.residentCount + 1 < Word.limit ∧
            state.focus.swap.capacity = 1) &&
        ((resolveFault 0 .store).failsWith (.badAddress 0) state &&
          (resolveFault 0 .load).yields
            (fun resolution _ => resolution == .pagedIn) state))
      [.grow pageSize {}, .evict] 0 ⟨agingSpace, agingHost⟩ = true := by
    decide +kernel
  obtain ⟨_, _, state, runs, _, computed⟩ :=
    (Runs.new isNew_aging).exists_of_leadsThrough computed
  rw [Bool.and_eq_true, Bool.and_eq_true] at computed
  obtain ⟨fits, fails, loads⟩ := computed
  obtain ⟨inTime, slots⟩ := of_decide_eq_true fits
  obtain ⟨_, after, loads, resolved⟩ := Action.exists_of_yields loads
  obtain rfl := beq_iff_eq.mp resolved
  have wellFormed : WellFormed state := runs.inOrder.wellFormed
  obtain ⟨refused, _, refuses, _⟩ :=
    resolveFault_grants_permitted wellFormed 0 .store
  obtain ⟨barred, granted, _, _, defers, _⟩ :=
    resolveFault_grants_permitted wellFormed 0 .load
  have notRefused : ¬IsRefused state .load 0 := by
    intro isRefused
    obtain ⟨_, failed⟩ := barred.mpr isRefused
    cases loads.symm.trans failed
  have notGranted : ¬IsGranted state .load 0 := by
    intro isGranted
    obtain ⟨_, stale⟩ := granted.mpr isGranted
    cases loads.symm.trans stale
  obtain ⟨_, comes⟩ := defers ⟨notRefused, notGranted⟩
  rw [loads] at comes
  obtain ⟨_, brings, again⟩ := comes
  refine ⟨state, after, wellFormed,
    refuses (refused.mp (Action.exists_of_failsWith fails)), loads, brings,
    again, fun access cause => ?_⟩
  obtain ⟨_, _, _, _, _, goesOn⟩ :=
    resolveFault_grants_permitted wellFormed 0 access
  refine goesOn inTime (fun slot claimed => ?_) cause
  have inside := SwapSpace.lt_capacity_of_isClaimed claimed
  rw [slots, Nat.lt_one_iff] at inside
  rw [inside]
  decide

end AddressSpace

end DemandPaging
