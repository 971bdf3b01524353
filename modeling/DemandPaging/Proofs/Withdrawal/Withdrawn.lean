import DemandPaging.Proofs.Replacement.Aging
import DemandPaging.Proofs.Withdrawal.Refusals

/-!
# Pages that are withdrawn from user code

To withdraw a page takes the user bit off its entry and changes nothing else.
It is fatal where the group of the page has no table, that is, if no page of the
group was ever mapped; so it may go unnoticed that the page is not there.

As a page gets the user bit only when it is mapped, user code is kept out of a
page that was withdrawn for as long as it is not mapped again, wherever the page
moves in the meantime (`clearUser_withdraws_page`).
-/

namespace DemandPaging

namespace AddressSpace

open Books (isAging)

variable {state after later : Hosted AddressSpace} {address other : Nat}
  {entry : Entry}

/-- The page lost the user bit, and this is all that changed. -/
structure Withdraws (address : Nat) (before after : Hosted AddressSpace) :
    Prop where
  host : after.host = before.host
  focus : after.focus = { before.focus with table := after.focus.table }
  budget : after.focus.table.budget = before.focus.table.budget
  groups : after.focus.table.groups = before.focus.table.groups
  flags : (after.focus.table.entryAt address).flags =
    { (before.focus.table.entryAt address).flags with user := false }
  entryAt : ∀ other, after.focus.table.entryAt other =
    if Address.pageBase other = Address.pageBase address then
      { before.focus.table.entryAt address with
        flags := (after.focus.table.entryAt address).flags }
    else before.focus.table.entryAt other

theorem withdraws_write (found : state.focus.table.get? address = some entry) :
    Withdraws address state
      { state with focus := { state.focus with
          table := state.focus.table.write address
            (entry.remove { user := true }) } } where
  host := rfl
  focus := rfl
  budget := rfl
  groups := PageTable.groups_write _ _ _
  flags := by
    dsimp only
    rw [PageTable.entryAt_write found, if_pos rfl,
      PageTable.entryAt_of_get? found]
    simp [Entry.remove, Flags.difference]
  entryAt other := by
    dsimp only
    rw [PageTable.entryAt_write found, PageTable.entryAt_write found,
      if_pos rfl, PageTable.entryAt_of_get? found]
    rfl

theorem run_clearUser_of_get? (inside : address < addressLimit)
    (found : state.focus.table.get? address = some entry) :
    ∃ after, (clearUser address).run state = .done () after ∧
      Withdraws address state after := by
  refine ⟨_, ?_, withdraws_write found⟩
  rw [clearUser, Action.run_bind_of_done (run_lookup_of_lt inside), found,
    Action.run_bind_of_done (Action.run_orCrash_some _ _ _), updateEntry,
    onTable, Action.run_zoom, Action.run_modify, PageTable.update, found]

theorem run_clearUser_of_get?_none (inside : address < addressLimit)
    (missing : state.focus.table.get? address = none) :
    (clearUser address).run state = .fatal (.clearWithoutEntry address) := by
  rw [clearUser, Action.run_bind_of_done (run_lookup_of_lt inside), missing,
    Action.run_bind_of_fatal (Action.run_orCrash_none _ _)]

theorem run_clearUser_eq_fatal_iff (inside : address < addressLimit)
    {cause : Fatal} :
    (clearUser address).run state = .fatal cause ↔
      cause = .clearWithoutEntry address ∧
        PageTable.group address ∉ state.focus.table.groups := by
  rw [← PageTable.isSome_get?_iff]
  cases found : state.focus.table.get? address with
  | none =>
      rw [run_clearUser_of_get?_none inside found]
      simp [eq_comm]
  | some entry =>
      obtain ⟨left, done, _⟩ := run_clearUser_of_get? inside found
      simp [done]

theorem run_clearUser_ne_failed (inside : address < addressLimit)
    {error : PagingError} :
    (clearUser address).run state ≠ .failed error after := by
  cases found : state.focus.table.get? address with
  | none =>
      rw [run_clearUser_of_get?_none inside found]
      exact nofun
  | some entry =>
      obtain ⟨left, done, _⟩ := run_clearUser_of_get? inside found
      rw [done]
      exact nofun

theorem withdraws_of_clearUser (inside : address < addressLimit)
    (done : (clearUser address).run state = .done () after) :
    Withdraws address state after := by
  cases found : state.focus.table.get? address with
  | none => cases (run_clearUser_of_get?_none inside found).symm.trans done
  | some entry =>
      obtain ⟨left, ran, withdraws⟩ := run_clearUser_of_get? inside found
      cases ran.symm.trans done
      exact withdraws

theorem Withdraws.not_isOpen (withdraws : Withdraws address state after) :
    ¬after.focus.table.IsOpen address := by
  rw [PageTable.IsOpen, withdraws.flags]
  exact Bool.false_ne_true

/-- A copy of `length` bytes from `start` on is refused: it fails at once if it
begins in the page, and is not done if it gets to the page later. -/
def RefusesCopy {State Result : Type} (page start length : Nat)
    (copy : Action State Result) (state : State) : Prop :=
  (0 < length → Address.pageBase start = page →
    copy.run state = .failed (.badAddress start) state) ∧
  ∀ index < length, Address.pageBase (start + index) = page →
    ∀ result after, copy.run state ≠ .done result after

/-- User code is kept out of the page that holds `address`. -/
structure KeepsOut (state : Hosted AddressSpace) (address : Nat) : Prop where
  translate : ∀ other, Address.pageBase other = Address.pageBase address →
    state.focus.translate other = none
  resolveFault : ∀ other access,
    Address.pageBase other = Address.pageBase address →
      (AddressSpace.resolveFault other access).run state =
        .failed (.badAddress other)
          (faulted state (state.host.events.push (.denied access other)))
  userPage : ∀ other isWrite,
    Address.pageBase other = Address.pageBase address →
      (AddressSpace.userPage other isWrite).run state =
        .failed (.badAddress other) state
  copyOut : ∀ start bytes, RefusesCopy (Address.pageBase address) start
    bytes.length (AddressSpace.copyOut start bytes) state
  copyIn : ∀ start buffer, RefusesCopy (Address.pageBase address) start
    buffer.size (UserRead.copyIn start)
    ⟨⟨state.focus, buffer⟩, state.host⟩
  copyInString : ∀ start (buffer : Array UInt8),
    (0 < buffer.size → Address.pageBase start = Address.pageBase address →
      (UserRead.copyInString start).run ⟨⟨state.focus, buffer⟩, state.host⟩ =
        .failed (.badAddress start) ⟨⟨state.focus, buffer⟩, state.host⟩) ∧
    ∀ length filled, (UserRead.copyInString start).run
        ⟨⟨state.focus, buffer⟩, state.host⟩ = .done length filled →
      ∀ index ≤ length,
        Address.pageBase (start + index) ≠ Address.pageBase address

theorem keepsOut_of_not_isOpen (inside : address < addressLimit)
    (closed : ¬state.focus.table.IsOpen address) : KeepsOut state address := by
  have shut : ∀ other, Address.pageBase other = Address.pageBase address →
      ¬state.focus.table.IsOpen other := by
    intro other samePage isOpen
    exact closed ((isOpen_iff_of_pageBase_eq samePage).mp isOpen)
  constructor
  case translate =>
    intro other samePage
    exact translate_of_not_isOpen (shut other samePage)
  case resolveFault =>
    intro other access samePage
    have alsoInside : other < addressLimit := by
      simp only [Address.pageBase, pageSize, addressLimit] at samePage inside ⊢
      omega
    exact run_resolveFault_of_not_isOpen alsoInside (shut other samePage) access
  case userPage =>
    intro other isWrite samePage
    exact run_userPage_of_not_isOpen (shut other samePage) isWrite
  case copyOut =>
    intro start bytes
    constructor
    · intro positive samePage
      exact run_copyOut_of_not_isOpen positive (shut start samePage)
    · intro index less samePage result after done
      exact shut _ samePage (isOpen_of_copyOut done index less)
  case copyIn =>
    intro start buffer
    constructor
    · intro positive samePage
      exact UserRead.run_copyIn_of_not_isOpen positive (shut start samePage)
    · intro index less samePage result after done
      exact shut _ samePage (UserRead.isOpen_of_copyIn done index less)
  case copyInString =>
    intro start buffer
    constructor
    · intro positive samePage
      exact UserRead.run_copyInString_of_not_isOpen positive
        (shut start samePage)
    · intro length filled done index le samePage
      exact shut _ samePage (UserRead.isOpen_of_copyInString done index le)

/-- A page that is not open is kept so by what does not map it. -/
theorem RunsTasks.keepsOut {tasks : List (Task × Bool)}
    (runs : RunsTasks tasks state later)
    (inside : address < addressLimit)
    (closed : ¬state.focus.table.IsOpen address)
    (unmapped : ∀ task ∈ tasks, Address.pageBase address ∉ task.1.pages) :
    KeepsOut later address := by
  apply keepsOut_of_not_isOpen inside
  obtain ⟨pages, maps, opens⟩ := runs.opens
  intro isOpen
  rcases opens.isOpen address isOpen with mapped | wasOpen
  · obtain ⟨task, among, isPage⟩ := maps.mem_pages mapped
    exact unmapped task among isPage
  · exact closed wasOpen

/-- In every state that a new space comes to, to withdraw a page is fatal
exactly if no page of its group was ever mapped, and never if the page itself is
there.  In any other case it is done: the user bit goes, and nothing else
changes.  From then on user code is kept out of the page, wherever it is, until
something maps it again. -/
theorem clearUser_withdraws_page {config : Config} {isEligible : Bool}
    {pool : Nat} {budget : Option Nat} {swap : SwapSpace}
    {host madeHost : Host} {space : AddressSpace}
    {tasks : List (Task × Bool)}
    (made : (make config isEligible pool (PageTable.new budget) swap).run host =
      .done space madeHost)
    (runs : RunsTasks tasks ⟨space, madeHost⟩ state)
    (inside : address < addressLimit) :
    (∃ mapped, Maps tasks mapped ∧
      ∀ cause, (clearUser address).run state = .fatal cause ↔
        cause = .clearWithoutEntry address ∧ ∀ page ∈ mapped,
          PageTable.group page ≠ PageTable.group address) ∧
    ((state.focus.table.entryAt address).isPresent = true →
      ∃ after, (clearUser address).run state = .done () after) ∧
    (∀ error after, (clearUser address).run state ≠ .failed error after) ∧
    ∀ after, (clearUser address).run state = .done () after →
      Withdraws address state after ∧
      ∀ more later, RunsTasks more after later →
        (∀ task ∈ more, Address.pageBase address ∉ task.1.pages) →
          KeepsOut later address := by
  obtain ⟨mapped, maps, opens⟩ := runs.opens
  obtain ⟨_, _, _, _, rfl, _⟩ := run_make_eq_done_iff.mp made
  have groups : state.focus.table.groups = mapped.image PageTable.group := by
    rw [opens.groups, PageTable.groups_new, Finset.empty_union]
  have unmapped_iff : PageTable.group address ∉ state.focus.table.groups ↔
      ∀ page ∈ mapped, PageTable.group page ≠ PageTable.group address := by
    rw [groups, Finset.mem_image]
    push Not
    rfl
  refine ⟨⟨mapped, maps, fun cause => ?_⟩, ?_, ?_, ?_⟩
  · rw [run_clearUser_eq_fatal_iff inside, unmapped_iff]
  · intro isPresent
    obtain ⟨left, done, _⟩ := run_clearUser_of_get? inside
      (PageTable.get?_of_isPresent isPresent)
    exact ⟨left, done⟩
  · exact fun _ _ => run_clearUser_ne_failed inside
  · intro after done
    have withdraws := withdraws_of_clearUser inside done
    refine ⟨withdraws, fun more later further unmapped => ?_⟩
    exact further.keepsOut inside withdraws.not_isOpen unmapped

/-- A request that was done is a task that was done. -/
theorem RunsTasks.does {tasks : List (Task × Bool)} {request : Request}
    {size : Nat} {origin : Hosted AddressSpace}
    (runs : RunsTasks tasks origin state)
    (does : request.Does size state after) :
    RunsTasks (tasks ++ [(.request size request, true)]) origin after := by
  obtain ⟨reply, ran⟩ := does
  apply runs.done
  rw [Task.action, Action.run_map, ran]
  rfl

/-- The second page goes unnoticed, and a page of the next group does not.  The
first page is withdrawn, and user code is kept out of it when it has left memory
and when it has come back. -/
theorem clearUser_withdraws_page_of_evicted :
    ∃ grown cleared evicted loaded : Hosted AddressSpace,
      RunsTasks [(.request 0 (.grow pageSize {}), true)]
        ⟨agingSpace, agingHost⟩ grown ∧
      (grown.focus.table.entryAt pageSize).isPresent = false ∧
      (∀ cause, (clearUser pageSize).run grown ≠ .fatal cause) ∧
      (clearUser 0x200000).run grown =
        .fatal (.clearWithoutEntry 0x200000) ∧
      Withdraws 0 grown cleared ∧
      isThere evicted 0 = false ∧ KeepsOut evicted 0 ∧
      isThere loaded 0 = true ∧ KeepsOut loaded 0 := by
  have computed : ((Request.grow pageSize {}).action 0).leadsTo (fun grown =>
      decide ((grown.focus.table.entryAt pageSize).isPresent = false) &&
        ((clearUser pageSize).leadsTo (fun _ => true) grown &&
          (clearUser 0).leadsTo (fun cleared =>
            (Request.evict.action pageSize).leadsTo (fun evicted =>
              decide (isThere evicted 0 = false) &&
                ((Request.pageIn 0).action pageSize).leadsTo
                  (fun loaded => isThere loaded 0) evicted) cleared) grown))
      ⟨agingSpace, agingHost⟩ = true := by
    decide +kernel
  obtain ⟨_, grown, grows, computed⟩ := Action.exists_of_leadsTo computed
  simp only [Bool.and_eq_true, decide_eq_true_eq] at computed
  obtain ⟨isAbsent, unnoticed, computed⟩ := computed
  obtain ⟨_, _, unnoticed, _⟩ := Action.exists_of_leadsTo unnoticed
  obtain ⟨_, cleared, clears, computed⟩ := Action.exists_of_leadsTo computed
  obtain ⟨_, evicted, evicts, computed⟩ := Action.exists_of_leadsTo computed
  simp only [Bool.and_eq_true, decide_eq_true_eq] at computed
  obtain ⟨isAway, computed⟩ := computed
  obtain ⟨_, loaded, loads, isBack⟩ := Action.exists_of_leadsTo computed
  have made : (make ⟨1, 1, .nfua⟩ true 0 (PageTable.new none) _).run _ =
      .done agingSpace agingHost :=
    run_make_fresh rfl (by decide) (by decide) false
      ⟨#[FramePool.new 4], {}, #[]⟩
  have grown : RunsTasks [(.request 0 (.grow pageSize {}), true)]
      ⟨agingSpace, agingHost⟩ grown := RunsTasks.nil.does ⟨_, grows⟩
  have leaves : RunsTasks [(.request pageSize .evict, true)] cleared evicted :=
    RunsTasks.nil.does ⟨_, evicts⟩
  obtain ⟨_, _, _, kept⟩ :=
    clearUser_withdraws_page made grown (by decide : 0 < addressLimit)
  obtain ⟨withdraws, keeps⟩ := kept cleared clears
  obtain ⟨⟨mapped, maps, isFatal⟩, _⟩ :=
    clearUser_withdraws_page made grown (by decide : 0x200000 < addressLimit)
  refine ⟨_, cleared, evicted, loaded, grown, isAbsent, ?_, ?_, withdraws,
    isAway, ?_, isBack, ?_⟩
  · intro cause ended
    cases unnoticed.symm.trans ended
  · refine (isFatal _).mpr ⟨rfl, fun page isMapped => ?_⟩
    obtain ⟨task, among, isPage⟩ := maps.mem_pages isMapped
    rw [List.mem_singleton.mp among] at isPage
    obtain ⟨index, less, rfl⟩ := mem_pagesFrom.mp isPage
    obtain rfl : index = 0 := Nat.lt_one_iff.mp less
    decide
  · apply keeps _ evicted leaves
    decide
  · apply keeps _ loaded (leaves.does ⟨_, loads⟩)
    decide

end AddressSpace

end DemandPaging
