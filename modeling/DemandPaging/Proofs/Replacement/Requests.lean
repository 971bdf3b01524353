import DemandPaging.Proofs.AddressSpace.Runs
import DemandPaging.Proofs.Replacement.Copies

/-!
# The moves of requests

What a request makes of the books of a policy is known from the request and from
how it ended, up to the pages that leave: those the policy picks.
-/

namespace DemandPaging

namespace AddressSpace

open Books (Move Balks Each Admits Retreats Uses pagesFrom)

variable {state after : Hosted AddressSpace} {size : Nat} {moves : List Move}

namespace Request

/-- The moves of a request that is done with a reply, of a space with `size` bytes
of user memory. -/
def Makes (state : Hosted AddressSpace) (size : Nat) :
    Request → Reply → List Move → Prop
  | grow larger permissions, _ =>
    Each (Admits permissions.accessed)
      (pagesFrom (Address.pageCeil size) (grownPages size larger))
  | shrink smaller, _ => fun moves =>
    moves = (pagesFrom (Address.pageCeil smaller)
      ((Address.pageCeil size - Address.pageCeil smaller) / pageSize)).map
        .forget
  | pageIn address, _ | resolveFault address _, _ =>
    Fetches (isThere state address) (Address.pageBase address)
  | evict, _ => fun moves => ∃ spared page, moves = [.evict spared page]
  | tick, _ => fun moves =>
    moves = if Books.isAging state.focus.config.policy then [.age] else []
  | touch address _, _ => fun moves =>
    moves = if isThere state address then [.refer (Address.pageBase address)]
      else []
  | clearUser _, _ => fun moves => moves = []
  | copyOut address bytes, _ => Each Uses (copiedPages address bytes.length)
  | copyIn address buffer, _ => Each Uses (copiedPages address buffer.size)
  -- The copy of a string goes as far as the zero that ends it.
  | copyInString address buffer, .string length _ => fun moves =>
    length < buffer.size ∧
      Each Uses (copiedPages address (length + 1)) moves
  | copyInString _ _, _ => fun _ => False

/-- The moves of a request that fails with an error in the state `after`. -/
def Breaks (state : Hosted AddressSpace) (size : Nat) (request : Request)
    (error : PagingError) (after : Hosted AddressSpace)
    (moves : List Move) : Prop :=
  match request with
  | grow larger permissions =>
    Retreats permissions.accessed (Address.pageCeil size) 0
      (grownPages size larger) moves
  | pageIn _ | resolveFault _ _ => Balks moves
  | evict => ∃ spared page, moves = [.refuse spared page]
  | shrink _ | tick | touch _ _ | clearUser _ => False
  | copyOut _ _ | copyIn _ _ | copyInString _ _ => ∃ passed ahead,
    request.StopsBehind state error after passed ahead ∧
      Falters passed ahead moves

end Request

theorem IsCoherent.find?_eq_none (coherent : IsCoherent size state) {page : Nat}
    (beyond : Address.pageCeil size ≤ page) :
    state.focus.ledger.find? page = none := by
  have consistent : state.focus.ledger.IsConsistent := coherent.sound.ledger
  refine consistent.residenceOf?_eq_none_iff.mp
    (Option.eq_none_iff_forall_ne_some.mpr fun residence known => ?_)
  have isPresent := coherent.sound.isPresent_of_residenceOf? known
  rw [← coherent.sound.isSome_logicalPage?, coherent.spans] at isPresent
  exact absurd isPresent (Nat.not_lt.mpr beyond)

theorem IsCoherent.not_mem_residents (coherent : IsCoherent 0 state)
    (resident : ResidentPage) : resident ∉ state.focus.ledger.residents := by
  have consistent : state.focus.ledger.IsConsistent := coherent.sound.ledger
  intro member
  have found := consistent.find?_of_mem_residents member
  rw [coherent.find?_eq_none (Nat.zero_le _)] at found
  cases found

/-- The books of a coherent space are in order. -/
theorem IsCoherent.isKept (coherent : IsCoherent size state) :
    (booksOf state).IsKept where
  isConsistent := coherent.sound.ledger
  aligned page tracked := by
    have consistent : state.focus.ledger.IsConsistent := coherent.sound.ledger
    have known : state.focus.ledger.residenceOf? page ≠ none := fun unknown =>
      tracked (consistent.residenceOf?_eq_none_iff.mp unknown)
    obtain ⟨residence, known⟩ := Option.ne_none_iff_exists'.mp known
    exact (coherent.sound.tracked page residence known).2.1

theorem isQuiet_clearUser (address : Nat) : IsQuiet (clearUser address) := by
  rw [clearUser]
  refine (isQuiet_lookup address).bind fun _ => ?_
  refine (isQuiet_orCrash _ _).bind fun _ => isQuiet_updateEntry address ?_
  simp [Entry.remove, Flags.difference]

/-- What leads to moves whatever the reply is. -/
theorem meets_of_leads {action : SpaceAction Reply}
    {done failed : List Move → Prop} (leads : Leads state action done failed)
    {makes : Reply → List Move → Prop}
    {breaks : PagingError → Hosted AddressSpace → List Move → Prop}
    (onDone : ∀ reply moves, done moves → makes reply moves)
    (onFailed : ∀ error after moves, failed moves → breaks error after moves) :
    (action.run state).Meets (fun _ => True)
      (fun reply after => ∃ moves, makes reply moves ∧
        Follows state moves after)
      (fun error after => ∃ moves, breaks error after moves ∧
        Follows state moves after) :=
  Outcome.Meets.mono leads
    (fun reply _ ⟨moves, isDone, follows⟩ =>
      ⟨moves, onDone reply moves isDone, follows⟩)
    fun error after ⟨moves, isFailed, follows⟩ =>
      ⟨moves, onFailed error after moves isFailed, follows⟩

/-- Every request makes the moves that it is known to make. -/
theorem meets_request_moves (coherent : IsCoherent size state)
    (isPaging : state.focus.isPaging = true) (request : Request) :
    ((request.action size).run state).Meets (fun _ => True)
      (fun reply after => ∃ moves, request.Makes state size reply moves ∧
        Follows state moves after)
      (fun error after => ∃ moves,
        request.Breaks state size error after moves ∧
          Follows state moves after) := by
  have falters : ∀ (error : PagingError) (after : Hosted AddressSpace),
      (∃ passed ahead,
        request.StopsBehind state error after passed ahead) →
      ∃ moves, (∃ passed ahead,
        request.StopsBehind state error after passed ahead ∧
          Falters passed ahead moves) ∧ Follows state moves after := by
    rintro error after ⟨passed, ahead, stops⟩
    obtain ⟨moves, isFalter, follows⟩ := stops.follows
    exact ⟨moves, ⟨passed, ahead, stops, isFalter⟩, follows⟩
  cases request with
  | grow larger permissions =>
      exact meets_of_leads (leads_grow isPaging coherent.isKept permissions
        fun _ => coherent.find?_eq_none).map (fun _ _ made => made)
        fun _ _ _ broken => broken
  | shrink smaller =>
      exact meets_of_leads (leads_shrink isPaging size smaller).map
        (fun _ _ made => made) fun _ _ _ broken => broken
  | pageIn address =>
      exact meets_of_leads (leads_pageIn address).map
        (fun _ _ made => made) fun _ _ _ broken => broken
  | resolveFault address access =>
      exact meets_of_leads (leads_resolveFault address access).map
        (fun _ _ made => made) fun _ _ _ broken => broken
  | evict =>
      exact meets_of_leads (leads_evict state).map
        (fun _ _ made => made) fun _ _ _ broken => broken
  | tick =>
      exact meets_of_leads (leads_tick isPaging).map
        (fun _ _ made => made) fun _ _ _ broken => broken
  | touch address isWrite =>
      exact meets_of_leads (leads_touch state address isWrite).map
        (fun _ _ made => made) fun _ _ _ broken => broken
  | clearUser address =>
      have leads : Leads state (clearUser address) (fun moves => moves = [])
          fun _ => False := .of_quiet (isQuiet_clearUser address) rfl
      exact meets_of_leads leads.map (fun _ _ made => made)
        fun _ _ _ broken => broken
  | copyOut address bytes =>
      exact (meets_copyOut_moves size address state bytes).mono
        (fun _ _ made => made) falters
  | copyIn address buffer =>
      exact (meets_copyIn_moves size address state buffer).mono
        (fun _ _ made => made) falters
  | copyInString address buffer =>
      refine (meets_copyInString_moves size address state buffer).mono ?_
        falters
      rintro _ after ⟨length, filled, rfl, made⟩
      obtain ⟨moves, less, uses, follows⟩ := made
      exact ⟨moves, ⟨less, uses⟩, follows⟩

namespace IsCoherent

theorem follows_of_done (coherent : IsCoherent size state)
    (isPaging : state.focus.isPaging = true) {request : Request} {reply : Reply}
    (ran : (request.action size).run state = .done reply after) :
    IsCoherent (request.sizeAfter size) after ∧
      ∃ moves, request.Makes state size reply moves ∧
        Follows state moves after := by
  have orderly := coherent.meets_request request
  have makes := meets_request_moves coherent isPaging request
  rw [ran] at orderly makes
  exact ⟨orderly.coherent, makes⟩

theorem follows_of_failed (coherent : IsCoherent size state)
    (isPaging : state.focus.isPaging = true) {request : Request}
    {error : PagingError}
    (ran : (request.action size).run state = .failed error after) :
    IsCoherent size after ∧
      ∃ moves, request.Breaks state size error after moves ∧
        Follows state moves after := by
  have orderly := coherent.meets_request request
  have breaks := meets_request_moves coherent isPaging request
  rw [ran] at orderly breaks
  exact ⟨orderly.coherent, breaks⟩

end IsCoherent

end AddressSpace

end DemandPaging
