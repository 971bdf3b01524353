import DemandPaging.Proofs.AddressSpace.Runs
import DemandPaging.Proofs.Replacement.Aging
import DemandPaging.Proofs.Traffic.Forks

/-!
# The counters of paging balance

Over any run of a space under paging, whatever fails in it, the evictions and
the pages that were inherited in swap are as many as the pages that were brought
back, those that were unmapped in swap and those that are still there; and the
pages in swap are as many as the claimed slots (`balance_of_unmapping_runs`).
-/

namespace DemandPaging

namespace AddressSpace

open Books (isAging pagesFrom)

variable {Result : Type} {state after : Hosted AddressSpace} {size : Nat}
  {journal : List Passage}

theorem trades_withBuffer {buffer : Array UInt8} {action : ReadAction Result}
    (trades : action.Relates ReadTraded True) :
    Trades (withBuffer buffer action) := by
  have both : Action.Relates ReadTraded True (do
      let result ← action
      let filled ← Action.read fun filled => filled.focus.buffer
      return (result, filled)) := by
    apply trades.bind
    intro result
    apply Action.Relates.bind (Action.relates_read _)
    exact fun _ => Action.relates_pure _
  exact both.zoom fun _ _ traded => traded

theorem trades_copyIn (address : Nat) :
    (UserRead.copyIn address).Relates ReadTraded True := by
  apply Action.Relates.bind (Action.relates_read _)
  exact fun _ => trades_fillRuns 0 _

theorem trades_copyInString (address : Nat) :
    (UserRead.copyInString address).Relates ReadTraded True := by
  apply Action.Relates.bind (Action.relates_read _)
  intro room
  apply (trades_fillString 0 _).bind
  exact Action.relates_orFail _

theorem rests_clearUser (address : Nat) : Rests False (clearUser address) := by
  apply (rests_lookup _).bind
  intro found
  apply Action.Relates.bind (Action.relates_orCrash _ found)
  exact fun _ => rests_updateEntry _ _

namespace Request

/-- What happens to the pages in a request that is done, of a space with `size`
bytes of user memory. -/
def Traffic (size : Nat) : Request → List Passage → Prop
  | grow _ _ | copyOut _ _ | copyIn _ _ | copyInString _ _ => IsTrade
  | shrink smaller => fun journal =>
    journal = (shrunkPages size smaller).map .unmap
  | pageIn address | resolveFault address _ => Fetched address
  | evict => fun journal => ∃ victim, journal = [.out victim]
  | tick | touch _ _ | clearUser _ => fun journal => journal = []

/-- What happens to the pages in a request that fails. -/
def FailedTraffic (size : Nat) : Request → List Passage → Prop
  | grow larger _ => fun journal => ∃ fewer < grownPages size larger,
    Retreats (Address.pageCeil size) fewer journal
  | copyOut _ _ | copyIn _ _ | copyInString _ _ => IsTrade
  | pageIn _ | resolveFault _ _ | evict => fun journal => journal = []
  | shrink _ | tick | touch _ _ | clearUser _ => fun _ => False

end Request

theorem journals_request (size : Nat) (request : Request) :
    Journals (request.action size) (request.Traffic size)
      (request.FailedTraffic size) := by
  cases request with
  | grow larger permissions =>
      apply Journals.map
      intro state booked
      apply (passes_grow size larger permissions booked).mono
      · exact fun _ _ traded => traded
      · rintro _ _ ⟨fewer, less, journal, retreats, passes⟩
        exact ⟨journal, ⟨fewer, less, retreats⟩, passes⟩
  | shrink smaller =>
      apply Journals.map
      intro state booked
      apply (passes_shrink size smaller booked).mono
      · exact fun _ _ passes => ⟨_, rfl, passes⟩
      · exact fun _ _ impossible => impossible.elim
  | pageIn address => exact (journals_pageIn address).map
  | resolveFault address access =>
      exact (journals_resolveFault address access).map
  | evict => exact journals_evict.map
  | tick =>
      apply Journals.map
      exact .of_rests rests_tick rfl fun impossible : False => impossible
  | touch address isWrite =>
      apply Journals.map
      exact .of_rests (rests_changeTable _) rfl
        fun impossible : False => impossible
  | clearUser address =>
      exact Journals.map (.of_rests (rests_clearUser address) rfl id)
  | copyOut address bytes => exact (trades_writeRuns _ bytes).journals.map
  | copyIn address buffer =>
      exact (trades_withBuffer (trades_copyIn address)).journals.map
  | copyInString address buffer =>
      exact (trades_withBuffer (trades_copyInString address)).journals.map

/-- What is known of what a step does to the pages. -/
abbrev Account : Type :=
  List Passage → Prop

/-- The runs of a space under paging, from the empty space: what is known of its
steps so far, and the space itself.  Between steps the host may change in any
way, and so the pools and the devices. -/
inductive UnmappingRuns : List Account → Hosted AddressSpace → Prop where
  | made {state : Hosted AddressSpace} (isMade : IsMade state)
      (isPaging : state.focus.isPaging = true) : UnmappingRuns [] state
  | sustained {accounts : List Account} {state : Hosted AddressSpace}
      (host : Host) (runs : UnmappingRuns accounts state) :
      UnmappingRuns accounts ⟨state.focus, host⟩
  | done {accounts : List Account} {state after : Hosted AddressSpace}
      {request : Request} {size : Nat} {reply : Reply}
      (runs : UnmappingRuns accounts state)
      (ran : (request.action size).run state = .done reply after) :
      UnmappingRuns (accounts ++ [request.Traffic size]) after
  | failed {accounts : List Account} {state after : Hosted AddressSpace}
      {request : Request} {size : Nat} {error : PagingError}
      (runs : UnmappingRuns accounts state)
      (ran : (request.action size).run state = .failed error after) :
      UnmappingRuns (accounts ++ [request.FailedTraffic size]) after
  | unmapped {accounts : List Account} {state after : Hosted AddressSpace}
      {address count : Nat} {freeing : Bool} (runs : UnmappingRuns accounts state)
      (ran : (unmap address count freeing).run state = .done () after) :
      UnmappingRuns (accounts ++ [fun journal =>
        journal = (pagesFrom address count).map .unmap]) after
  | forked {accounts : List Account} {size : Nat}
      {state after : Hosted (Fork AddressSpace)}
      (parent : IsLegible state.focus.parent)
      (child : UnmappingRuns accounts (childOf state))
      (ran : (forkCopy size).run state = .done () after) :
      UnmappingRuns (accounts ++ [Receives state.focus.parent
        (pagesFrom 0 (copiedCount size))]) (childOf after)
  | unforked {accounts : List Account} {size : Nat} {error : PagingError}
      {state after : Hosted (Fork AddressSpace)}
      (parent : IsLegible state.focus.parent)
      (child : UnmappingRuns accounts (childOf state))
      (ran : (forkCopy size).run state = .failed error after) :
      UnmappingRuns (accounts ++ [fun journal => ∃ fewer < copiedCount size,
        ∃ copied, Receives state.focus.parent (pagesFrom 0 fewer) copied ∧
          journal = copied ++ (pagesFrom 0 fewer).map .unmap]) (childOf after)

/-- The counters are what the steps so far add up to. -/
structure Accounted (accounts : List Account) (space : AddressSpace) :
    Prop where
  booked : IsBooked space
  parts : ∃ parts,
    List.Forall₂ (fun (account : Account) part => account part) accounts parts ∧
    Replays parts.flatten ∅ space.swappedPages ∧
    space.stats.evictions = parts.flatten.countP Passage.isOut ∧
    space.stats.pageIns = parts.flatten.countP Passage.isBack
  slots : space.swap.inUse = space.swappedPages.card

namespace Accounted

variable {accounts : List Account} {space next : AddressSpace}

theorem step (accounted : Accounted accounts space) {account : Account}
    (isPart : account journal) (passes : Passes space journal 0 next) :
    Accounted (accounts ++ [account]) next := by
  obtain ⟨parts, matched, replays, evictions, pageIns⟩ := accounted.parts
  refine ⟨passes.isBooked, ⟨parts ++ [journal], ?_, ?_, ?_, ?_⟩, ?_⟩
  · exact List.rel_append matched (.cons isPart .nil)
  · rw [List.flatten_append, List.flatten_singleton]
    exact replays.append passes.replays
  · rw [List.flatten_append, List.flatten_singleton, List.countP_append,
      passes.evictions, evictions]
  · rw [List.flatten_append, List.flatten_singleton, List.countP_append,
      passes.pageIns, pageIns]
  · have slots := accounted.slots
    have changed := passes.slots
    omega

theorem of_isMade (isMade : IsMade state)
    (isPaging : state.focus.isPaging = true) : Accounted [] state.focus := by
  obtain @⟨_, _, _, _, slots, _, file, _, _, _, ran⟩ := isMade
  obtain ⟨_, _, ledger, ledgerMade, rfl, rfl⟩ := run_make_eq_done_iff.mp ran
  have consistent := Ledger.isConsistent_new ledgerMade
  have empty : ledger.swappedPages = ∅ := by
    rw [← Finset.card_eq_zero, consistent.card_swappedPages]
    obtain ⟨_, rfl⟩ := Ledger.new_eq_ok_iff.mp ledgerMade
    rfl
  refine ⟨⟨isPaging, consistent, SwapSpace.isConsistent_over slots file⟩,
    ⟨[], .nil, ?_, rfl, rfl⟩, ?_⟩
  · rw [swappedPages, empty]
    exact .nil ∅
  · rw [swappedPages, empty]
    rfl

end Accounted

variable {accounts : List Account}

theorem UnmappingRuns.accounted (runs : UnmappingRuns accounts state) :
    Accounted accounts state.focus := by
  induction runs with
  | made isMade isPaging => exact .of_isMade isMade isPaging
  | sustained _ _ accounted => exact accounted
  | @done _ _ _ request size _ _ ran accounted =>
      have journals := journals_request size request _ accounted.booked
      rw [ran] at journals
      obtain ⟨journal, isPart, passes⟩ := journals
      exact accounted.step isPart passes
  | @failed _ _ _ request size _ _ ran accounted =>
      have journals := journals_request size request _ accounted.booked
      rw [ran] at journals
      obtain ⟨journal, isPart, passes⟩ := journals
      exact accounted.step isPart passes
  | @unmapped _ _ _ address count freeing _ ran accounted =>
      have passes := passes_unmap freeing address count accounted.booked
      rw [ran] at passes
      exact accounted.step rfl passes
  | @forked _ size _ _ parent _ ran accounted =>
      have copies := passes_forkCopy size accounted.booked parent
      rw [ran] at copies
      obtain ⟨journal, receives, passes⟩ := copies
      exact accounted.step receives passes.child
  | @unforked _ size _ _ _ parent _ ran accounted =>
      have copies := passes_forkCopy size accounted.booked parent
      rw [ran] at copies
      obtain ⟨fewer, less, copied, receives, passes⟩ := copies
      exact accounted.step ⟨fewer, less, copied, receives, rfl⟩ passes.child

end AddressSpace

end DemandPaging
