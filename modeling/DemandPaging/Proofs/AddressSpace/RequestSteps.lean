import DemandPaging.Proofs.AddressSpace.InOrder
import DemandPaging.Proofs.AddressSpace.Requests

/-!
# What one request preserves

Whatever others do with the same pool before a request, and whichever transfers
fail in it, a request that finds its space in order leaves it in order and has
its effect on flat memory.  Only a request that makes the clock of the queue run
out may end the run.
-/

namespace DemandPaging

namespace AddressSpace

open Pager (Terms)

variable {state : Hosted AddressSpace} {size ticks : Nat}

/-- Between requests, others may use the pool, and the devices may come to fail
or to work again.  A request ends with its first failed transfer, so to set
anew how many transfers succeed before each request gives every pattern of
failures. -/
structure Sustains (state : Hosted AddressSpace) (host : Host) : Prop where
  served : state.focus.pool < host.pools.size
  held : (pager state).HeldBy (host.pool state.focus.pool)

/-- The clock of the queue runs out: it may have to go up to `total`, which is
not a word. -/
def RunsOut (state : Hosted AddressSpace) (total : Nat) (cause : Fatal) :
    Prop :=
  cause = .overflow ∧ state.focus.config.policy = .scfifo ∧
    Word.limit ≤ total

namespace InOrder

theorem ready (inOrder : InOrder size ticks state) (time : Nat) :
    Ready ⟨RunsOut state (ticks + time), ticks + time⟩ (0 + time) none state
    where
  served := inOrder.served
  parts := {
    sound := inOrder.sound
    ceiling := inOrder.ceiling
    strict := .inr inOrder.strict
    time_le := by
      have clock := inOrder.generation_le
      change _ ≤ ticks + time
      omega
    overflow := fun policy _ late => ⟨rfl, policy, late⟩ }

theorem of_left {before : Hosted AddressSpace} {limit sizeAfter : Nat}
    {effect : FlatMemory → FlatMemory → Prop}
    (left : Left before (Shows effect)
      ⟨RunsOut before limit, ticks⟩ 0 state)
    (spans : FlatMemory.Spans (logicalPage? state) sizeAfter) :
    InOrder sizeAfter ticks state where
  served := left.ready.served
  sound := left.ready.sound
  strict := left.ready.parts.strict.resolve_left fun lax => by
    obtain ⟨isOverflow, _⟩ := lax .outOfBounds
    cases isOverflow
  ceiling := left.ready.parts.ceiling
  generation_le := left.ready.parts.time_le
  spans := spans

/-- What one request preserves, and what it does to flat memory. -/
theorem meets_request (inOrder : InOrder size ticks state)
    (request : Request) (admissible : request.Admissible state) :
    ((request.action size).run state).Meets
      (RunsOut state
        (ticks + request.ticks size state.focus.ledger.maxResident))
      (fun reply after =>
        InOrder (request.sizeAfter size)
          (ticks + request.ticks size state.focus.ledger.maxResident) after ∧
        request.Succeeds size (logicalPage? state) (logicalPage? after) reply)
      fun _ after =>
        InOrder size
          (ticks + request.ticks size state.focus.ledger.maxResident) after ∧
        request.Fails (logicalPage? state) (logicalPage? after) := by
  have spans := inOrder.spans
  simp only [logicalPage?_eq_pager] at spans ⊢
  have fewer : request.ticks size (pager state).turns ≤
      request.ticks size state.focus.ledger.maxResident :=
    request.ticks_mono size (Nat.min_le_left _ _)
  have ready := (inOrder.ready (request.ticks size
    state.focus.ledger.maxResident)).weaken (Nat.add_le_add_left fewer 0)
  refine (AddressSpace.meets_request request ready spans
    (.inr admissible)).mono (fun reply after left => ?_)
    fun error after left => ?_
  · have succeeds := left.changes.parts.2
    refine ⟨.of_left left ?_, succeeds⟩
    rw [logicalPage?_eq_pager]
    exact succeeds.spans spans
  · have fails := left.changes.parts.2
    refine ⟨.of_left left ?_, fails⟩
    rw [logicalPage?_eq_pager]
    exact fails.spans spans

theorem sustain (inOrder : InOrder size ticks state) {host : Host}
    (sustains : Sustains state host) :
    InOrder size ticks ⟨state.focus, host⟩ where
  served := sustains.served
  sound := sustains.held.sound inOrder.sound
  strict := inOrder.strict.withFrames
  ceiling := inOrder.ceiling
  generation_le := inOrder.generation_le
  spans := by
    have spans := inOrder.spans
    rw [logicalPage?_eq_pager] at spans ⊢
    exact spans.congr fun address =>
      congrArg Option.isSome (sustains.held.logicalPage? address)

end InOrder

/-- A new space under paging over the first pool, whose page tables have no
budget and whose swap file has room for its slots. -/
def freshSpace (config : Config) (isMetered : Bool) : AddressSpace where
  table := PageTable.new none
  ledger :=
    { places :=
        Array.replicate (config.maxResident + config.maxSwap) Tracked.unused
      index := ∅
      maxResident := config.maxResident
      residentCount := 0
      swappedCount := 0
      generation := 0 }
  swap := { SwapSpace.over config.maxSwap
    ⟨Array.replicate (config.maxSwap * pageSize) 0⟩ with isMetered }
  pool := 0
  config
  isPaging := true

theorem run_make_fresh {config : Config}
    (isPaging : config.policy.isPaging = true)
    (isValid : 0 < config.maxResident)
    (fits : config.maxResident + config.maxSwap < Word.limit)
    (isMetered : Bool) (host : Host) :
    (make config true 0 (PageTable.new none)
      { SwapSpace.over config.maxSwap
        ⟨Array.replicate (config.maxSwap * pageSize) 0⟩ with
          isMetered }).run host =
        .done (freshSpace config isMetered)
          (host.report (.spaceMade config true)) := by
  have slots : config.maxSwap ≤ (SwapSpace.over config.maxSwap
      ⟨Array.replicate (config.maxSwap * pageSize) 0⟩).capacity :=
    Nat.le_of_eq Array.size_replicate.symm
  refine run_make_eq_done_iff.mpr
    ⟨Config.validate_eq_ok_iff.mpr fun _ => isValid, slots, _,
      Ledger.new_eq_ok_iff.mpr ⟨fits, rfl⟩, ?_, ?_⟩
  · rw [isPaging]
    rfl
  · rw [isPaging]
    rfl

theorem isNew_fresh {config : Config}
    (isPaging : config.policy.isPaging = true)
    (isValid : 0 < config.maxResident)
    (fits : config.maxResident + config.maxSwap < Word.limit)
    (isMetered : Bool) {host : Host}
    (consistent : (host.pool 0).IsConsistent) (inside : 0 < host.pools.size)
    (total_le : (host.pool 0).total ≤ FramePool.sizeLimit) :
    IsNew ⟨freshSpace config isMetered,
      host.report (.spaceMade config true)⟩ :=
  isNew_of_run_make (run_make_fresh isPaging isValid fits isMetered host)
    consistent inside total_le

/-- A new space with room for two pages in memory and one in swap. -/
def smallSpace : AddressSpace :=
  freshSpace ⟨2, 1, .scfifo⟩ false

/-- A host with three frames. -/
def smallHost : Host where
  pools := #[FramePool.new 3]
  events := #[.spaceMade ⟨2, 1, .scfifo⟩ true]

theorem isNew_small : IsNew ⟨smallSpace, smallHost⟩ := by
  have consistent : ((⟨#[FramePool.new 3], {}, #[]⟩ : Host).pool 0).IsConsistent :=
    FramePool.isConsistent_new 3
  exact isNew_fresh rfl (by decide) (by decide) false consistent (by decide)
    (by decide)

theorem entryAt_write_small (entry : Entry) (address : Nat) :
    ((smallSpace.table.addTable 0).write 0 entry).entryAt address =
      if Address.pageBase address = 0 then entry else Entry.empty := by
  have missing : smallSpace.table.get? 0 = none := PageTable.get?_new none 0
  have added : (smallSpace.table.addTable 0).get? 0 = some Entry.empty := by
    rw [PageTable.get?_addTable, if_pos rfl]
  refine (PageTable.entryAt_write added _ address).trans ?_
  rw [PageTable.entryAt_addTable missing]
  rfl

end AddressSpace

end DemandPaging
