import DemandPaging.Proofs.Traffic.Growth
import DemandPaging.Proofs.Unmapping.Runs
import DemandPaging.Proofs.Withdrawal.Guarding

/-!
# Pages that a space was told to map

A space that grows maps the pages of a range one after the other, and if it
fails it has mapped the first of them.  Nothing else that it can be told maps a
page.  So of a whole run it is known which groups of pages have tables and which
pages were opened: those that were mapped, whatever became of them since
(`RunsTasks.opens`).
-/

namespace DemandPaging

namespace AddressSpace

variable {First Second : Type} {state after origin : Hosted AddressSpace}
  {page frame more : Nat} {opened : Finset Nat} {flags : Flags}

theorem pagesFrom_zero (page : Nat) : pagesFrom page 0 = ∅ :=
  rfl

theorem pagesFrom_one (page : Nat) : pagesFrom page 1 = {page} := by
  rw [pagesFrom_succ, pagesFrom_zero, Finset.union_empty]

/-- Some of the first pages of a run were mapped. -/
def OpensSome (before : Hosted AddressSpace) (page count : Nat)
    (after : Hosted AddressSpace) : Prop :=
  ∃ fewer ≤ count,
    before.focus.table.Opens (pagesFrom page fewer) after.focus.table

theorem OpensSome.of_guarded (guarded : Guarded state after) :
    OpensSome state page more after :=
  ⟨0, Nat.zero_le more, guarded⟩

theorem OpensSome.trans_guarded {middle : Hosted AddressSpace}
    (opens : OpensSome state page more middle)
    (guarded : Guarded middle after) : OpensSome state page more after := by
  obtain ⟨fewer, le, opens⟩ := opens
  exact ⟨fewer, le, opens.trans_empty guarded⟩

/-- What is mapped after an operation that maps nothing is all that is
mapped. -/
theorem Guards.opens_bind {action : SpaceAction First}
    {next : First → SpaceAction Second} (guards : Guards action)
    (rest : ∀ result middle, ((next result).run middle).Meets (fun _ => True)
      (fun _ after => middle.focus.table.Opens opened after.focus.table)
      fun _ after => OpensSome middle page more after)
    (state : Hosted AddressSpace) :
    ((action >>= next).run state).Meets (fun _ => True)
      (fun _ after => state.focus.table.Opens opened after.focus.table)
      fun _ after => OpensSome state page more after := by
  apply guards.meets_bind
  · exact fun _ _ _ guarded => .of_guarded guarded
  intro result middle guarded
  apply (rest result middle).mono
  · exact fun _ _ opens => guarded.empty_trans opens
  · rintro _ _ ⟨fewer, le, opens⟩
    exact ⟨fewer, le, guarded.empty_trans opens⟩

theorem opens_place (frame : Nat) (flags : Flags)
    (aligned : Address.pageBase page = page) (state : Hosted AddressSpace) :
    ((place page frame flags).run state).Meets (fun _ => True)
      (fun _ after => state.focus.table.Opens {page} after.focus.table)
      fun _ after => Guarded state after := by
  have maps : ((onTable (PageTable.map page frame pageSize flags)).run
      state).Meets (fun _ => True)
        (fun _ after => state.focus.table.Opens {page} after.focus.table)
        fun _ after => Guarded state after := by
    apply Action.meets_zoom_iff.mpr
    apply (PageTable.opens_map frame flags aligned state.focus.table).mono
    · exact fun _ _ opens => opens
    · rintro _ _ rfl
      exact .refl state.focus.table
  apply Action.meets_onFailure maps
  intro error middle guarded
  apply (guards_onFrames (Action.change fun pool =>
    pool.release frame) middle).mono
  · exact fun _ _ freed => guarded.trans_empty freed
  · exact fun _ _ freed => guarded.trans_empty freed.2

/-- A page that could be mapped but not enrolled leaves its table behind. -/
theorem opens_install (frame : Nat) (flags : Flags)
    (aligned : Address.pageBase page = page) (state : Hosted AddressSpace) :
    ((install page frame flags).run state).Meets (fun _ => True)
      (fun _ after => state.focus.table.Opens {page} after.focus.table)
      fun _ after => OpensSome state page 1 after := by
  apply Action.meets_bind ((opens_place frame flags aligned state).mono_failed
    fun _ _ guarded => .of_guarded guarded)
  intro _ placed opens
  have enrolls : Guards ((enroll page).onFailure fun _ =>
      withdraw page frame) :=
    (guards_enroll page).onFailure fun _ => guards_withdraw page frame
  apply (enrolls placed).mono
  · exact fun _ _ guarded => opens.trans_empty guarded
  · rintro _ _ ⟨_, guarded⟩
    refine ⟨1, Nat.le_refl 1, ?_⟩
    rw [pagesFrom_one]
    exact opens.trans_empty guarded

theorem opens_addPage (contents : List UInt8) (flags : Flags)
    (aligned : Address.pageBase page = page) (state : Hosted AddressSpace) :
    ((addPage page contents flags).run state).Meets (fun _ => True)
      (fun _ after => state.focus.table.Opens {page} after.focus.table)
      fun _ after => OpensSome state page 1 after := by
  apply guards_takeFrame.opens_bind
  intro frame
  apply Guards.opens_bind (guards_onFrames _)
  intro _
  apply Guards.opens_bind (guards_onFrames _)
  exact fun _ => opens_install frame flags aligned

/-- A run of pages is mapped, or some of its first pages were. -/
theorem opens_addRun (old count : Nat)
    (aligned : Address.pageBase page = page) (state : Hosted AddressSpace) :
    ((addRun flags old page count).run state).Meets (fun _ => True)
      (fun _ after => state.focus.table.Opens (pagesFrom page count)
        after.focus.table)
      fun _ after => OpensSome state page count after := by
  induction count generalizing page state with
  | zero => exact .refl state.focus.table
  | succ count ih =>
      have adds : (((addPage page [] flags).onFailure fun _ => do
          let _ ← shrink page old).run state).Meets (fun _ => True)
            (fun _ after =>
              state.focus.table.Opens {page} after.focus.table)
            fun _ after => OpensSome state page 1 after := by
        apply Action.meets_onFailure (opens_addPage [] flags aligned state)
        intro error middle opens
        have shrinks : Guards (do let _ ← shrink page old) :=
          (guards_shrink page old).bind fun _ => Action.relates_pure ()
        apply (shrinks middle).mono
        · exact fun _ _ guarded => opens.trans_guarded guarded
        · exact fun _ _ guarded => opens.trans_guarded guarded.2
      apply Action.meets_bind (adds.mono_failed ?_)
      · intro _ middle opens
        apply (ih (Address.pageBase_next aligned) middle).mono
        · intro _ after further
          rw [pagesFrom_succ]
          exact opens.trans further
        · rintro _ after ⟨fewer, le, further⟩
          refine ⟨fewer + 1, Nat.succ_le_succ le, ?_⟩
          rw [pagesFrom_succ]
          exact opens.trans further
      · rintro _ after ⟨fewer, le, opens⟩
        exact ⟨fewer, by omega, opens⟩

theorem opens_grow (old new : Nat) (permissions : Flags)
    (state : Hosted AddressSpace) :
    ((grow old new permissions).run state).Meets (fun _ => True)
      (fun _ after => state.focus.table.Opens
        (pagesFrom (Address.pageCeil old) (grownPages old new))
        after.focus.table)
      fun _ after =>
        OpensSome state (Address.pageCeil old) (grownPages old new) after := by
  rw [grow]
  split
  · rename_i less
    have none : grownPages old new = 0 := by
      have := Address.le_pageCeil old
      simp only [grownPages, pageSize]
      omega
    rw [none]
    exact PageTable.Opens.refl state.focus.table
  · refine Action.meets_roundUp_bind (fun _ => trivial) fun _ => ?_
    have aligned : Address.pageBase (Address.pageCeil old) =
        Address.pageCeil old :=
      Address.pageBase_eq_self_iff.mpr (Address.isPageAligned_pageCeil old)
    apply Action.meets_bind (opens_addRun old _ aligned state)
    exact fun _ _ opens => opens

/-- What a space may be told to do. -/
inductive Task where
  | request (size : Nat) (request : Request)
  | firstPage (code : List UInt8)
  | enroll (address : Nat)
  | unmap (address count : Nat) (freeing : Bool)

namespace Task

def action : Task → SpaceAction Unit
  | request size asked => (fun _ => ()) <$> asked.action size
  | firstPage code => AddressSpace.firstPage code
  | enroll address => AddressSpace.enroll address
  | unmap address count freeing => AddressSpace.unmap address count freeing

/-- The first page that the task maps, if it maps one. -/
def start : Task → Nat
  | request size (.grow ..) => Address.pageCeil size
  | _ => 0

/-- The number of pages that the task maps. -/
def count : Task → Nat
  | request size (.grow larger _) => grownPages size larger
  | firstPage _ => 1
  | _ => 0

/-- The pages that the task maps. -/
def pages (task : Task) : Finset Nat :=
  pagesFrom task.start task.count

end Task

theorem guards_request {request : Request} (size : Nat)
    (other : ∀ larger permissions, request ≠ .grow larger permissions) :
    Guards (request.action size) := by
  have mapped : ∀ {First Second : Type} {change : First → Second}
      {action : SpaceAction First}, Guards action →
        Guards (change <$> action) := by
    intro First Second change action guards
    rw [map_eq_pure_bind]
    exact guards.bind fun _ => Action.relates_pure _
  cases request with
  | grow larger permissions => exact absurd rfl (other larger permissions)
  | shrink smaller => exact mapped (guards_shrink size smaller)
  | pageIn address => exact mapped (guards_pageIn address)
  | resolveFault address access =>
      exact mapped (guards_resolveFault address access)
  | evict => exact mapped (guards_evictInto none)
  | tick => exact mapped guards_tick
  | touch address isWrite => exact mapped (guards_touch address isWrite)
  | clearUser address => exact mapped (guards_clearUser address)
  | copyOut address bytes => exact mapped (guards_writeRuns _ bytes)
  | copyIn address buffer =>
      exact mapped (guards_withBuffer (guards_copyIn address))
  | copyInString address buffer =>
      exact mapped (guards_withBuffer (guards_copyInString address))

/-- What does not map pages opens none. -/
theorem opens_of_guards {Result : Type} {action : SpaceAction Result}
    (guards : Guards action) (page count : Nat) (none : count = 0)
    (state : Hosted AddressSpace) :
    (action.run state).Meets (fun _ => True)
      (fun _ after =>
        state.focus.table.Opens (pagesFrom page count) after.focus.table)
      fun _ after => OpensSome state page count after := by
  subst none
  apply (guards state).mono
  · exact fun _ _ guarded => guarded
  · exact fun _ _ guarded => .of_guarded guarded.2

/-- A task that is done has mapped its pages, and one that fails some of the
first of them. -/
theorem opens_task (task : Task) (state : Hosted AddressSpace) :
    (task.action.run state).Meets (fun _ => True)
      (fun _ after => state.focus.table.Opens task.pages after.focus.table)
      fun _ after => OpensSome state task.start task.count after := by
  cases task with
  | request size request =>
      apply Action.meets_map
      cases request with
      | grow larger permissions =>
          exact Action.meets_map (opens_grow size larger permissions state)
      | _ =>
          apply opens_of_guards (guards_request size ?_) _ _ rfl
          rintro _ _ ⟨⟩
  | firstPage code =>
      apply Action.meets_crashUnless_bind fun _ => trivial
      intro _
      apply (opens_addPage code _ rfl state).mono
      · intro _ after opens
        rw [← pagesFrom_one] at opens
        exact opens
      · exact fun _ _ opens => opens
  | enroll address =>
      exact opens_of_guards (guards_enroll address) _ _ rfl state
  | unmap address count freeing =>
      exact opens_of_guards (guards_unmap address count freeing) _ _ rfl state

/-- The space is told to do some things one after the other, and each is done or
fails.  In between the host may change in any way, and so the pools and the
devices. -/
inductive RunsTasks : List (Task × Bool) → Hosted AddressSpace →
    Hosted AddressSpace → Prop where
  | nil {state : Hosted AddressSpace} : RunsTasks [] state state
  | sustained {tasks : List (Task × Bool)} {before state : Hosted AddressSpace}
      (host : Host) (runs : RunsTasks tasks before state) :
      RunsTasks tasks before ⟨state.focus, host⟩
  | done {tasks : List (Task × Bool)} {task : Task}
      {before state after : Hosted AddressSpace}
      (runs : RunsTasks tasks before state)
      (ran : task.action.run state = .done () after) :
      RunsTasks (tasks ++ [(task, true)]) before after
  | failed {tasks : List (Task × Bool)} {task : Task} {error : PagingError}
      {before state after : Hosted AddressSpace}
      (runs : RunsTasks tasks before state)
      (ran : task.action.run state = .failed error after) :
      RunsTasks (tasks ++ [(task, false)]) before after

/-- These pages were mapped in all: the pages of each task that was done, and of
each that failed some of the first ones. -/
inductive Maps : List (Task × Bool) → Finset Nat → Prop where
  | nil : Maps [] ∅
  | done {tasks : List (Task × Bool)} {pages : Finset Nat} {task : Task}
      (maps : Maps tasks pages) :
      Maps (tasks ++ [(task, true)]) (pages ∪ task.pages)
  | failed {tasks : List (Task × Bool)} {pages : Finset Nat} {task : Task}
      {fewer : Nat} (le : fewer ≤ task.count) (maps : Maps tasks pages) :
      Maps (tasks ++ [(task, false)]) (pages ∪ pagesFrom task.start fewer)

variable {tasks : List (Task × Bool)} {pages : Finset Nat}

theorem Maps.mem_pages (maps : Maps tasks pages) (member : page ∈ pages) :
    ∃ task ∈ tasks, page ∈ task.1.pages := by
  induction maps with
  | nil => exact absurd member (Finset.notMem_empty page)
  | done maps ih =>
      rcases Finset.mem_union.mp member with earlier | now
      · obtain ⟨task, among, mapped⟩ := ih earlier
        exact ⟨task, List.mem_append_left _ among, mapped⟩
      · exact ⟨_, List.mem_concat_self, now⟩
  | failed le maps ih =>
      rcases Finset.mem_union.mp member with earlier | now
      · obtain ⟨task, among, mapped⟩ := ih earlier
        exact ⟨task, List.mem_append_left _ among, mapped⟩
      · obtain ⟨index, less, same⟩ := mem_pagesFrom.mp now
        exact ⟨_, List.mem_concat_self,
          mem_pagesFrom.mpr ⟨index, Nat.lt_of_lt_of_le less le, same⟩⟩

/-- The pages that were mapped in a run are known from what the space was
told. -/
theorem RunsTasks.opens (runs : RunsTasks tasks origin state) :
    ∃ pages, Maps tasks pages ∧
      origin.focus.table.Opens pages state.focus.table := by
  induction runs with
  | nil => exact ⟨∅, .nil, .refl _⟩
  | sustained host _ ih => exact ih
  | @done _ task _ middle _ _ ran ih =>
      obtain ⟨pages, maps, opens⟩ := ih
      have further := opens_task task middle
      rw [ran] at further
      exact ⟨_, .done maps, opens.trans further⟩
  | @failed _ task _ _ middle _ _ ran ih =>
      obtain ⟨pages, maps, opens⟩ := ih
      have further := opens_task task middle
      rw [ran] at further
      obtain ⟨fewer, le, further⟩ := further
      exact ⟨_, .failed le maps, opens.trans further⟩

end AddressSpace

end DemandPaging
