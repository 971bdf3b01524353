import DemandPaging.Proofs.AddressSpace.Extent
import DemandPaging.UserProcess

/-!
# Calls of a process

Whatever is called for, the size of a process is that of its user memory.  A
call that fails leaves both as they were.  Growing ends the run only if the
clock of the second-chance policy runs out, and giving everything back never
does.
-/

namespace DemandPaging

open AddressSpace (IsTidy IsTidied Request RunsLate grownPages pager)

/-- Does a request leave the extent of user memory as it is? -/
def AddressSpace.Request.KeepsSize : Request → Prop
  | grow _ _ | shrink _ => False
  | _ => True

theorem AddressSpace.Request.KeepsSize.sizeAfter {asked : Request}
    (keeps : asked.KeepsSize) (size : Nat) : asked.sizeAfter size = size := by
  cases asked with
  | grow _ _ | shrink _ => exact keeps.elim
  | pageIn _ | resolveFault _ _ | evict | tick | touch _ _ | clearUser _
  | copyOut _ _ | copyIn _ _ | copyInString _ _ => rfl

namespace UserProcess

variable {Result : Type} {state before after : Hosted UserProcess}
  {fatal : Fatal → Prop}

/-- The address space of a process, with its host. -/
def spaceOf (state : Hosted UserProcess) : Hosted AddressSpace :=
  ⟨state.focus.space, state.host⟩

/-- What may be called for. -/
inductive Call where
  | growBy (change : Int)
  | firstPage (code : List UInt8)
  | extendRange (low high : Nat)
  | releaseRange (low high : Nat)
  | request (asked : Request)
  | exit

namespace Call

/-- The operation that is called for. -/
def action : Call → ProcessAction Unit
  | growBy change => (fun _ => ()) <$> UserProcess.growBy change
  | firstPage code => UserProcess.firstPage code
  | extendRange low high =>
    (fun _ => ()) <$> UserProcess.extendRange low high
  | releaseRange low high =>
    (fun _ => ()) <$> UserProcess.releaseRange low high
  | request asked => do
    let size ← currentSize
    let _ ← inSpace (asked.action size)
  | exit => UserProcess.exit

/-- What a caller has to see to: the first page comes first, ranges end within
the limit of user memory, and requests do not change its extent. -/
def Admissible (state : Hosted UserProcess) : Call → Prop
  | firstPage _ => state.focus.size = 0
  | extendRange low high | releaseRange low high =>
    low ≤ addressLimit ∧ high ≤ addressLimit
  | request asked => asked.KeepsSize ∧ asked.Admissible (spaceOf state)
  | growBy _ | exit => True

/-- The most that the clock advances in a call. -/
def ticks (size turns : Nat) : Call → Nat
  | growBy change =>
    grownPages size (min (size + change.toNat) addressLimit) * (turns + 1)
  | firstPage _ => turns + 1
  | extendRange _ high => grownPages size high * (turns + 1)
  | request asked => asked.ticks size turns
  | releaseRange _ _ | exit => 0

/-- A call ends the run if the program for the first page does not fit, or if
the clock of the queue runs out. -/
def MayEnd (state : Hosted UserProcess) (call : Call) (cause : Fatal) : Prop :=
  (∃ code, call = .firstPage code ∧ pageSize ≤ code.length ∧
    cause = .firstPageTooLong) ∨
  RunsLate (spaceOf state)
    (call.ticks state.focus.size (pager (spaceOf state)).turns) cause

end Call

/-- The size is that of user memory, and the call stayed within its space. -/
def IsManaged (before after : Hosted UserProcess) : Prop :=
  IsTidied (spaceOf before) after.focus.size (spaceOf after)

/-- Moreover, the size is what it was. -/
def IsSpared (before after : Hosted UserProcess) : Prop :=
  IsManaged before after ∧ after.focus.size = before.focus.size

theorem isSpared_refl (tidy : IsTidy state.focus.size (spaceOf state)) :
    IsSpared state state :=
  ⟨⟨⟨⟨.refl _, .refl _⟩, tidy.toIsCoherent⟩, tidy.strict⟩, rfl⟩

/-- An operation on the address space leaves the pid and the size alone. -/
theorem meets_inSpace {action : SpaceAction Result}
    {done : Result → Hosted UserProcess → Prop}
    {failed : PagingError → Hosted UserProcess → Prop}
    (meets : (action.run (spaceOf state)).Meets fatal
      (fun result after =>
        done result ⟨{ state.focus with space := after.focus }, after.host⟩)
      fun error after =>
        failed error ⟨{ state.focus with space := after.focus }, after.host⟩) :
    ((inSpace action).run state).Meets fatal done failed :=
  Action.meets_zoom_iff.mpr meets

/-- What changes the extent of user memory is followed by setting the size. -/
theorem meets_inSpace_resize {action : SpaceAction Nat}
    (result : Nat → Result)
    {failed : PagingError → Hosted UserProcess → Prop}
    (meets : (action.run (spaceOf state)).Meets fatal
      (fun size after => IsTidied (spaceOf state) size after)
      fun error after =>
        failed error ⟨{ state.focus with space := after.focus }, after.host⟩) :
    (Action.run (do
      let size ← inSpace action
      resize size
      return result size) state).Meets fatal
      (fun _ => IsManaged state) failed := by
  refine Action.meets_bind_of (fun size after =>
    IsTidied (spaceOf state) size (spaceOf after)) (meets_inSpace meets)
      fun size middle tidied => ?_
  exact tidied

variable (tidy : IsTidy state.focus.size (spaceOf state))

include tidy

/-- Memory that is to grow does so, or is as it was. -/
theorem meets_grow {target : Nat} (inside : target ≤ addressLimit)
    (result : Nat → Result) :
    (Action.run (do
      let size ← inSpace
        (AddressSpace.grow state.focus.size target { write := true })
      resize size
      return result size) state).Meets
      (RunsLate (spaceOf state) (grownPages state.focus.size target *
        ((pager (spaceOf state)).turns + 1)))
      (fun _ => IsManaged state) (fun _ => IsSpared state) := by
  have grows := tidy.meets_request (.grow target { write := true })
    ⟨inside, rfl⟩
  refine meets_inSpace_resize result ((Action.meets_map_iff.mp grows).mono
    (fun size after grown => ?_) fun _ after tidied => ⟨tidied, rfl⟩)
  obtain ⟨tidied, sameSize, _⟩ := grown
  injection sameSize with sameSize
  rw [sameSize]
  exact tidied

/-- Memory that is to shrink does so. -/
theorem meets_shrink (target : Nat) (result : Nat → Result) :
    (Action.run (do
      let size ← inSpace (AddressSpace.shrink state.focus.size target)
      resize size
      return result size) state).Meets fatal
      (fun _ => IsManaged state) (fun _ => IsSpared state) := by
  have shrinks := tidy.meets_request (.shrink target) trivial
  refine meets_inSpace_resize result ((Action.meets_map_iff.mp shrinks).mono
    (fun size after shrunk => ?_) (fun _ after tidied => ⟨tidied, rfl⟩)
      |>.mono_fatal fun _ late => absurd late.2.2.1 (Nat.lt_irrefl 0))
  obtain ⟨tidied, sameSize, _⟩ := shrunk
  injection sameSize with sameSize
  rw [sameSize]
  exact tidied

/-- A process grows or shrinks, or is as it was. -/
theorem meets_growBy (change : Int) :
    ((growBy change).run state).Meets
      (RunsLate (spaceOf state) ((Call.growBy change).ticks state.focus.size
        (pager (spaceOf state)).turns))
      (fun _ => IsManaged state) (fun _ => IsSpared state) := by
  rw [growBy, currentSize, Action.run_bind_of_done (Action.run_read _ _)]
  by_cases grows : 0 < change
  · rw [if_pos grows]
    refine Action.meets_failUnless_bind (fun _ => isSpared_refl tidy)
      fun inside => ?_
    rw [Call.ticks, Nat.min_eq_left (Nat.le_of_lt inside)]
    exact meets_grow tidy (Nat.le_of_lt inside) fun _ => state.focus.size
  · rw [if_neg grows]
    exact meets_shrink tidy _ fun _ => state.focus.size

theorem size_le : state.focus.size ≤ addressLimit :=
  AddressSpace.le_of_spans (tidy.ready 0) tidy.spans

omit tidy in
theorem roundUp_of_le {size : Nat} (le : size ≤ addressLimit) :
    Word.roundUp size = .ok (Address.pageCeil size) := by
  refine Word.roundUp_of_lt ?_
  simp only [addressLimit, pageSize, Word.limit] at *
  omega

/-- A range has to begin or to end where user memory ends. -/
theorem meets_checkRange {edge : Nat} (inside : edge ≤ addressLimit)
    {action : ProcessAction Result}
    {done : Result → Hosted UserProcess → Prop}
    (meets : (action.run state).Meets fatal done fun _ => IsSpared state) :
    (Action.run (do
      let boundary ← Word.roundUp edge
      let stop ← Word.roundUp state.focus.size
      Action.failUnless (boundary = stop) (.badAddress edge)
      action) state).Meets fatal done (fun _ => IsSpared state) := by
  rw [Action.liftM_eq_ofExcept, roundUp_of_le inside,
    Action.run_bind_of_done (Action.run_ofExcept_ok _ _),
    Action.liftM_eq_ofExcept, roundUp_of_le (size_le tidy),
    Action.run_bind_of_done (Action.run_ofExcept_ok _ _)]
  exact Action.meets_failUnless_bind (fun _ => isSpared_refl tidy)
    fun _ => meets

theorem meets_extendRange {low high : Nat} (lowInside : low ≤ addressLimit)
    (highInside : high ≤ addressLimit) :
    ((extendRange low high).run state).Meets
      (RunsLate (spaceOf state) (grownPages state.focus.size high *
        ((pager (spaceOf state)).turns + 1)))
      (fun _ => IsManaged state) (fun _ => IsSpared state) := by
  rw [extendRange, currentSize, Action.run_bind_of_done (Action.run_read _ _)]
  exact meets_checkRange tidy lowInside (meets_grow tidy highInside id)

theorem meets_releaseRange {low high : Nat} (inside : high ≤ addressLimit) :
    ((releaseRange low high).run state).Meets fatal
      (fun _ => IsManaged state) (fun _ => IsSpared state) := by
  rw [releaseRange, currentSize, Action.run_bind_of_done (Action.run_read _ _)]
  exact meets_checkRange tidy inside (meets_shrink tidy low id)

/-- The first page is made, or the process is as it was. -/
theorem meets_firstPage (code : List UInt8) (isEmpty : state.focus.size = 0) :
    ((firstPage code).run state).Meets
      (fun cause => cause = .firstPageTooLong ∧ pageSize ≤ code.length ∨
        RunsLate (spaceOf state) ((pager (spaceOf state)).turns + 1) cause)
      (fun _ => IsManaged state) (fun _ => IsSpared state) := by
  rw [isEmpty] at tidy
  rw [firstPage]
  refine Action.meets_bind_of (fun _ after =>
    IsTidied (spaceOf state) pageSize (spaceOf after))
      (meets_inSpace ((tidy.meets_firstPage code).mono_failed
        fun _ _ tidied => ⟨?_, rfl⟩))
          fun _ _ tidied => tidied
  rw [IsManaged, isEmpty]
  exact tidied

/-- A request leaves the size alone. -/
theorem meets_request {asked : Request} (keeps : asked.KeepsSize)
    (admissible : asked.Admissible (spaceOf state)) :
    (((Call.request asked).action).run state).Meets
      (RunsLate (spaceOf state)
        (asked.ticks state.focus.size (pager (spaceOf state)).turns))
      (fun _ => IsSpared state) (fun _ => IsSpared state) := by
  rw [Call.action, currentSize, Action.run_bind_of_done (Action.run_read _ _)]
  refine Action.meets_map (meets_inSpace ((tidy.meets_request asked
    admissible).mono (fun _ _ done => ⟨?_, rfl⟩)
      fun _ _ tidied => ⟨tidied, rfl⟩))
  rw [keeps.sizeAfter] at done
  exact done.1

theorem meets_exit {failed : PagingError → Hosted UserProcess → Prop} :
    (exit.run state).Meets fatal
      (fun _ after => IsManaged state after ∧ after.focus.size = 0) failed := by
  have resized : (resize 0).run state =
      .done () ⟨{ state.focus with size := 0 }, state.host⟩ := rfl
  have tears : ((AddressSpace.tearDown state.focus.size).run
      (spaceOf ⟨{ state.focus with size := 0 }, state.host⟩)).Meets fatal
      (fun _ after => IsTidied (spaceOf state) 0 after ∧
        (pager after).IsVacant) fun _ _ => False := tidy.meets_tearDown
  rw [exit, Action.run_bind_of_done (Action.run_get _),
    Action.run_bind_of_done resized]
  refine Action.meets_bind_of (fun _ after =>
    IsTidied (spaceOf state) 0 (spaceOf after) ∧ after.focus.size = 0)
      (meets_inSpace (tears.mono (fun _ _ torn => ⟨torn.1, rfl⟩)
        fun _ _ => False.elim)) ?_
  rintro _ middle ⟨tidied, isZero⟩
  have reported : IsTidied (spaceOf state) 0
      (spaceOf ⟨middle.focus, middle.host.report
        (.processExited state.focus.pid state.focus.size)⟩) :=
    ⟨⟨⟨⟨tidied.changes.stays.pool, tidied.changes.stays.size,
      tidied.changes.stays.elsewhere⟩, tidied.changes.parts⟩,
        ⟨tidied.coherent.served, tidied.coherent.sound,
          tidied.coherent.ceiling, tidied.coherent.spans⟩⟩, tidied.strict⟩
  refine ⟨?_, isZero⟩
  rw [IsManaged]
  exact isZero ▸ reported

theorem meets_call (call : Call) (admissible : call.Admissible state) :
    (call.action.run state).Meets (call.MayEnd state)
      (fun _ => IsManaged state) (fun _ => IsSpared state) := by
  cases call with
  | growBy change =>
      exact Action.meets_map ((meets_growBy tidy change).mono_fatal
        fun _ => .inr)
  | firstPage code =>
      refine (meets_firstPage tidy code admissible).mono_fatal
        fun cause ends => ends.imp_left ?_
      exact fun ⟨same, long⟩ => ⟨code, rfl, long, same⟩
  | extendRange low high =>
      exact Action.meets_map ((meets_extendRange tidy admissible.1
        admissible.2).mono_fatal fun _ => .inr)
  | releaseRange low high =>
      exact Action.meets_map (meets_releaseRange tidy admissible.2)
  | request asked =>
      exact ((meets_request tidy admissible.1 admissible.2).mono_done
        fun _ _ spared => spared.1).mono_fatal
          fun _ => .inr
  | exit =>
      exact (meets_exit tidy).mono_done fun _ _ done => done.1

end UserProcess

end DemandPaging
