import DemandPaging.Action.Meets
import Mathlib.Order.Defs.Unbundled

/-!
# What operations leave, related to what they found

Where a relation between states is reflexive and transitive, operations that
stay within it can be composed: so can those that cannot fail.  Each way of
composing operations has its rule here.
-/

namespace DemandPaging

variable {State Part First Second : Type}

instance isRefl_any : Std.Refl fun _ _ : State => True :=
  ⟨fun _ => trivial⟩

namespace Action

/-- What the operation leaves is related to what it found, and it fails only if
it may. -/
def Relates (relation : State → State → Prop) (mayFail : Prop)
    (action : Action State First) : Prop :=
  ∀ state, (action.run state).Meets (fun _ => True)
    (fun _ after => relation state after)
    fun _ after => mayFail ∧ relation state after

variable {relation weaker : State → State → Prop} {mayFail : Prop}
  {action : Action State First} {next : First → Action State Second}

theorem Relates.mono (relates : action.Relates relation mayFail)
    (weakens : ∀ state after, relation state after → weaker state after) :
    action.Relates weaker mayFail :=
  fun state => (relates state).mono (fun _ after => weakens state after)
    fun _ after isFailed => ⟨isFailed.1, weakens state after isFailed.2⟩

theorem Relates.of_done {state after : State} {result : First}
    (relates : action.Relates relation mayFail)
    (done : action.run state = .done result after) : relation state after := by
  have left := relates state
  rw [done] at left
  exact left

/-- What follows begins in a related state. -/
theorem Relates.meets_bind {state : State}
    {done : Second → State → Prop} {failed : PagingError → State → Prop}
    (relates : action.Relates relation mayFail)
    (fails : mayFail → ∀ error after, relation state after →
      failed error after)
    (rest : ∀ result middle, relation state middle →
      ((next result).run middle).Meets (fun _ => True) done failed) :
    ((action >>= next).run state).Meets (fun _ => True) done failed :=
  Action.meets_bind ((relates state).mono_failed
    fun error after isFailed => fails isFailed.1 error after isFailed.2) rest

theorem relates_any (action : Action State First) :
    action.Relates (fun _ _ => True) True := by
  intro state
  cases action.run state <;> simp

theorem relates_crash (cause : Fatal) :
    (crash cause : Action State First).Relates relation mayFail :=
  fun _ => trivial

theorem relates_modify {update : State → State}
    (related : ∀ state, relation state (update state)) :
    (modify update).Relates relation mayFail :=
  related

theorem relates_change {update : State → Except Fatal State}
    (related : ∀ state after, update state = .ok after →
      relation state after) :
    (change update).Relates relation mayFail := by
  intro state
  cases updated : update state with
  | ok after =>
      rw [run_change_of_ok updated]
      exact related state after updated
  | error cause =>
      rw [run_change_of_error updated]
      trivial

theorem relates_step {transition : State → Except Fatal (First × State)}
    (related : ∀ state result after, transition state = .ok (result, after) →
      relation state after) :
    (step transition).Relates relation mayFail := by
  intro state
  cases stepped : transition state with
  | ok result =>
      rw [run_step_of_ok stepped]
      exact related state result.1 result.2 stepped
  | error cause =>
      rw [run_step_of_error stepped]
      trivial

section Reflexive

variable [Std.Refl relation]

theorem relates_pure (result : First) :
    (pure result : Action State First).Relates relation mayFail :=
  fun state => Std.Refl.refl state

theorem relates_read (look : State → First) :
    (read look).Relates relation mayFail :=
  fun state => Std.Refl.refl state

theorem relates_inspect (look : State → Except Fatal First) :
    (inspect look).Relates relation mayFail := by
  intro state
  cases looked : look state with
  | ok result =>
      rw [run_inspect_of_ok looked]
      exact Std.Refl.refl state
  | error cause =>
      rw [run_inspect_of_error looked]
      trivial

theorem relates_fail (error : PagingError) :
    (fail error : Action State First).Relates relation True :=
  fun state => ⟨trivial, Std.Refl.refl state⟩

theorem relates_failUnless (condition : Prop) [Decidable condition]
    (error : PagingError) :
    (failUnless condition error).Relates relation True := by
  unfold failUnless
  split
  · exact relates_pure ()
  · exact relates_fail error

theorem relates_crashUnless (condition : Prop) [Decidable condition]
    (cause : Fatal) :
    (crashUnless condition cause).Relates relation mayFail := by
  unfold crashUnless
  split
  · exact relates_pure ()
  · exact relates_crash cause

theorem relates_orFail (error : PagingError) (value : Option First) :
    (orFail error value : Action State First).Relates relation True := by
  cases value with
  | some result => exact relates_pure result
  | none => exact relates_fail error

theorem relates_orCrash (cause : Fatal) (value : Option First) :
    (orCrash cause value : Action State First).Relates relation mayFail := by
  cases value with
  | some result => exact relates_pure result
  | none => exact relates_crash cause

theorem relates_ofExcept (found : Except Fatal First) :
    (ofExcept found : Action State First).Relates relation mayFail := by
  cases found with
  | ok result => exact relates_pure result
  | error cause => exact relates_crash cause

theorem relates_runIf {condition : Prop} [Decidable condition]
    {action : Action State Unit}
    (relates : condition → action.Relates relation mayFail) :
    (runIf condition action).Relates relation mayFail := by
  unfold runIf
  split
  · rename_i holds
    exact relates holds
  · exact relates_pure ()

end Reflexive

section Transitive

variable [IsTrans State relation]

theorem Relates.bind (relates : action.Relates relation mayFail)
    (rest : ∀ result, (next result).Relates relation mayFail) :
    (action >>= next).Relates relation mayFail := by
  intro state
  apply relates.meets_bind
  · exact fun may _ _ related => ⟨may, related⟩
  · intro result middle related
    apply (rest result middle).mono
    · exact fun _ _ still => IsTrans.trans _ _ _ related still
    · exact fun _ _ isFailed =>
        ⟨isFailed.1, IsTrans.trans _ _ _ related isFailed.2⟩

theorem Relates.onFailure {undo : PagingError → Action State Unit}
    (relates : action.Relates relation mayFail)
    (undone : ∀ error, (undo error).Relates relation True) :
    (onFailure action undo).Relates relation mayFail := by
  intro state
  apply meets_onFailure (relates state)
  rintro error middle ⟨may, related⟩
  apply (undone error middle).mono
  · exact fun _ _ still => ⟨may, IsTrans.trans _ _ _ related still⟩
  · exact fun _ _ isFailed => ⟨may, IsTrans.trans _ _ _ related isFailed.2⟩

end Transitive

/-- What an operation does to a part shows in the whole. -/
theorem Relates.zoom {part : State → Part} {replace : Part → State → State}
    {action : Action Part First} {partRelation : Part → Part → Prop}
    (relates : action.Relates partRelation mayFail)
    (lifts : ∀ state changed, partRelation (part state) changed →
      relation state (replace changed state)) :
    (zoom part replace action).Relates relation mayFail := by
  intro state
  apply meets_zoom_iff.mpr
  apply (relates (part state)).mono
  · exact fun _ changed => lifts state changed
  · exact fun _ changed isFailed =>
      ⟨isFailed.1, lifts state changed isFailed.2⟩

end Action

end DemandPaging
