import DemandPaging.Fatal
import DemandPaging.PagingError

/-!
# Operations and their endings

An operation on a state ends in one of three ways.  It is done and gives a
result; it failed with an error the caller recovers from, and the state is
what the operation left; or it met a fatal error, after which there is no
state.  `Action` composes operations: a failure or a fatal error ends the
whole.
-/

namespace DemandPaging

/-- How an operation ends. -/
inductive Outcome (State Result : Type) where
  | done (result : Result) (state : State)
  | failed (error : PagingError) (state : State)
  | fatal (cause : Fatal)

/-- What follows an ending: `next` where the operation was done, nothing where
it failed or was fatal. -/
def Outcome.andThen {State First Second : Type} (outcome : Outcome State First)
    (next : First → State → Outcome State Second) : Outcome State Second :=
  match outcome with
  | .done result state => next result state
  | .failed error state => .failed error state
  | .fatal cause => .fatal cause

@[simp]
theorem Outcome.andThen_done {State First Second : Type} (result : First)
    (state : State) (next : First → State → Outcome State Second) :
    (Outcome.done result state).andThen next = next result state :=
  rfl

@[simp]
theorem Outcome.andThen_failed {State First Second : Type}
    (error : PagingError) (state : State)
    (next : First → State → Outcome State Second) :
    (Outcome.failed error state).andThen next = .failed error state :=
  rfl

@[simp]
theorem Outcome.andThen_fatal {State First Second : Type} (cause : Fatal)
    (next : First → State → Outcome State Second) :
    (Outcome.fatal cause).andThen next = .fatal cause :=
  rfl

/-- An operation on a state. -/
def Action (State Result : Type) : Type :=
  State → Outcome State Result

namespace Action

variable {State Part First Second Third : Type}

/-- What the operation does from `state`. -/
def run (action : Action State First) (state : State) : Outcome State First :=
  action state

/-- Ends with `result` and leaves the state as it is. -/
protected def pure (result : First) : Action State First :=
  fun state => .done result state

/-- Runs `action`, and then `next` on its result unless it failed. -/
protected def bind (action : Action State First)
    (next : First → Action State Second) : Action State Second :=
  fun state => (action state).andThen next

instance : Monad (Action State) where
  pure := Action.pure
  bind := Action.bind

/-- Fails with `error`, leaving the state as it is. -/
def fail (error : PagingError) : Action State First :=
  fun state => .failed error state

/-- Ends the run. -/
def crash (cause : Fatal) : Action State First :=
  fun _ => .fatal cause

/-- Goes on if the condition holds, and fails with `error` otherwise. -/
def failUnless (condition : Prop) [Decidable condition] (error : PagingError) :
    Action State Unit :=
  if condition then Action.pure () else fail error

/-- Goes on if the condition holds, and ends the run otherwise. -/
def crashUnless (condition : Prop) [Decidable condition] (cause : Fatal) :
    Action State Unit :=
  if condition then Action.pure () else crash cause

/-- Runs `action` if the condition holds, and nothing otherwise. -/
def runIf (condition : Prop) [Decidable condition]
    (action : Action State Unit) : Action State Unit :=
  if condition then action else Action.pure ()

/-- A value that may be missing; the operation fails with `error` then. -/
def orFail (error : PagingError) : Option First → Action State First
  | some value => Action.pure value
  | none => fail error

/-- A value that may be missing; the run ends then. -/
def orCrash (cause : Fatal) : Option First → Action State First
  | some value => Action.pure value
  | none => crash cause

/-- A computation that does not look at the state and may fail. -/
def ofResult : Except PagingError First → Action State First
  | .ok result => Action.pure result
  | .error error => fail error

/-- A computation that does not look at the state. -/
def ofExcept : Except Fatal First → Action State First
  | .ok result => Action.pure result
  | .error cause => crash cause

instance : MonadLift (Except Fatal) (Action State) where
  monadLift := ofExcept

/-- The state. -/
def get : Action State State :=
  fun state => .done state state

/-- A value read off the state. -/
def read (look : State → First) : Action State First :=
  fun state => .done (look state) state

/-- Changes the state. -/
def modify (change : State → State) : Action State Unit :=
  fun state => .done () (change state)

/-- Changes the state, or ends the run. -/
def change (step : State → Except Fatal State) : Action State Unit :=
  fun state =>
    match step state with
    | .ok state => .done () state
    | .error cause => .fatal cause

/-- Reads a value off the state, or ends the run. -/
def inspect (look : State → Except Fatal First) : Action State First :=
  fun state =>
    match look state with
    | .ok result => .done result state
    | .error cause => .fatal cause

/-- Reads a value off the state and changes it, or ends the run. -/
def step (transition : State → Except Fatal (First × State)) :
    Action State First :=
  fun state =>
    match transition state with
    | .ok (result, state) => .done result state
    | .error cause => .fatal cause

/-- Runs `undo` if `action` fails, and then fails with the same error. -/
def onFailure (action : Action State First)
    (undo : PagingError → Action State Unit) : Action State First :=
  fun state =>
    match action state with
    | .done result state => .done result state
    | .failed error state =>
      match undo error state with
      | .done _ state => .failed error state
      | .failed _ state => .failed error state
      | .fatal cause => .fatal cause
    | .fatal cause => .fatal cause

/-- Runs an operation on a part of the state. -/
def zoom (part : State → Part) (replace : Part → State → State)
    (action : Action Part First) : Action State First :=
  fun state =>
    match action (part state) with
    | .done result changed => .done result (replace changed state)
    | .failed error changed => .failed error (replace changed state)
    | .fatal cause => .fatal cause

@[simp]
theorem run_pure (result : First) (state : State) :
    (pure result : Action State First).run state = .done result state :=
  rfl

theorem run_bind (action : Action State First)
    (next : First → Action State Second) (state : State) :
    (action >>= next).run state =
      (action.run state).andThen fun result => (next result).run :=
  rfl

@[simp]
theorem run_map (change : First → Second) (action : Action State First)
    (state : State) :
    (change <$> action).run state =
      (action.run state).andThen fun result => .done (change result) :=
  rfl

/-- A sequence is done exactly when its first part is done and the rest is
done from there. -/
theorem run_bind_eq_done_iff {action : Action State First}
    {next : First → Action State Second} {state final : State}
    {result : Second} :
    (action >>= next).run state = .done result final ↔
      ∃ between middle, action.run state = .done between middle ∧
        (next between).run middle = .done result final := by
  rw [run_bind]
  cases action.run state with
  | done between middle =>
      constructor
      · exact fun ended => ⟨between, middle, rfl, ended⟩
      · rintro ⟨_, _, ⟨⟩, ended⟩
        exact ended
  | failed error middle => simp [Outcome.andThen]
  | fatal cause => simp [Outcome.andThen]

/-- A sequence fails exactly when its first part fails, or is done and the
rest fails from there. -/
theorem run_bind_eq_failed_iff {action : Action State First}
    {next : First → Action State Second} {state final : State}
    {error : PagingError} :
    (action >>= next).run state = .failed error final ↔
      action.run state = .failed error final ∨
        ∃ between middle, action.run state = .done between middle ∧
          (next between).run middle = .failed error final := by
  rw [run_bind]
  cases action.run state with
  | done between middle =>
      constructor
      · exact fun ended => .inr ⟨between, middle, rfl, ended⟩
      · rintro (ended | ⟨_, _, same, ended⟩)
        · cases ended
        · cases same
          exact ended
  | failed error middle => simp [Outcome.andThen]
  | fatal cause => simp [Outcome.andThen]

/-- A sequence is fatal exactly when its first part is, or is done and the
rest is fatal from there. -/
theorem run_bind_eq_fatal_iff {action : Action State First}
    {next : First → Action State Second} {state : State} {cause : Fatal} :
    (action >>= next).run state = .fatal cause ↔
      action.run state = .fatal cause ∨
        ∃ between middle, action.run state = .done between middle ∧
          (next between).run middle = .fatal cause := by
  rw [run_bind]
  cases action.run state with
  | done between middle =>
      constructor
      · exact fun ended => .inr ⟨between, middle, rfl, ended⟩
      · rintro (ended | ⟨_, _, same, ended⟩)
        · cases ended
        · cases same
          exact ended
  | failed error middle => simp [Outcome.andThen]
  | fatal cause => simp [Outcome.andThen]

private theorem andThen_done_eq (outcome : Outcome State First) :
    (outcome.andThen fun result state => .done result state) = outcome := by
  cases outcome <;> rfl

private theorem andThen_andThen (outcome : Outcome State First)
    (next : First → State → Outcome State Second)
    (last : Second → State → Outcome State Third) :
    (outcome.andThen next).andThen last =
      outcome.andThen fun result state => (next result state).andThen last := by
  cases outcome <;> rfl

instance : LawfulMonad (Action State) :=
  LawfulMonad.mk' (Action State)
    (fun action => funext fun state => andThen_done_eq (action state))
    (fun _ _ => rfl)
    (fun action _ _ => funext fun state => andThen_andThen (action state) _ _)

@[simp]
theorem run_fail (error : PagingError) (state : State) :
    (fail error : Action State First).run state = .failed error state :=
  rfl

@[simp]
theorem run_crash (cause : Fatal) (state : State) :
    (crash cause : Action State First).run state = .fatal cause :=
  rfl

@[simp]
theorem run_failUnless (condition : Prop) [Decidable condition]
    (error : PagingError) (state : State) :
    (failUnless condition error).run state =
      if condition then .done () state else .failed error state := by
  unfold failUnless
  split <;> rfl

@[simp]
theorem run_crashUnless (condition : Prop) [Decidable condition]
    (cause : Fatal) (state : State) :
    (crashUnless condition cause).run state =
      if condition then .done () state else .fatal cause := by
  unfold crashUnless
  split <;> rfl

@[simp]
theorem run_runIf (condition : Prop) [Decidable condition]
    (action : Action State Unit) (state : State) :
    (runIf condition action).run state =
      if condition then action.run state else .done () state := by
  unfold runIf
  split <;> rfl

theorem runIf_of_pos {condition : Prop} [Decidable condition]
    {action : Action State Unit} (holds : condition) :
    runIf condition action = action :=
  if_pos holds

theorem runIf_of_neg {condition : Prop} [Decidable condition]
    {action : Action State Unit} (fails : ¬condition) :
    runIf condition action = pure () :=
  if_neg fails

@[simp]
theorem run_orFail_some (error : PagingError) (value : First)
    (state : State) :
    (orFail error (some value)).run state = .done value state :=
  rfl

@[simp]
theorem run_orFail_none (error : PagingError) (state : State) :
    (orFail error none : Action State First).run state =
      .failed error state :=
  rfl

@[simp]
theorem run_orCrash_some (cause : Fatal) (value : First) (state : State) :
    (orCrash cause (some value)).run state = .done value state :=
  rfl

@[simp]
theorem run_orCrash_none (cause : Fatal) (state : State) :
    (orCrash cause none : Action State First).run state = .fatal cause :=
  rfl

@[simp]
theorem run_ofResult_ok (result : First) (state : State) :
    (ofResult (.ok result) : Action State First).run state =
      .done result state :=
  rfl

@[simp]
theorem run_ofResult_error (error : PagingError) (state : State) :
    (ofResult (.error error) : Action State First).run state =
      .failed error state :=
  rfl

@[simp]
theorem liftM_eq_ofExcept (found : Except Fatal First) :
    (liftM found : Action State First) = ofExcept found :=
  rfl

@[simp]
theorem run_ofExcept_ok (result : First) (state : State) :
    (ofExcept (.ok result) : Action State First).run state =
      .done result state :=
  rfl

@[simp]
theorem run_ofExcept_error (cause : Fatal) (state : State) :
    (ofExcept (.error cause) : Action State First).run state = .fatal cause :=
  rfl

@[simp]
theorem run_get (state : State) :
    (get : Action State State).run state = .done state state :=
  rfl

@[simp]
theorem run_read (look : State → First) (state : State) :
    (read look).run state = .done (look state) state :=
  rfl

@[simp]
theorem run_modify (change : State → State) (state : State) :
    (modify change).run state = .done () (change state) :=
  rfl

theorem run_change_of_ok {update : State → Except Fatal State}
    {state changed : State} (success : update state = .ok changed) :
    (change update).run state = .done () changed := by
  simp only [change, run, success]

theorem run_change_of_error {update : State → Except Fatal State}
    {state : State} {cause : Fatal} (failure : update state = .error cause) :
    (change update).run state = .fatal cause := by
  simp only [change, run, failure]

theorem run_inspect_of_ok {look : State → Except Fatal First} {state : State}
    {result : First} (success : look state = .ok result) :
    (inspect look).run state = .done result state := by
  simp only [inspect, run, success]

theorem run_inspect_of_error {look : State → Except Fatal First}
    {state : State} {cause : Fatal} (failure : look state = .error cause) :
    (inspect look).run state = .fatal cause := by
  simp only [inspect, run, failure]

theorem run_step_of_ok {transition : State → Except Fatal (First × State)}
    {state changed : State} {result : First}
    (success : transition state = .ok (result, changed)) :
    (step transition).run state = .done result changed := by
  simp only [step, run, success]

theorem run_step_of_error {transition : State → Except Fatal (First × State)}
    {state : State} {cause : Fatal}
    (failure : transition state = .error cause) :
    (step transition).run state = .fatal cause := by
  simp only [step, run, failure]

theorem run_onFailure (action : Action State First)
    (undo : PagingError → Action State Unit) (state : State) :
    (onFailure action undo).run state =
      match action.run state with
      | .done result state => .done result state
      | .failed error state =>
        match (undo error).run state with
        | .done _ state => .failed error state
        | .failed _ state => .failed error state
        | .fatal cause => .fatal cause
      | .fatal cause => .fatal cause :=
  rfl

theorem run_zoom (part : State → Part) (replace : Part → State → State)
    (action : Action Part First) (state : State) :
    (zoom part replace action).run state =
      match action.run (part state) with
      | .done result changed => .done result (replace changed state)
      | .failed error changed => .failed error (replace changed state)
      | .fatal cause => .fatal cause :=
  rfl

theorem run_bind_of_done {action : Action State First}
    {next : First → Action State Second} {state middle : State}
    {between : First} (ended : action.run state = .done between middle) :
    (action >>= next).run state = (next between).run middle := by
  rw [run_bind, ended]
  rfl

theorem run_bind_of_failed {action : Action State First}
    {next : First → Action State Second} {state final : State}
    {error : PagingError} (ended : action.run state = .failed error final) :
    (action >>= next).run state = .failed error final := by
  rw [run_bind, ended]
  rfl

theorem run_bind_of_fatal {action : Action State First}
    {next : First → Action State Second} {state : State} {cause : Fatal}
    (ended : action.run state = .fatal cause) :
    (action >>= next).run state = .fatal cause := by
  rw [run_bind, ended]
  rfl

end Action

end DemandPaging
