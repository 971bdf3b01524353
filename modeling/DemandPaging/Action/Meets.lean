import DemandPaging.Action
import DemandPaging.Word

/-!
# What an operation promises

An ending meets a promise if what it leaves satisfies it.  A promise has three
parts: one for an operation that was done, one for an operation that failed,
and one for the cause where the run ended.  Where no cause is promised, the
operation is not fatal; where every cause is, only what it leaves otherwise
counts.  The promise of a composed operation follows from those of its parts,
and each way of composing operations has its rule here.
-/

namespace DemandPaging

variable {State Part First Second : Type}

/-- Does what the ending leaves satisfy `done` or `failed`, and its cause
`fatal` if it was fatal? -/
def Outcome.Meets (outcome : Outcome State First) (fatal : Fatal → Prop)
    (done : First → State → Prop) (failed : PagingError → State → Prop) :
    Prop :=
  match outcome with
  | .done result state => done result state
  | .failed error state => failed error state
  | .fatal cause => fatal cause

namespace Outcome

variable {fatal : Fatal → Prop} {done : First → State → Prop}
  {failed : PagingError → State → Prop}

@[simp]
theorem meets_done {result : First} {state : State} :
    (Outcome.done result state).Meets fatal done failed ↔ done result state :=
  Iff.rfl

@[simp]
theorem meets_failed {error : PagingError} {state : State} :
    (Outcome.failed error state).Meets fatal done failed ↔
      failed error state :=
  Iff.rfl

@[simp]
theorem meets_fatal {cause : Fatal} :
    (Outcome.fatal cause).Meets fatal done failed ↔ fatal cause :=
  Iff.rfl

/-- A promise may be weakened. -/
theorem Meets.mono {outcome : Outcome State First}
    {weaker : First → State → Prop}
    {weakerFailed : PagingError → State → Prop}
    (meets : outcome.Meets fatal done failed)
    (onDone : ∀ result state, done result state → weaker result state)
    (onFailed : ∀ error state, failed error state →
      weakerFailed error state) :
    outcome.Meets fatal weaker weakerFailed := by
  cases outcome with
  | done result state => exact onDone result state meets
  | failed error state => exact onFailed error state meets
  | fatal cause => exact meets

theorem Meets.mono_done {outcome : Outcome State First}
    {weaker : First → State → Prop} (meets : outcome.Meets fatal done failed)
    (onDone : ∀ result state, done result state → weaker result state) :
    outcome.Meets fatal weaker failed :=
  meets.mono onDone fun _ _ isFailed => isFailed

/-- The promise for an operation that failed may be weakened alone. -/
theorem Meets.mono_failed {outcome : Outcome State First}
    {weaker : PagingError → State → Prop}
    (meets : outcome.Meets fatal done failed)
    (onFailed : ∀ error state, failed error state → weaker error state) :
    outcome.Meets fatal done weaker :=
  meets.mono (fun _ _ isDone => isDone) onFailed

theorem Meets.of_sure {outcome : Outcome State First}
    {weaker : PagingError → State → Prop}
    (meets : outcome.Meets fatal done fun _ _ => False) :
    outcome.Meets fatal done weaker :=
  meets.mono_failed fun _ _ impossible => impossible.elim

theorem Meets.mono_fatal {outcome : Outcome State First}
    {weaker : Fatal → Prop} (meets : outcome.Meets fatal done failed)
    (onFatal : ∀ cause, fatal cause → weaker cause) :
    outcome.Meets weaker done failed := by
  cases outcome with
  | done result state => exact meets
  | failed error state => exact meets
  | fatal cause => exact onFatal cause meets

/-- Two promises are kept together. -/
theorem Meets.and {outcome : Outcome State First}
    {otherFatal : Fatal → Prop} {otherDone : First → State → Prop}
    {otherFailed : PagingError → State → Prop}
    (first : outcome.Meets fatal done failed)
    (second : outcome.Meets otherFatal otherDone otherFailed) :
    outcome.Meets fatal
      (fun result state => done result state ∧ otherDone result state)
      fun error state => failed error state ∧ otherFailed error state := by
  cases outcome with
  | done result state => exact ⟨first, second⟩
  | failed error state => exact ⟨first, second⟩
  | fatal cause => exact first

/-- What is promised of an operation that was done may also say what the
operation ended with. -/
theorem Meets.itself {outcome : Outcome State First}
    (meets : outcome.Meets fatal (fun _ _ => True) failed) :
    outcome.Meets fatal (fun result state => outcome = .done result state)
      failed := by
  cases outcome with
  | done result state => exact rfl
  | failed error state => exact meets
  | fatal cause => exact meets

theorem Meets.ne_fatal {outcome : Outcome State First} {cause : Fatal}
    (meets : outcome.Meets fatal done failed) (excluded : ¬fatal cause) :
    outcome ≠ .fatal cause := by
  rintro rfl
  exact excluded meets

theorem Meets.exists_done {outcome : Outcome State First}
    (meets : outcome.Meets (fun _ => False) done fun _ _ => False) :
    ∃ result after, outcome = .done result after ∧ done result after := by
  cases outcome with
  | done result after => exact ⟨result, after, rfl, meets⟩
  | failed _ _ => exact meets.elim
  | fatal _ => exact meets.elim

end Outcome

namespace Action

variable {fatal : Fatal → Prop} {done : First → State → Prop}
  {failed : PagingError → State → Prop}

/-- A sequence keeps a promise if its first part leaves a state from which the
rest keeps it. -/
theorem meets_bind {action : Action State First}
    {next : First → Action State Second} {state : State}
    {between : First → State → Prop} {finished : Second → State → Prop}
    (first : (action.run state).Meets fatal between failed)
    (rest : ∀ result state, between result state →
      ((next result).run state).Meets fatal finished failed) :
    ((action >>= next).run state).Meets fatal finished failed := by
  rw [run_bind]
  cases ended : action.run state with
  | done result middle =>
      rw [ended] at first
      exact rest result middle first
  | failed error middle =>
      rw [ended] at first
      exact first
  | fatal cause =>
      rw [ended] at first
      exact first

/-- The state that the first part leaves may be described beforehand. -/
theorem meets_bind_of {action : Action State First}
    {next : First → Action State Second} {state : State}
    (between : First → State → Prop) {finished : Second → State → Prop}
    (first : (action.run state).Meets fatal between failed)
    (rest : ∀ result state, between result state →
      ((next result).run state).Meets fatal finished failed) :
    ((action >>= next).run state).Meets fatal finished failed :=
  meets_bind first rest

theorem meets_map_iff {action : Action State First} {change : First → Second}
    {state : State} {finished : Second → State → Prop} :
    ((change <$> action).run state).Meets fatal finished failed ↔
      (action.run state).Meets fatal
        (fun result after => finished (change result) after) failed := by
  rw [run_map]
  cases action.run state <;> exact Iff.rfl

theorem meets_map {action : Action State First} {change : First → Second}
    {state : State} {finished : Second → State → Prop}
    (meets : (action.run state).Meets fatal
      (fun result after => finished (change result) after) failed) :
    ((change <$> action).run state).Meets fatal finished failed :=
  meets_map_iff.mpr meets

/-- A sequence that begins with a check goes on only if it holds. -/
theorem meets_crashUnless_bind {condition : Prop} [Decidable condition]
    {cause : Fatal} {next : Unit → Action State Second} {state : State}
    {finished : Second → State → Prop}
    (fails : ¬condition → fatal cause)
    (holds : condition →
      ((next ()).run state).Meets fatal finished failed) :
    ((crashUnless condition cause >>= next).run state).Meets fatal finished
      failed := by
  by_cases condition : condition
  · rw [run_bind_of_done (by rw [run_crashUnless, if_pos condition])]
    exact holds condition
  · rw [run_bind_of_fatal (by rw [run_crashUnless, if_neg condition])]
    exact fails condition

theorem meets_failUnless_bind {condition : Prop} [Decidable condition]
    {error : PagingError} {next : Unit → Action State Second} {state : State}
    {finished : Second → State → Prop}
    (fails : ¬condition → failed error state)
    (holds : condition →
      ((next ()).run state).Meets fatal finished failed) :
    ((failUnless condition error >>= next).run state).Meets fatal finished
      failed := by
  by_cases condition : condition
  · rw [run_bind_of_done (by rw [run_failUnless, if_pos condition])]
    exact holds condition
  · rw [run_bind_of_failed (by rw [run_failUnless, if_neg condition])]
    exact fails condition

/-- A sequence that begins with rounding up goes on from the page boundary,
unless that is more than a word can hold. -/
theorem meets_roundUp_bind {size : Nat} {next : Nat → Action State Second}
    {state : State} {finished : Second → State → Prop}
    (late : Word.limit ≤ size + pageSize → fatal .overflow)
    (fits : size + pageSize < Word.limit →
      ((next (Address.pageCeil size)).run state).Meets fatal finished failed) :
    ((liftM (Word.roundUp size) >>= next).run state).Meets fatal finished
      failed := by
  rw [liftM_eq_ofExcept]
  rcases Nat.lt_or_ge (size + pageSize) Word.limit with small | large
  · rw [Word.roundUp_of_lt small, run_bind_of_done (run_ofExcept_ok _ _)]
    exact fits small
  · rw [Word.roundUp_of_le large, run_bind_of_fatal (run_ofExcept_error _ _)]
    exact late large

theorem meets_runIf {condition : Prop} [Decidable condition]
    {action : Action State Unit} {state : State}
    {done : Unit → State → Prop}
    (holds : condition → (action.run state).Meets fatal done failed)
    (fails : ¬condition → done () state) :
    ((runIf condition action).run state).Meets fatal done failed := by
  rw [run_runIf]
  split
  · rename_i condition
    exact holds condition
  · rename_i condition
    exact fails condition

/-- What is undone after a failure has to keep the promise of the failure. -/
theorem meets_onFailure {action : Action State First}
    {undo : PagingError → Action State Unit} {state : State}
    {unfinished : PagingError → State → Prop}
    (meets : (action.run state).Meets fatal done unfinished)
    (undone : ∀ error middle, unfinished error middle →
      ((undo error).run middle).Meets fatal (fun _ state => failed error state)
        fun _ state => failed error state) :
    ((onFailure action undo).run state).Meets fatal done failed := by
  rw [run_onFailure]
  cases ended : action.run state with
  | done result middle =>
      rw [ended] at meets
      exact meets
  | failed error middle =>
      rw [ended] at meets
      have promised := undone error middle meets
      dsimp only
      cases undoing : (undo error).run middle with
      | done _ final =>
          rw [undoing] at promised
          exact promised
      | failed _ final =>
          rw [undoing] at promised
          exact promised
      | fatal cause =>
          rw [undoing] at promised
          exact promised
  | fatal cause =>
      rw [ended] at meets
      exact meets

theorem meets_zoom_iff {part : State → Part}
    {replace : Part → State → State} {action : Action Part First}
    {state : State} :
    ((zoom part replace action).run state).Meets fatal done failed ↔
      (action.run (part state)).Meets fatal
        (fun result changed => done result (replace changed state))
        fun error changed => failed error (replace changed state) := by
  unfold zoom run
  dsimp only
  cases action (part state) <;> exact Iff.rfl

/-- Is the operation done, and do its result and the state that it leaves pass
the test? -/
def yields (action : Action State First) (passes : First → State → Bool)
    (state : State) : Bool :=
  match action.run state with
  | .done result after => passes result after
  | .failed _ _ | .fatal _ => false

/-- A computed run shows what result and what state there are. -/
theorem exists_of_yields {action : Action State First}
    {passes : First → State → Bool} {state : State}
    (computed : action.yields passes state = true) :
    ∃ result after, action.run state = .done result after ∧
      passes result after = true := by
  rw [yields] at computed
  cases ended : action.run state with
  | done result after =>
      rw [ended] at computed
      exact ⟨result, after, rfl, computed⟩
  | failed _ _ => simp [ended] at computed
  | fatal _ => simp [ended] at computed

/-- Is the operation done, and does the state that it leaves pass the test? -/
def leadsTo (action : Action State First) (passes : State → Bool)
    (state : State) : Bool :=
  action.yields (fun _ => passes) state

theorem exists_of_leadsTo {action : Action State First}
    {passes : State → Bool} {state : State}
    (computed : action.leadsTo passes state = true) :
    ∃ result after, action.run state = .done result after ∧
      passes after = true :=
  exists_of_yields computed

/-- Does the operation fail with the error? -/
def failsWith (action : Action State First) (error : PagingError)
    (state : State) : Bool :=
  match action.run state with
  | .failed other _ => decide (other = error)
  | .done _ _ | .fatal _ => false

theorem exists_of_failsWith {action : Action State First}
    {error : PagingError} {state : State}
    (computed : action.failsWith error state = true) :
    ∃ after, action.run state = .failed error after := by
  rw [failsWith] at computed
  cases ended : action.run state with
  | failed other after =>
      rw [ended] at computed
      obtain rfl := of_decide_eq_true computed
      exact ⟨after, rfl⟩
  | done _ _ => simp [ended] at computed
  | fatal _ => simp [ended] at computed

end Action

end DemandPaging
