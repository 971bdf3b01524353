import DemandPaging.Action.Meets

/-!
# Counting failed transfers

A state may carry a count of the transfers that failed.  An operation tallies
them if the count goes up by a fixed amount where the operation ends with a
failed transfer, and stays as it is in every other ending.  An operation that
undoes something after a failure must not count it again.  Each way of
composing operations has its rule here.
-/

namespace DemandPaging

variable {State Part First Second : Type}

/-- What an error adds to a count of failed transfers to which each of them adds
`each`. -/
def PagingError.tally (each : Nat) : PagingError → Nat
  | .swapTransfer _ => each
  | .outOfMemory | .tooManyPages _ | .badAddress _ | .unterminated _
  | .invalidConfig _ => 0

@[simp]
theorem PagingError.tally_zero (error : PagingError) : error.tally 0 = 0 := by
  cases error <;> rfl

namespace Action

/-- Wherever `holds` is the case it stays so, and the count goes up by what the
error adds if there is one. -/
def Tallies (holds : State → Prop) (count : State → Nat) (each : Nat)
    (action : Action State First) : Prop :=
  ∀ state, holds state → (action.run state).Meets (fun _ => True)
    (fun _ after => holds after ∧ count after = count state)
    fun error after => holds after ∧
      count after = count state + error.tally each

/-- No failure of the operation adds to a count. -/
def IsQuiet (each : Nat) (action : Action State First) : Prop :=
  ∀ state, (action.run state).Meets (fun _ => True) (fun _ _ => True)
    fun error _ => error.tally each = 0

variable {holds : State → Prop} {count : State → Nat} {each : Nat}
  {action : Action State First} {next : First → Action State Second}

theorem isQuiet_change (update : State → Except Fatal State) :
    (change update).IsQuiet each := by
  intro state
  cases updated : update state with
  | ok changed =>
      rw [run_change_of_ok updated]
      trivial
  | error cause =>
      rw [run_change_of_error updated]
      trivial

theorem isQuiet_inspect (look : State → Except Fatal First) :
    (inspect look).IsQuiet each := by
  intro state
  cases looked : look state with
  | ok result =>
      rw [run_inspect_of_ok looked]
      trivial
  | error cause =>
      rw [run_inspect_of_error looked]
      trivial

theorem isQuiet_step (transition : State → Except Fatal (First × State)) :
    (step transition).IsQuiet each := by
  intro state
  cases stepped : transition state with
  | ok result =>
      rw [run_step_of_ok stepped]
      trivial
  | error cause =>
      rw [run_step_of_error stepped]
      trivial

theorem isQuiet_modify (update : State → State) :
    (modify update).IsQuiet each :=
  fun _ => trivial

theorem isQuiet_read (look : State → First) : (read look).IsQuiet each :=
  fun _ => trivial

theorem isQuiet_ofExcept (found : Except Fatal First) :
    (ofExcept found : Action State First).IsQuiet each := by
  intro state
  cases found <;> trivial

theorem isQuiet_fail {error : PagingError}
    (harmless : error.tally each = 0) :
    (fail error : Action State First).IsQuiet each :=
  fun _ => harmless

theorem isQuiet_crash (cause : Fatal) :
    (crash cause : Action State First).IsQuiet each :=
  fun _ => trivial

theorem IsQuiet.bind (quiet : action.IsQuiet each)
    (rest : ∀ result, (next result).IsQuiet each) :
    (action >>= next).IsQuiet each :=
  fun state => meets_bind (quiet state) fun result middle _ =>
    rest result middle

theorem isQuiet_zero (action : Action State First) : action.IsQuiet 0 := by
  intro state
  cases action.run state with
  | done _ _ => trivial
  | failed error _ => exact error.tally_zero
  | fatal _ => trivial

theorem tallies_pure (result : First) :
    (pure result : Action State First).Tallies holds count each :=
  fun _ kept => ⟨kept, rfl⟩

theorem tallies_read (look : State → First) :
    (read look).Tallies holds count each :=
  fun _ kept => ⟨kept, rfl⟩

theorem tallies_crash (cause : Fatal) :
    (crash cause : Action State First).Tallies holds count each :=
  fun _ _ => trivial

theorem tallies_fail {error : PagingError} (harmless : error.tally each = 0) :
    (fail error : Action State First).Tallies holds count each := by
  intro state kept
  exact ⟨kept, by rw [harmless, Nat.add_zero]⟩

theorem tallies_failUnless (condition : Prop) [Decidable condition]
    {error : PagingError} (harmless : error.tally each = 0) :
    (failUnless condition error).Tallies holds count each := by
  unfold failUnless
  split
  · exact tallies_pure ()
  · exact tallies_fail harmless

theorem tallies_crashUnless (condition : Prop) [Decidable condition]
    (cause : Fatal) :
    (crashUnless condition cause).Tallies holds count each := by
  unfold crashUnless
  split
  · exact tallies_pure ()
  · exact tallies_crash cause

theorem tallies_orFail {error : PagingError} (harmless : error.tally each = 0)
    (value : Option First) :
    (orFail error value : Action State First).Tallies holds count each := by
  cases value with
  | some result => exact tallies_pure result
  | none => exact tallies_fail harmless

theorem tallies_orCrash (cause : Fatal) (value : Option First) :
    (orCrash cause value : Action State First).Tallies holds count each := by
  cases value with
  | some result => exact tallies_pure result
  | none => exact tallies_crash cause

theorem tallies_ofExcept (found : Except Fatal First) :
    (ofExcept found : Action State First).Tallies holds count each := by
  cases found with
  | ok result => exact tallies_pure result
  | error cause => exact tallies_crash cause

theorem tallies_modify {update : State → State}
    (keeps : ∀ state, holds state →
      holds (update state) ∧ count (update state) = count state) :
    (modify update).Tallies holds count each :=
  keeps

theorem Tallies.bind (first : action.Tallies holds count each)
    (rest : ∀ result, (next result).Tallies holds count each) :
    (action >>= next).Tallies holds count each := by
  intro state kept
  apply meets_bind (first state kept)
  rintro result middle ⟨stillKept, same⟩
  rw [← same]
  exact rest result middle stillKept

theorem tallies_read_bind {look : State → First}
    (rest : ∀ state, holds state →
      (next (look state)).Tallies holds count each) :
    (read look >>= next).Tallies holds count each :=
  fun state kept => rest state kept state kept

theorem Tallies.map {change : First → Second}
    (tallies : action.Tallies holds count each) :
    (change <$> action).Tallies holds count each :=
  fun state kept => meets_map (tallies state kept)

theorem tallies_runIf {condition : Prop} [Decidable condition]
    {action : Action State Unit}
    (tallies : condition → action.Tallies holds count each) :
    (runIf condition action).Tallies holds count each := by
  unfold runIf
  split
  · rename_i holdsTrue
    exact tallies holdsTrue
  · exact tallies_pure ()

theorem Tallies.onFailure {undo : PagingError → Action State Unit}
    (tallies : action.Tallies holds count each)
    (undone : ∀ error, (undo error).Tallies holds count 0) :
    (onFailure action undo).Tallies holds count each := by
  intro state kept
  apply meets_onFailure (tallies state kept)
  rintro error middle ⟨stillKept, counted⟩
  apply (undone error middle stillKept).mono
  · rintro _ after ⟨restored, same⟩
    exact ⟨restored, same.trans counted⟩
  · rintro later after ⟨restored, same⟩
    rw [PagingError.tally_zero] at same
    exact ⟨restored, same.trans counted⟩

/-- An operation on a part that has no share in the count. -/
theorem tallies_zoom {part : State → Part} {replace : Part → State → State}
    {action : Action Part First}
    (keeps : ∀ changed state, holds state →
      holds (replace changed state) ∧
        count (replace changed state) = count state)
    (quiet : action.IsQuiet each) :
    (zoom part replace action).Tallies holds count each := by
  intro state kept
  apply meets_zoom_iff.mpr
  apply (quiet (part state)).mono
  · exact fun _ changed _ => keeps changed state kept
  · intro error changed harmless
    rw [harmless, Nat.add_zero]
    exact keeps changed state kept

/-- An operation on a part whose count is a share in the whole. -/
theorem Tallies.zoom {part : State → Part} {replace : Part → State → State}
    {action : Action Part First} {partHolds : Part → Prop}
    {share : Part → Nat} (tallies : action.Tallies partHolds share each)
    (given : ∀ state, holds state → partHolds (part state))
    (keeps : ∀ changed state, holds state → partHolds changed →
      holds (replace changed state))
    (adds : ∀ changed state, holds state →
      count (replace changed state) + share (part state) =
        count state + share changed) :
    (Action.zoom part replace action).Tallies holds count each := by
  intro state kept
  apply meets_zoom_iff.mpr
  apply (tallies (part state) (given state kept)).mono
  · rintro _ changed ⟨partKept, same⟩
    refine ⟨keeps changed state kept partKept, ?_⟩
    have whole := adds changed state kept
    omega
  · rintro error changed ⟨partKept, counted⟩
    refine ⟨keeps changed state kept partKept, ?_⟩
    have whole := adds changed state kept
    omega

end Action

end DemandPaging
