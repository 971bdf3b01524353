import DemandPaging.Proofs.Relations
import DemandPaging.Proofs.UserProcess.Forks

/-!
# Sizes within the limit

Whatever is called for, and however the space of a process and its host are,
the size of the process stays within the limit of user memory.  Memory that has
grown is mapped up to its end, and no page is ever mapped beyond the limit; all
other calls lower the size, leave it, or set it to one that was within the
limit.
-/

namespace DemandPaging

variable {State Part First Second : Type}

namespace Action

/-- If the operation is done, its result is as `holds` says. -/
def Yields (action : Action State First) (holds : First → Prop) : Prop :=
  ∀ state, (action.run state).Meets (fun _ => True)
    (fun result _ => holds result) fun _ _ => True

variable {action : Action State First} {next : First → Action State Second}
  {holds weaker : First → Prop} {further : Second → Prop}

theorem Yields.mono (yields : action.Yields holds)
    (weakens : ∀ result, holds result → weaker result) :
    action.Yields weaker :=
  fun state => (yields state).mono (fun result _ => weakens result)
    fun _ _ => id

theorem yields_of_forall (action : Action State First)
    (always : ∀ result, holds result) : action.Yields holds :=
  fun state => (relates_any action state).mono (fun result _ _ => always result)
    fun _ _ _ => trivial

theorem Yields.bind (yields : action.Yields holds)
    (rest : ∀ result, holds result → (next result).Yields further) :
    (action >>= next).Yields further :=
  fun state => meets_bind (yields state) fun result middle found =>
    rest result found middle

theorem yields_bind (rest : ∀ result, (next result).Yields further) :
    (action >>= next).Yields further :=
  fun state => meets_bind ((relates_any action state).mono_failed
    fun _ _ _ => trivial)
      fun result middle _ => rest result middle

theorem Yields.zoom {part : State → Part} {replace : Part → State → State}
    {action : Action Part First} (yields : action.Yields holds) :
    (zoom part replace action).Yields holds :=
  fun state => meets_zoom_iff.mpr (yields (part state))

theorem Yields.onFailure {undo : PagingError → Action State Unit}
    (yields : action.Yields holds) :
    (onFailure action undo).Yields holds :=
  fun state => meets_onFailure (yields state) fun error middle _ =>
    (relates_any (undo error) middle).mono (fun _ _ _ => trivial)
      fun _ _ _ => trivial

end Action

namespace PageTable

theorem yields_mapPage (page frame : Nat) (flags : Flags) :
    (mapPage page frame flags).Yields fun _ => page < addressLimit := by
  by_cases inside : page < addressLimit
  · exact Action.yields_of_forall _ fun _ => inside
  intro table
  have refused : (Action.step fun table : PageTable =>
      table.walk page true).run table = .fatal (.walkBeyondLimit page) := by
    apply Action.run_step_of_error
    rw [walk, checkAddress, if_neg inside]
    rfl
  rw [mapPage, Action.run_bind_of_fatal refused]
  trivial

theorem yields_mapRun (flags : Flags) (page frame further : Nat) :
    (mapRun flags page frame further).Yields fun _ => page < addressLimit := by
  cases further with
  | zero => exact yields_mapPage page frame flags
  | succ further =>
      exact (yields_mapPage page frame flags).bind fun _ inside =>
        Action.yields_of_forall _ fun _ => inside

theorem yields_map (address frame size : Nat) (flags : Flags) :
    (map address frame size flags).Yields fun _ => address < addressLimit := by
  rw [map]
  split
  · exact fun _ => trivial
  · refine Action.yields_bind fun stop => ?_
    refine (yields_mapRun flags _ frame _).mono fun _ inside => ?_
    simp only [Address.pageBase, pageSize, addressLimit] at *
    omega

end PageTable

namespace AddressSpace

theorem yields_addPage (page : Nat) (contents : List UInt8) (flags : Flags) :
    (addPage page contents flags).Yields fun _ => page < addressLimit := by
  refine Action.yields_bind fun frame => Action.yields_bind fun _ =>
    Action.yields_bind fun _ => ?_
  have places : (place page frame flags).Yields fun _ => page < addressLimit :=
    (PageTable.yields_map page frame pageSize flags).zoom.onFailure
  exact places.bind fun _ inside => Action.yields_of_forall _ fun _ => inside

theorem yields_addRun (flags : Flags) (old page count : Nat) :
    (addRun flags old page count).Yields fun _ =>
      ∀ index, index < count → page + index * pageSize < addressLimit := by
  induction count generalizing page with
  | zero => exact Action.yields_of_forall _ nofun
  | succ count ih =>
      refine (yields_addPage page [] flags).onFailure.bind fun _ inside => ?_
      refine (ih (page + pageSize)).mono ?_
      intro _ others index less
      cases index with
      | zero => rwa [Nat.zero_mul, Nat.add_zero]
      | succ index =>
          have further := others index (Nat.lt_of_succ_lt_succ less)
          rw [Nat.succ_mul]
          omega

/-- Memory that has grown holds what was asked for, and ends within the limit
if it did before. -/
theorem yields_grow {old : Nat} (new : Nat) (permissions : Flags)
    (within : old ≤ addressLimit) :
    (grow old new permissions).Yields fun size =>
      new ≤ size ∧ size ≤ addressLimit := by
  rw [grow]
  split
  case isTrue less => exact fun _ => ⟨Nat.le_of_lt less, within⟩
  intro state
  rw [Action.liftM_eq_ofExcept, UserProcess.roundUp_of_le within,
    Action.run_bind_of_done (Action.run_ofExcept_ok _ _)]
  refine Action.meets_bind (yields_addRun _ old _ _ state) ?_
  intro _ after inside
  have last := inside ((new - Address.pageCeil old + (pageSize - 1)) /
    pageSize - 1)
  refine ⟨Nat.le_refl new, ?_⟩
  simp only [Address.pageCeil, pageSize, addressLimit] at *
  omega

theorem yields_shrink (old new : Nat) :
    (shrink old new).Yields (· ≤ old) := by
  rw [shrink]
  split
  · exact fun _ => Nat.le_refl old
  · rename_i less
    refine Action.yields_bind fun stop => Action.yields_bind fun oldStop =>
      Action.yields_bind fun _ => fun _ => ?_
    exact Nat.le_of_not_le less

end AddressSpace

namespace UserProcess

variable {Result : Type} {state : Hosted UserProcess}

/-- From a size within the limit the operation leads to one. -/
def StaysWithin (action : ProcessAction Result) : Prop :=
  ∀ state, state.focus.size ≤ addressLimit →
    (action.run state).Meets (fun _ => True)
      (fun _ after => after.focus.size ≤ addressLimit)
      fun _ after => after.focus.size ≤ addressLimit

/-- What happens in the space leaves the size alone. -/
theorem meets_inSpace_size {action : SpaceAction Result}
    {holds : Result → Prop} (yields : action.Yields holds) :
    ((inSpace action).run state).Meets (fun _ => True)
      (fun result after => holds result ∧
        after.focus.size = state.focus.size)
      fun _ after => after.focus.size = state.focus.size :=
  meets_inSpace ((yields (spaceOf state)).mono
    (fun _ _ found => ⟨found, rfl⟩) fun _ _ _ => rfl)

/-- A size that the space gives, within the limit, is set. -/
theorem meets_resize_within (within : state.focus.size ≤ addressLimit)
    {action : SpaceAction Nat} (yields : action.Yields (· ≤ addressLimit))
    (result : Nat → Result) :
    (Action.run (do
      let size ← inSpace action
      resize size
      return result size) state).Meets (fun _ => True)
      (fun _ after => after.focus.size ≤ addressLimit)
      fun _ after => after.focus.size ≤ addressLimit := by
  refine Action.meets_bind_of (fun size _ => size ≤ addressLimit)
    ((meets_inSpace_size yields).mono (fun _ _ found => found.1)
      fun _ _ same => ?_) fun size middle found => found
  rw [same]
  exact within

theorem staysWithin_growBy (change : Int) : StaysWithin (growBy change) := by
  intro state within
  rw [growBy, currentSize, Action.run_bind_of_done (Action.run_read _ _)]
  split
  · refine Action.meets_failUnless_bind (fun _ => within) fun _ => ?_
    exact meets_resize_within within
      ((AddressSpace.yields_grow _ _ within).mono fun _ found => found.2)
        fun _ => state.focus.size
  · exact meets_resize_within within ((AddressSpace.yields_shrink _ _).mono
      fun _ le => Nat.le_trans le within) fun _ => state.focus.size

/-- How an operation ends that refuses an address.  To look at an address the
operation rounds it up, which ends the run in the last page of all. -/
def refusal {State Result : Type} (address : Nat) (state : State) :
    Outcome State Result :=
  if address + pageSize < Word.limit then .failed (.badAddress address) state
  else .fatal .overflow

theorem refusal_of_lt {State : Type} {address : Nat}
    (small : address + pageSize < Word.limit) (start : State) :
    (refusal address start : Outcome State Result) =
      .failed (.badAddress address) start := by
  rw [refusal, if_pos small]

theorem refusal_of_le {State : Type} {address : Nat}
    (large : Word.limit ≤ address + pageSize) (start : State) :
    (refusal address start : Outcome State Result) = .fatal .overflow := by
  rw [refusal, if_neg (Nat.not_lt.mpr large)]

-- Unfolding it would count to the limit.
attribute [irreducible] refusal

theorem meets_refusal {State : Type} {start : State} {address : Nat}
    {done : Result → State → Prop} {failed : PagingError → State → Prop}
    (refused : failed (.badAddress address) start) :
    (refusal address start).Meets (fun _ => True) done failed := by
  rcases Nat.lt_or_ge (address + pageSize) Word.limit with small | large
  · rw [refusal_of_lt small]
    exact refused
  · rw [refusal_of_le large]
    trivial

theorem run_map_of_refusal {State First Second : Type}
    {action : Action State First} {address : Nat} {start : State}
    (refused : action.run start = refusal address start)
    (change : First → Second) :
    (change <$> action).run start = refusal address start := by
  rw [Action.run_map, refused]
  rcases Nat.lt_or_ge (address + pageSize) Word.limit with small | large
  · rw [refusal_of_lt small, refusal_of_lt small]
    rfl
  · rw [refusal_of_le large, refusal_of_le large]
    rfl

/-- What lies in the page where memory ends, or before it, can be rounded up.
An address that does not fit the size, both rounded up, is refused. -/
theorem run_checkRounded {State : Type} {start : State} {size : Nat}
    (within : size ≤ addressLimit) (edge : Nat) {fits : Nat → Nat → Prop}
    [DecidableRel fits] (le_of_fits : ∀ {first second : Nat},
      fits first second → first ≤ second) (action : Action State Result) :
    Action.run (do
      let boundary ← Word.roundUp edge
      let stop ← Word.roundUp size
      Action.failUnless (fits boundary stop) (.badAddress edge)
      action) start =
    if fits (Address.pageCeil edge) (Address.pageCeil size) then
      action.run start
    else refusal edge start := by
  rw [Action.liftM_eq_ofExcept]
  rcases Nat.lt_or_ge (edge + pageSize) Word.limit with small | large
  · rw [Word.roundUp_of_lt small,
      Action.run_bind_of_done (Action.run_ofExcept_ok _ _),
      Action.liftM_eq_ofExcept, roundUp_of_le within,
      Action.run_bind_of_done (Action.run_ofExcept_ok _ _)]
    split
    case isTrue holds =>
      rw [Action.run_bind_of_done (by rw [Action.run_failUnless, if_pos holds])]
    case isFalse wrong =>
      rw [refusal_of_lt small, Action.run_bind_of_failed (by
        rw [Action.run_failUnless, if_neg wrong])]
  · have wrong : ¬fits (Address.pageCeil edge) (Address.pageCeil size) := by
      intro holds
      have le := le_of_fits holds
      simp only [Address.pageCeil, pageSize, addressLimit, Word.limit] at *
      omega
    rw [Word.roundUp_of_le large, if_neg wrong, refusal_of_le large]
    rfl

/-- A range that is not where user memory ends changes nothing. -/
theorem meets_checkRange_within {edge : Nat}
    (within : state.focus.size ≤ addressLimit) {action : ProcessAction Result}
    (meets : (action.run state).Meets (fun _ => True)
      (fun _ after => after.focus.size ≤ addressLimit)
      fun _ after => after.focus.size ≤ addressLimit) :
    (Action.run (do
      let boundary ← Word.roundUp edge
      let stop ← Word.roundUp state.focus.size
      Action.failUnless (boundary = stop) (.badAddress edge)
      action) state).Meets (fun _ => True)
      (fun _ after => after.focus.size ≤ addressLimit)
      fun _ after => after.focus.size ≤ addressLimit := by
  rw [run_checkRounded within edge Nat.le_of_eq]
  split
  · exact meets
  · exact meets_refusal within

theorem staysWithin_extendRange (low high : Nat) :
    StaysWithin (extendRange low high) := by
  intro state within
  rw [extendRange, currentSize, Action.run_bind_of_done (Action.run_read _ _)]
  exact meets_checkRange_within within (meets_resize_within within
    ((AddressSpace.yields_grow _ _ within).mono fun _ found => found.2) id)

theorem staysWithin_releaseRange (low high : Nat) :
    StaysWithin (releaseRange low high) := by
  intro state within
  rw [releaseRange, currentSize,
    Action.run_bind_of_done (Action.run_read _ _)]
  exact meets_checkRange_within within (meets_resize_within within
    ((AddressSpace.yields_shrink _ _).mono
      fun _ le => Nat.le_trans le within) id)

theorem staysWithin_inSpace (action : SpaceAction Result) :
    StaysWithin (inSpace action) := by
  intro state within
  refine (meets_inSpace_size (Action.yields_of_forall action
    fun _ => trivial)).mono ?_ ?_
  · rintro _ after ⟨_, same⟩
    rwa [same]
  · rintro _ after same
    rwa [same]

theorem staysWithin_exit : StaysWithin exit := by
  intro state _
  have resized : (resize 0).run state =
      .done () ⟨{ state.focus with size := 0 }, state.host⟩ := rfl
  rw [exit, Action.run_bind_of_done (Action.run_get _),
    Action.run_bind_of_done resized]
  exact Action.meets_bind (staysWithin_inSpace _ _ (Nat.zero_le _))
    fun _ _ within => within

theorem staysWithin_call (call : Call) : StaysWithin call.action := by
  intro state within
  cases call with
  | growBy change =>
      exact Action.meets_map (staysWithin_growBy change state within)
  | firstPage code =>
      exact Action.meets_bind (staysWithin_inSpace _ state within)
        fun _ _ _ => (by decide : pageSize ≤ addressLimit)
  | extendRange low high =>
      exact Action.meets_map (staysWithin_extendRange low high state within)
  | releaseRange low high =>
      exact Action.meets_map (staysWithin_releaseRange low high state within)
  | request asked =>
      rw [Call.action, currentSize,
        Action.run_bind_of_done (Action.run_read _ _)]
      exact Action.meets_map (staysWithin_inSpace _ state within)
  | exit => exact staysWithin_exit state within

/-- A copy of memory leaves the parent its size, and gives the child one within
the limit or leaves it the size that it has. -/
theorem meets_copyMemory_within {fork : Hosted (Fork UserProcess)} (size : Nat)
    (within : fork.focus.parent.size ≤ addressLimit) :
    ((copyMemory size).run fork).Meets (fun _ => True)
      (fun _ after => after.focus.parent.size = fork.focus.parent.size ∧
        after.focus.child.size ≤ addressLimit)
      fun _ after => after.focus.parent.size = fork.focus.parent.size ∧
        after.focus.child.size = fork.focus.child.size := by
  rw [copyMemory, Action.run_bind_of_done (Action.run_read _ _),
    run_checkRounded within size id]
  split
  case isFalse => exact meets_refusal ⟨rfl, rfl⟩
  rename_i inside
  refine Action.meets_crashUnless_bind (fun _ => trivial) fun _ => ?_
  refine Action.meets_bind_of
    (fun _ after => after.focus.parent.size = fork.focus.parent.size)
    (Action.meets_zoom_iff.mpr ?_) fun _ middle same => ?_
  · exact (Action.relates_any (AddressSpace.forkCopy size) _).mono
      (fun _ _ _ => rfl) fun _ _ _ => ⟨rfl, rfl⟩
  · refine ⟨same, ?_⟩
    change size ≤ addressLimit
    simp only [Address.pageCeil, pageSize, addressLimit] at *
    omega

/-- A fork leaves the parent its size, and makes a child whose size is within
the limit. -/
theorem meets_fork_within (pid : Nat)
    (within : state.focus.size ≤ addressLimit) :
    ((fork pid).run state).Meets (fun _ => True)
      (fun child after => child.size ≤ addressLimit ∧
        after.focus.size = state.focus.size)
      fun _ after => after.focus.size = state.focus.size := by
  rw [fork, Action.run_bind_of_done (Action.run_read _ _)]
  refine Action.meets_bind_of
    (fun _ middle => middle.focus = state.focus)
    (Action.meets_zoom_iff.mpr ?_) ?_
  · exact (Action.relates_any (UserProcess.new pid state.focus.space.config
      state.focus.space.pool) _).mono (fun _ _ _ => rfl) fun _ _ _ => rfl
  · rintro child ⟨_, host⟩ rfl
    refine meets_withChild ((meets_copyMemory_within _ within).mono ?_ ?_)
    · rintro _ after ⟨same, childWithin⟩
      exact ⟨childWithin, same⟩
    · rintro _ after ⟨same, _⟩
      exact same

end UserProcess

end DemandPaging
