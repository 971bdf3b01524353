import DemandPaging.Action.Meets
import DemandPaging.World

/-!
# Members of a world

What an operation on members of a world promises follows from what it promises
of the members alone.  The rules here say so for a member that is added, for an
operation on one member and for an operation on two.
-/

namespace DemandPaging

namespace World

variable {Member Result : Type} {world : World Member} {number other : Nat}
  {member : Member} {after : Hosted Member} {fatal : Fatal → Prop}
  {failed : PagingError → World Member → Prop}

/-- The world with another thing in place of a member. -/
def replaced (world : World Member) (number : Nat) (after : Hosted Member) :
    World Member :=
  ⟨world.focus.setIfInBounds number after.focus, after.host⟩

theorem getElem?_replaced_of_ne (elsewhere : other ≠ number) :
    (world.replaced number after).focus[other]? = world.focus[other]? := by
  rw [replaced, Array.getElem?_setIfInBounds, if_neg (Ne.symm elsewhere)]

theorem getElem?_replaced (isMember : world.focus[number]? = some member) :
    (world.replaced number after).focus[number]? = some after.focus := by
  obtain ⟨inside, _⟩ := Array.getElem?_eq_some_iff.mp isMember
  rw [replaced, Array.getElem?_setIfInBounds, if_pos rfl, if_pos inside]

theorem setIfInBounds_self (isMember : world.focus[number]? = some member) :
    world.focus.setIfInBounds number member = world.focus := by
  refine Array.ext_getElem? fun other => ?_
  rw [Array.getElem?_setIfInBounds]
  split
  · rename_i same
    subst same
    obtain ⟨inside, _⟩ := Array.getElem?_eq_some_iff.mp isMember
    rw [if_pos inside, isMember]
  · rfl

theorem setIfInBounds_push (members : Array Member) (last next : Member) :
    (members.push last).setIfInBounds members.size next =
      members.push next := by
  grind

/-- The new member comes last. -/
theorem meets_add {making : Action Host Member}
    {done : Nat → World Member → Prop}
    (meets : (making.run world.host).Meets fatal
      (fun member host =>
        done world.focus.size ⟨world.focus.push member, host⟩)
      (fun error host => failed error ⟨world.focus, host⟩)) :
    ((add making).run world).Meets fatal done failed := by
  rw [add]
  refine Action.meets_bind_of (fun member middle =>
    done world.focus.size ⟨world.focus.push member, middle.host⟩ ∧
      middle.focus = world.focus) ?_ ?_
  · exact Action.meets_zoom_iff.mpr
      (meets.mono_done fun _ _ holds => ⟨holds, rfl⟩)
  · rintro member ⟨members, host⟩ ⟨holds, rfl⟩
    exact holds

/-- An operation on one member puts what it leaves in the member's place. -/
theorem meets_onMember {action : Action (Hosted Member) Result}
    {done : Option Result → World Member → Prop}
    (isMember : world.focus[number]? = some member)
    (meets : (action.run ⟨member, world.host⟩).Meets fatal
      (fun result after => done (some result) (world.replaced number after))
      fun error after => failed error (world.replaced number after)) :
    ((onMember number action).run world).Meets fatal done failed := by
  rw [Action.run, onMember, isMember]
  exact Action.meets_zoom_iff.mpr (Action.meets_map meets)

/-- An operation on two members that leaves the parent as it was puts what it
leaves in the child's place. -/
theorem meets_onFork {parent child : Nat} {first second : Member}
    {action : ForkAction Member Result}
    {done : Option Result → World Member → Prop}
    (isParent : world.focus[parent]? = some first)
    (isChild : world.focus[child]? = some second)
    (meets : (action.run ⟨⟨first, second⟩, world.host⟩).Meets fatal
      (fun result after => after.focus.parent = first ∧
        done (some result)
          (world.replaced child ⟨after.focus.child, after.host⟩))
      fun error after => after.focus.parent = first ∧
        failed error
          (world.replaced child ⟨after.focus.child, after.host⟩)) :
    ((onFork parent child action).run world).Meets fatal done failed := by
  have whole : ∀ after : Hosted (Fork Member), after.focus.parent = first →
      (⟨(world.focus.setIfInBounds parent
        after.focus.parent).setIfInBounds child after.focus.child,
          after.host⟩ : World Member) =
        world.replaced child ⟨after.focus.child, after.host⟩ := by
    intro after same
    rw [same, setIfInBounds_self isParent]
    rfl
  rw [Action.run, onFork, isParent, isChild]
  refine Action.meets_zoom_iff.mpr (Action.meets_map (meets.mono ?_ ?_))
  · rintro _ after ⟨same, holds⟩
    rw [whole after same]
    exact holds
  · rintro _ after ⟨same, holds⟩
    rw [whole after same]
    exact holds

end World

end DemandPaging
