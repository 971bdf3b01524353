import DemandPaging.AddressSpace.Fork

/-!
# Several things on one host

A world has any number of members of one kind, address spaces or processes,
that share a host.  A member is named by its number.  An operation on a member
changes that member and the host, and no other member.
-/

namespace DemandPaging

/-- Several things and the host that they share. -/
abbrev World (Member : Type) : Type :=
  Hosted (Array Member)

namespace World

variable {Member Result : Type}

/-- A world without members. -/
def empty (host : Host) : World Member :=
  ⟨#[], host⟩

/-- Adds a member; gives its number. -/
def add (making : Action Host Member) : Action (World Member) Nat := do
  let member ← Hosted.onHost making
  let members ← Action.read Hosted.focus
  Hosted.onFocus (Action.modify fun members => members.push member)
  return members.size

/-- Runs an operation on the member with the number `number`; without effect
if there is none. -/
def onMember (number : Nat) (action : Action (Hosted Member) Result) :
    Action (World Member) (Option Result) :=
  fun world =>
    match world.focus[number]? with
    | none => .done none world
    | some member =>
      Action.zoom (fun _ => ⟨member, world.host⟩)
        (fun changed world =>
          ⟨world.focus.setIfInBounds number changed.focus, changed.host⟩)
        (some <$> action) world

/-- Runs an operation on two members, a parent and a child; without effect if
either is missing. -/
def onFork (parent child : Nat) (action : ForkAction Member Result) :
    Action (World Member) (Option Result) :=
  fun world =>
    match world.focus[parent]?, world.focus[child]? with
    | some first, some second =>
      Action.zoom (fun _ => ⟨⟨first, second⟩, world.host⟩)
        (fun changed world =>
          ⟨(world.focus.setIfInBounds parent changed.focus.parent).setIfInBounds
            child changed.focus.child, changed.host⟩)
        (some <$> action) world
    | _, _ => .done none world

end World

end DemandPaging
