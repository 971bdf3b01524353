import DemandPaging.Proofs.AddressSpace.Extent
import DemandPaging.Proofs.World.Members

/-!
# Frames and their owners

The spaces of a world take frames from the same pools.  Each lent frame is in
just one page of just one space (`IsOwned`), and an operation on one space
leaves this so, because it neither gives back nor takes frames that are in
pages of the others.
-/

namespace DemandPaging

namespace AddressSpace

open Pager (Confined)
open World (getElem?_replaced getElem?_replaced_of_ne)

variable {sizes : Nat → Nat} {world : World AddressSpace}
  {space member : AddressSpace} {after : Hosted AddressSpace} {host : Host}
  {number other size frame : Nat} {contents : Page}

/-- Every space of the world is coherent with the bytes of user memory that
`sizes` says, and each lent frame of a pool is in a page of just one of
them. -/
structure IsOwned (sizes : Nat → Nat) (world : World AddressSpace) :
    Prop where
  coherent : ∀ number space, world.focus[number]? = some space →
    IsCoherent (sizes number) ⟨space, world.host⟩
  pools : ∀ number, (world.host.pool number).IsConsistent
  total_le : ∀ number,
    (world.host.pool number).total ≤ FramePool.sizeLimit
  apart : ∀ (first second : Nat) (firstSpace secondSpace : AddressSpace),
    first ≠ second → world.focus[first]? = some firstSpace →
      world.focus[second]? = some secondSpace → Apart firstSpace secondSpace
  covered : ∀ number frame contents,
    (world.host.pool number).contents? frame = some contents →
      ∃ (owner : Nat) (space : AddressSpace),
        world.focus[owner]? = some space ∧ space.pool = number ∧
          space.IsIn frame

/-- All members but one are as they were, and so are their pages. -/
structure LeavesOthers (number : Nat) (before after : World AddressSpace) :
    Prop where
  member : ∀ (other : Nat) (space : AddressSpace), other ≠ number →
    before.focus[other]? = some space → after.focus[other]? = some space
  logicalPage? : ∀ (other : Nat) (space : AddressSpace), other ≠ number →
    before.focus[other]? = some space →
      AddressSpace.logicalPage? ⟨space, after.host⟩ =
        AddressSpace.logicalPage? ⟨space, before.host⟩

theorem LeavesOthers.refl (number : Nat) (world : World AddressSpace) :
    LeavesOthers number world world :=
  ⟨fun _ _ _ isOther => isOther, fun _ _ _ _ => rfl⟩

namespace IsOwned

/-- The pages of the other members stay where they are. -/
theorem heldBy (owned : IsOwned sizes world)
    (isMember : world.focus[number]? = some space)
    (orderly : IsOrderly ⟨space, world.host⟩ size after)
    (elsewhere : other ≠ number)
    (isOther : world.focus[other]? = some member) :
    (pager ⟨member, world.host⟩).HeldBy (after.host.pool member.pool) :=
  orderly.changes.heldBy orderly.coherent.sound.frames
    (owned.pools member.pool) (owned.coherent other member isOther).sound.framed
    (owned.apart other number member space elsewhere isOther isMember)

theorem leavesOthers (owned : IsOwned sizes world)
    (isMember : world.focus[number]? = some space)
    (orderly : IsOrderly ⟨space, world.host⟩ size after) :
    LeavesOthers number world (world.replaced number after) where
  member _ _ elsewhere isOther :=
    (getElem?_replaced_of_ne elsewhere).trans isOther
  logicalPage? _ _ elsewhere isOther :=
    logicalPage?_of_heldBy (owned.heldBy isMember orderly elsewhere isOther)

/-- The space that was changed has no page in a frame of another member. -/
theorem apart_replaced (owned : IsOwned sizes world)
    (isMember : world.focus[number]? = some space)
    (orderly : IsOrderly ⟨space, world.host⟩ size after)
    (elsewhere : other ≠ number)
    (isOther : world.focus[other]? = some member) :
    Apart member after.focus := by
  intro samePool address second isValid secondValid same
  have ownPool : after.focus.pool = space.pool := orderly.changes.stays.pool
  have apart := owned.apart other number member space elsewhere isOther isMember
  obtain ⟨contents, lent⟩ :=
    (owned.coherent other member isOther).sound.framed address isValid
  have unowned : (pager ⟨space, world.host⟩).Unowned
      (member.table.entryAt address).address contents := by
    refine unowned_iff_not_isIn.mpr ⟨?_, ?_⟩
    · rw [← ownPool, ← samePool]
      exact lent
    · rintro ⟨third, thirdValid, equal⟩
      exact apart (samePool.trans ownPool) address third isValid thirdValid
        equal.symm
  have still := (orderly.changes.parts.unowned _ contents).mpr unowned
  exact still.2 second secondValid same.symm

/-- Every lent frame has an owner, also among the frames that changed. -/
theorem covered_replaced (owned : IsOwned sizes world)
    (isMember : world.focus[number]? = some space)
    (orderly : IsOrderly ⟨space, world.host⟩ size after)
    {pool : Nat} (lent : (after.host.pool pool).contents? frame =
      some contents) :
    ∃ (owner : Nat) (member : AddressSpace),
      (world.replaced number after).focus[owner]? = some member ∧
        member.pool = pool ∧ member.IsIn frame := by
  have ownPool : after.focus.pool = space.pool := orderly.changes.stays.pool
  have isOwn : (world.replaced number after).focus[number]? =
      some after.focus := getElem?_replaced isMember
  have stays : ∀ (owner : Nat) (member : AddressSpace),
      world.focus[owner]? = some member → member.pool = pool →
        member.IsIn frame → ¬(space.pool = pool ∧ space.IsIn frame) →
        ∃ (owner : Nat) (member : AddressSpace),
          (world.replaced number after).focus[owner]? = some member ∧
            member.pool = pool ∧ member.IsIn frame := by
    intro owner member isOwner inPool isIn notOwn
    have elsewhere : owner ≠ number := by
      rintro rfl
      cases isMember.symm.trans isOwner
      exact notOwn ⟨inPool, isIn⟩
    exact ⟨owner, member, (getElem?_replaced_of_ne elsewhere).trans isOwner,
      inPool, isIn⟩
  by_cases own : pool = space.pool
  · by_cases isIn : after.focus.IsIn frame
    · exact ⟨number, after.focus, isOwn, ownPool.trans own.symm, isIn⟩
    · have unowned : (pager after).Unowned frame contents := by
        refine unowned_iff_not_isIn.mpr ⟨?_, isIn⟩
        rw [ownPool, ← own]
        exact lent
      obtain ⟨wasLent, notIn⟩ := unowned_iff_not_isIn.mp
        ((orderly.changes.parts.unowned frame contents).mp unowned)
      obtain ⟨owner, member, isOwner, inPool, isIn⟩ :=
        owned.covered space.pool frame contents wasLent
      exact stays owner member isOwner (inPool.trans own.symm) isIn
        fun both => notIn both.2
  · rw [orderly.changes.stays.elsewhere pool own] at lent
    obtain ⟨owner, member, isOwner, inPool, isIn⟩ :=
      owned.covered pool frame contents lent
    exact stays owner member isOwner inPool isIn fun both => own both.1.symm

/-- What one member does leaves every lent frame with its owner. -/
theorem replace (owned : IsOwned sizes world)
    (isMember : world.focus[number]? = some space)
    (orderly : IsOrderly ⟨space, world.host⟩ size after) :
    IsOwned (Function.update sizes number size)
      (world.replaced number after) := by
  have ownPool : after.focus.pool = space.pool := orderly.changes.stays.pool
  have members : ∀ (other : Nat) (member : AddressSpace),
      (world.replaced number after).focus[other]? = some member →
        other = number ∧ member = after.focus ∨
          other ≠ number ∧ world.focus[other]? = some member := by
    intro other member isOther
    by_cases same : other = number
    · subst same
      rw [getElem?_replaced isMember] at isOther
      exact .inl ⟨rfl, (Option.some.inj isOther).symm⟩
    · rw [getElem?_replaced_of_ne same] at isOther
      exact .inr ⟨same, isOther⟩
  constructor
  · intro other member isOther
    rcases members other member isOther with ⟨rfl, rfl⟩ | ⟨elsewhere, isOther⟩
    · rw [Function.update_self]
      exact orderly.coherent
    · rw [Function.update_of_ne elsewhere]
      have coherent := owned.coherent other member isOther
      have heldBy := owned.heldBy isMember orderly elsewhere isOther
      exact {
        served := by
          rw [IsServed, World.replaced, orderly.changes.stays.size]
          exact coherent.served
        sound := heldBy.sound coherent.sound
        ceiling := coherent.ceiling
        spans := coherent.spans.congr fun address =>
          congrArg Option.isSome (heldBy.logicalPage? address) }
  · intro pool
    by_cases own : pool = space.pool
    · have consistent := orderly.coherent.sound.frames
      rw [own, ← ownPool]
      exact consistent
    · rw [World.replaced, orderly.changes.stays.elsewhere pool own]
      exact owned.pools pool
  · intro pool
    by_cases own : pool = space.pool
    · have total_le := orderly.coherent.sound.fits.total_le
      rw [own, ← ownPool]
      exact total_le
    · rw [World.replaced, orderly.changes.stays.elsewhere pool own]
      exact owned.total_le pool
  · intro first second firstSpace secondSpace different isFirst isSecond
    rcases members first firstSpace isFirst with
      ⟨rfl, rfl⟩ | ⟨firstElsewhere, wasFirst⟩
    · rcases members second secondSpace isSecond with
        ⟨rfl, rfl⟩ | ⟨secondElsewhere, wasSecond⟩
      · exact absurd rfl different
      · exact (owned.apart_replaced isMember orderly secondElsewhere
          wasSecond).symm
    · rcases members second secondSpace isSecond with
        ⟨rfl, rfl⟩ | ⟨_, wasSecond⟩
      · exact owned.apart_replaced isMember orderly firstElsewhere wasFirst
      · exact owned.apart first second firstSpace secondSpace different wasFirst
          wasSecond
  · intro pool frame contents lent
    exact owned.covered_replaced isMember orderly lent

theorem empty (unused : ∀ pool, pool ∈ host.pools →
      ∃ total, total ≤ FramePool.sizeLimit ∧ pool = FramePool.new total) :
    IsOwned sizes (World.empty host) := by
  have isNew : ∀ number, ∃ total, total ≤ FramePool.sizeLimit ∧
      host.pool number = FramePool.new total := by
    intro number
    rw [Host.pool]
    cases found : host.pools[number]? with
    | none => exact ⟨0, Nat.zero_le _, rfl⟩
    | some pool => exact unused pool (Array.mem_of_getElem? found)
  have noMember : ∀ (number : Nat) (space : AddressSpace),
      (World.empty host).focus[number]? ≠ some space := by
    intro number space isMember
    cases isMember
  constructor
  · exact fun number space isMember => absurd isMember (noMember number space)
  · intro number
    obtain ⟨total, _, same⟩ := isNew number
    exact same ▸ FramePool.isConsistent_new total
  · intro number
    obtain ⟨total, le, same⟩ := isNew number
    rw [World.empty, same, FramePool.total_new]
    exact le
  · exact fun first _ firstSpace _ _ isFirst =>
      absurd isFirst (noMember first firstSpace)
  · intro number frame contents lent
    obtain ⟨total, _, same⟩ := isNew number
    rw [World.empty, same, FramePool.contents?_new] at lent
    cases lent

theorem rehost (owned : IsOwned sizes world)
    (same : host.pools = world.host.pools) :
    IsOwned sizes ⟨world.focus, host⟩ := by
  obtain ⟨pools, transfers, events⟩ := host
  obtain rfl : pools = world.host.pools := same
  exact {
    coherent := fun number space isMember =>
      let coherent := owned.coherent number space isMember
      ⟨coherent.served, coherent.sound, coherent.ceiling, coherent.spans⟩
    pools := owned.pools
    total_le := owned.total_le
    apart := owned.apart
    covered := owned.covered }

theorem push (owned : IsOwned sizes world)
    (coherent : IsCoherent 0 ⟨space, world.host⟩) :
    IsOwned (Function.update sizes world.focus.size 0)
      ⟨world.focus.push space, world.host⟩ := by
  have noFrame : ∀ address,
      (space.table.entryAt address).isValid ≠ true :=
    coherent.isVacant.not_isValid
  have members : ∀ (number : Nat) (member : AddressSpace),
      (world.focus.push space)[number]? = some member →
        number = world.focus.size ∧ member = space ∨
          number ≠ world.focus.size ∧ world.focus[number]? = some member := by
    intro number member isMember
    rw [Array.getElem?_push] at isMember
    split at isMember
    · rename_i isLast
      exact .inl ⟨isLast, (Option.some.inj isMember).symm⟩
    · rename_i notLast
      exact .inr ⟨notLast, isMember⟩
  constructor
  · intro number member isMember
    rcases members number member isMember with
      ⟨rfl, rfl⟩ | ⟨notLast, isMember⟩
    · rw [Function.update_self]
      exact coherent
    · rw [Function.update_of_ne notLast]
      exact owned.coherent number member isMember
  · exact owned.pools
  · exact owned.total_le
  · intro first second firstSpace secondSpace different isFirst isSecond
    rcases members first firstSpace isFirst with ⟨_, rfl⟩ | ⟨_, isFirst⟩
    · exact fun _ address _ isValid => absurd isValid (noFrame address)
    · rcases members second secondSpace isSecond with
        ⟨_, rfl⟩ | ⟨_, isSecond⟩
      · exact fun _ _ other _ otherValid => absurd otherValid (noFrame other)
      · exact owned.apart first second firstSpace secondSpace different
          isFirst isSecond
  · intro number frame contents lent
    obtain ⟨owner, member, isOwner, inPool, isIn⟩ :=
      owned.covered number frame contents lent
    refine ⟨owner, member, ?_, inPool, isIn⟩
    obtain ⟨inside, _⟩ := Array.getElem?_eq_some_iff.mp isOwner
    rw [Array.getElem?_push_lt inside, ← isOwner,
      Array.getElem?_eq_getElem inside]

theorem of_push {members : Array AddressSpace}
    (owned : IsOwned sizes ⟨members.push space, host⟩)
    (noFrame : ∀ address, (space.table.entryAt address).isValid ≠ true) :
    IsOwned sizes ⟨members, host⟩ := by
  have stays : ∀ (number : Nat) (member : AddressSpace),
      members[number]? = some member →
        (members.push space)[number]? = some member := by
    intro number member isMember
    obtain ⟨inside, _⟩ := Array.getElem?_eq_some_iff.mp isMember
    rw [Array.getElem?_push_lt inside, ← isMember,
      Array.getElem?_eq_getElem inside]
  refine ⟨fun number member isMember =>
    owned.coherent number member (stays number member isMember), owned.pools,
    owned.total_le, fun first second firstSpace secondSpace different isFirst
      isSecond => owned.apart first second firstSpace secondSpace different
        (stays _ _ isFirst) (stays _ _ isSecond), ?_⟩
  intro number frame contents lent
  obtain ⟨owner, member, isOwner, inPool, isIn⟩ :=
    owned.covered number frame contents lent
  refine ⟨owner, member, ?_, inPool, isIn⟩
  rw [Array.getElem?_push] at isOwner
  split at isOwner
  · cases isOwner
    obtain ⟨address, isValid, _⟩ := isIn
    exact absurd isValid (noFrame address)
  · exact isOwner

end IsOwned

theorem IsOwned.nodup_framesOf (owned : IsOwned sizes world) (pool : Nat) :
    ((world.focus.toList.filter fun space => space.pool == pool).flatMap
      framesOf).Nodup := by
  refine List.nodup_flatMap.mpr ⟨fun member isMember => ?_, ?_⟩
  · obtain ⟨number, found⟩ := Array.getElem?_of_mem
      (Array.mem_toList_iff.mp (List.mem_of_mem_filter isMember))
    exact (owned.coherent number member found).nodup_framesOf
  · rw [List.pairwise_filter, List.pairwise_iff_getElem]
    intro first second firstInside secondInside less firstPool secondPool frame
      isFirst isSecond
    obtain ⟨address, isValid, rfl⟩ := mem_framesOf_iff.mp isFirst
    obtain ⟨other, otherValid, same⟩ := mem_framesOf_iff.mp isSecond
    rw [beq_iff_eq] at firstPool secondPool
    refine owned.apart first second _ _ (Nat.ne_of_lt less) ?_ ?_
      (firstPool.trans secondPool.symm) address other isValid otherValid
        same.symm
    · rw [← Array.getElem?_toList, List.getElem?_eq_getElem firstInside]
    · rw [← Array.getElem?_toList, List.getElem?_eq_getElem secondInside]

theorem IsOwned.lentCount_eq (owned : IsOwned sizes world) (pool : Nat) :
    (world.host.pool pool).lentCount =
      ((world.focus.toList.filter fun space => space.pool == pool).map
        mappedCount).sum := by
  have isLent : (world.host.pool pool).lentFrames =
      ((world.focus.toList.filter fun space => space.pool == pool).flatMap
        framesOf).toFinset := by
    ext frame
    rw [FramePool.mem_lentFrames, List.mem_toFinset, List.mem_flatMap]
    constructor
    · rintro ⟨contents, lent⟩
      obtain ⟨owner, space, isOwner, inPool, isIn⟩ :=
        owned.covered pool frame contents lent
      refine ⟨space, List.mem_filter.mpr ⟨?_, beq_iff_eq.mpr inPool⟩,
        mem_framesOf_iff.mpr isIn⟩
      exact Array.mem_toList_iff.mpr (Array.mem_of_getElem? isOwner)
    · rintro ⟨space, isMember, isIn⟩
      obtain ⟨isMember, inPool⟩ := List.mem_filter.mp isMember
      obtain ⟨number, found⟩ :=
        Array.getElem?_of_mem (Array.mem_toList_iff.mp isMember)
      obtain ⟨address, isValid, rfl⟩ := mem_framesOf_iff.mp isIn
      obtain ⟨contents, lent⟩ :=
        (owned.coherent number space found).sound.framed address isValid
      rw [beq_iff_eq] at inPool
      rw [← inPool]
      exact ⟨contents, lent⟩
  rw [(owned.pools pool).lentCount_eq, isLent,
    List.toFinset_card_of_nodup (owned.nodup_framesOf pool),
    List.length_flatMap]
  simp only [length_framesOf]

end AddressSpace

end DemandPaging
