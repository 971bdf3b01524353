import DemandPaging.Proofs.AddressSpace.Faults
import DemandPaging.Proofs.AddressSpace.Growth
import DemandPaging.Proofs.AddressSpace.UserCopy

/-!
# Requests

All that a process and the system ask of an address space, one request after
the other, is seen by user code as an effect on flat memory.  A request that
is done has just the effect that it asks for; one that fails has none, except
that a copy may have written some whole pages.
-/

namespace DemandPaging

namespace AddressSpace

open Pager (Terms Confined)

/-- What may be asked of a space. -/
inductive Request where
  | grow (larger : Nat) (permissions : Flags)
  | shrink (smaller : Nat)
  | pageIn (address : Nat)
  | resolveFault (address : Nat) (access : Access)
  | evict
  | tick
  /-- User code uses the page that holds an address. -/
  | touch (address : Nat) (isWrite : Bool)
  | clearUser (address : Nat)
  | copyOut (address : Nat) (bytes : List UInt8)
  | copyIn (address : Nat) (buffer : Array UInt8)
  | copyInString (address : Nat) (buffer : Array UInt8)

/-- What comes back from a request that was done. -/
inductive Reply where
  | done
  | size (bytes : Nat)
  | resolved (resolution : Resolution)
  | evicted (handle : Nat)
  | aged (pages : Nat)
  | filled (buffer : Array UInt8)
  | string (length : Nat) (buffer : Array UInt8)
  deriving DecidableEq

/-- Runs an operation that fills a buffer, and gives the buffer too. -/
def withBuffer {Result : Type} (buffer : Array UInt8)
    (action : ReadAction Result) : SpaceAction (Result × Array UInt8) :=
  Action.zoom (fun state => ⟨⟨state.focus, buffer⟩, state.host⟩)
    (fun filled _ => UserRead.source filled)
    (do
      let result ← action
      let filled ← Action.read fun filled => filled.focus.buffer
      return (result, filled))

namespace Request

/-- The operation that a request asks for, of a space with `size` bytes of user
memory. -/
def action (size : Nat) : Request → SpaceAction Reply
  | grow larger permissions =>
    .size <$> AddressSpace.grow size larger permissions
  | shrink smaller => .size <$> AddressSpace.shrink size smaller
  | pageIn address => (fun _ => .done) <$> AddressSpace.pageIn address
  | resolveFault address access =>
    .resolved <$> AddressSpace.resolveFault address access
  | evict => .evicted <$> AddressSpace.evict
  | tick => .aged <$> AddressSpace.tick
  | touch address isWrite =>
    (fun _ => .done) <$> onTable (Action.change fun table =>
      table.touch address isWrite)
  | clearUser address => (fun _ => .done) <$> AddressSpace.clearUser address
  | copyOut address bytes =>
    (fun _ => .done) <$> AddressSpace.copyOut address bytes
  | copyIn address buffer =>
    (fun filled => .filled filled.2) <$>
      withBuffer buffer (UserRead.copyIn address)
  | copyInString address buffer =>
    (fun filled => .string filled.1 filled.2) <$>
      withBuffer buffer (UserRead.copyInString address)

/-- The bytes of user memory once a request is done. -/
def sizeAfter (size : Nat) : Request → Nat
  | grow larger _ => max size larger
  | shrink smaller => min size smaller
  | _ => size

/-- The most that the clock advances in a request. -/
def ticks (size maxResident : Nat) : Request → Nat
  | grow larger _ => grownPages size larger * (maxResident + 1)
  | pageIn _ | resolveFault _ _ => maxResident + 1
  | evict => maxResident
  | copyOut address bytes => copyTicks address bytes.length maxResident
  | copyIn address buffer | copyInString address buffer =>
    copyTicks address buffer.size maxResident
  | shrink _ | tick | touch _ _ | clearUser _ => 0

theorem ticks_mono (request : Request) (size : Nat) {fewer more : Nat}
    (le : fewer ≤ more) : request.ticks size fewer ≤ request.ticks size more := by
  have next := Nat.succ_le_succ le
  cases request with
  | grow _ _ => exact Nat.mul_le_mul_left _ next
  | pageIn _ | resolveFault _ _ => exact next
  | evict => exact le
  | copyOut _ _ | copyIn _ _ | copyInString _ _ =>
      exact Nat.mul_le_mul_left _ next
  | shrink _ | tick | touch _ _ | clearUser _ => exact Nat.le_refl 0

/-- What a caller has to see to: user memory does not outgrow its limit, a page
is there to be evicted and a slot to hold it, user code does not get past the
limit, and a page is there to be withdrawn. -/
def Admissible (state : Hosted AddressSpace) : Request → Prop
  | grow larger permissions =>
    larger ≤ addressLimit ∧ permissions.pagedOut = false
  | evict => 0 < state.focus.ledger.residentCount ∧
      state.focus.swap.freeSlots ≠ 0
  | touch address _ => address < addressLimit
  | clearUser address => (logicalPage? state address).isSome = true
  | _ => True

/-- A page of zeros that user code may read, and use as `permissions` says. -/
def grownPage (permissions : Flags) : LogicalPage where
  bytes := List.replicate pageSize 0
  permissions :=
    { permissions.permissions with read := true, user := true }

/-- Flat memory before and after a request of a space with `size` bytes of user
memory, if the request was done and this was the reply. -/
def Succeeds (size : Nat) (before after : FlatMemory) :
    Request → Reply → Prop
  | grow larger permissions, reply =>
    reply = .size (max size larger) ∧
      after = before.added (Address.pageCeil size) (Address.pageCeil larger)
        (grownPage permissions)
  | shrink smaller, reply =>
    reply = .size (min size smaller) ∧
      after = before.cleared (Address.pageCeil smaller)
        (Address.pageCeil size)
  | clearUser address, _ => after = before.withdrawn address
  | copyOut address bytes, _ =>
    after = before.written address bytes ∧ after.Reads address bytes
  | copyIn address buffer, reply =>
    after = before ∧ ∃ filled, reply = .filled filled ∧
      before.Fills address 0 buffer.size buffer filled
  | copyInString address buffer, reply =>
    after = before ∧ ∃ length filled, reply = .string length filled ∧
      UserRead.EndsAt before address length ∧
      before.Fills address 0 (length + 1) buffer filled
  | pageIn _, _ | resolveFault _ _, _ | evict, _ | tick, _ | touch _ _, _ =>
    after = before

/-- Flat memory before and after a request that failed. -/
def Fails (before after : FlatMemory) : Request → Prop
  | copyOut address bytes =>
    ∃ copied, copied < bytes.length ∧
      (copied = 0 ∨ Address.isPageAligned (address + copied) = true) ∧
      after = before.written address (bytes.take copied) ∧
      after.Reads address (bytes.take copied)
  | _ => after = before

variable {before after : FlatMemory} {request : Request} {reply : Reply}
  {size : Nat}

theorem Succeeds.spans (succeeds : request.Succeeds size before after reply)
    (spans : before.Spans size) : after.Spans (request.sizeAfter size) := by
  cases request with
  | grow larger permissions =>
      obtain ⟨_, rfl⟩ := succeeds
      exact spans.added larger _
  | shrink smaller =>
      obtain ⟨_, rfl⟩ := succeeds
      exact spans.cleared smaller
  | clearUser address =>
      have same : after = before.withdrawn address := succeeds
      subst same
      exact spans.withdrawn address
  | copyOut address bytes =>
      obtain ⟨rfl, _⟩ := succeeds
      exact spans.written address bytes
  | copyIn address buffer =>
      obtain ⟨rfl, _⟩ := succeeds
      exact spans
  | copyInString address buffer =>
      obtain ⟨rfl, _⟩ := succeeds
      exact spans
  | pageIn _ | resolveFault _ _ | evict | tick | touch _ _ =>
      have same : after = before := succeeds
      rw [same]
      exact spans

theorem Fails.spans (fails : request.Fails before after)
    (spans : before.Spans size) : after.Spans size := by
  cases request with
  | copyOut address bytes =>
      obtain ⟨copied, _, _, rfl, _⟩ := fails
      exact spans.written address _
  | grow _ _ | shrink _ | pageIn _ | resolveFault _ _ | evict | tick
  | touch _ _ | clearUser _ | copyIn _ _ | copyInString _ _ =>
      have same : after = before := fails
      rw [same]
      exact spans

end Request

variable {Result : Type} {state after : Hosted AddressSpace} {terms : Terms}
  {time size : Nat} {relation : Pager → Pager → Prop}
  {effect : FlatMemory → FlatMemory → Prop}

theorem le_of_spans (ready : Ready terms time none state)
    (spans : FlatMemory.Spans (pager state).logicalPage? size) :
    size ≤ addressLimit := by
  by_contra beyond
  have below : size - 1 < Address.pageCeil size := by
    have reached := Address.le_pageCeil size
    omega
  have isThere := (spans (size - 1)).mpr below
  rw [ready.sound.isSome_logicalPage?] at isThere
  have inside := ready.sound.page_lt _ isThere
  omega

/-- Nothing outside the space changed, and flat memory is as `effect` says. -/
def Shows (effect : FlatMemory → FlatMemory → Prop)
    (before after : Pager) : Prop :=
  before.Confined after ∧ effect before.logicalPage? after.logicalPage?

theorem Left.mono {other : Pager → Pager → Prop}
    (left : Left state relation terms time after)
    (weaker : relation (pager state) (pager after) →
      other (pager state) (pager after)) :
    Left state other terms time after :=
  ⟨left.ready, left.changes.mono weaker⟩

theorem Kept.shows (kept : Kept state terms time none after)
    (nothing : ∀ memory, effect memory memory) :
    Left state (Shows effect) terms time after := by
  refine ⟨kept.ready, kept.changes.mono fun keeps =>
    ⟨keeps.toConfined, ?_⟩⟩
  have sameMemory : (pager after).logicalPage? = (pager state).logicalPage? :=
    funext keeps.logicalPage?
  rw [sameMemory]
  exact nothing _

theorem newPage_grownFlags (permissions : Flags) :
    newPage [] (grownFlags permissions) = Request.grownPage permissions := by
  have isZero : Page.ofList [] = Page.zero := Page.zero.overwrite_nil 0
  have zeros : (Page.ofList []).toList = List.replicate pageSize 0 := by
    rw [isZero]
    exact Vector.toList_replicate
  rw [newPage, zeros, Request.grownPage]
  simp [grownFlags, Flags.permissions, Flags.union]

/-- What an operation fills the buffer with comes back beside its result. -/
theorem meets_withBuffer {fatal : Fatal → Prop} {buffer : Array UInt8}
    {action : ReadAction Result}
    {done : Result → Hosted UserRead → Prop}
    {finished : Result × Array UInt8 → Hosted AddressSpace → Prop}
    {failed : PagingError → Hosted AddressSpace → Prop}
    (meets : (action.run ⟨⟨state.focus, buffer⟩, state.host⟩).Meets fatal done
      fun error filled => failed error (UserRead.source filled))
    (shown : ∀ result filled, done result filled →
      finished (result, filled.focus.buffer) (UserRead.source filled)) :
    ((withBuffer buffer action).run state).Meets fatal finished failed := by
  rw [withBuffer, Action.meets_zoom_iff]
  exact Action.meets_bind meets shown

/-- A request that is done has the effect that it asks for, and one that fails
has none or that of a part of a copy. -/
theorem meets_request (request : Request)
    (ready : Ready terms
      (time + request.ticks size (pager state).turns) none state)
    (spans : FlatMemory.Spans (pager state).logicalPage? size)
    (admissible : terms.IsLax ∨ request.Admissible state) :
    ((request.action size).run state).Meets terms.fatal
      (fun reply => Left state (Shows fun before memory =>
        request.Succeeds size before memory reply) terms time)
      fun _ => Left state (Shows fun before memory =>
        request.Fails before memory) terms time := by
  have bounded := le_of_spans ready spans
  cases request with
  | grow larger permissions =>
      have absent : ∀ address, Address.pageCeil size ≤ address →
          address < Address.pageCeil larger →
            (pager state).logicalPage? address = none := by
        intro address beyond _
        rw [← Option.not_isSome_iff_eq_none, spans address]
        omega
      refine Action.meets_map ((meets_grow ready absent
        (admissible.imp_right And.left)
        (admissible.imp_right And.right)).mono ?_ ?_)
      · rintro _ _ ⟨rfl, left⟩
        refine left.mono fun adds => ⟨adds.toConfined, rfl, ?_⟩
        rw [← newPage_grownFlags]
        exact funext adds.logicalPage?
      · exact fun _ _ kept => kept.shows fun _ => rfl
  | shrink smaller =>
      have areThere : AreThere state (Address.pageCeil smaller)
          (Address.pageCeil size) :=
        fun address _ below => (spans address).mpr below
      refine Action.meets_map ((meets_shrink ready (.inr bounded)
        (.inr areThere)).mono_done ?_)
      rintro _ _ ⟨rfl, left⟩
      exact left.mono fun clears =>
        ⟨clears.toConfined, rfl, funext clears.logicalPage?⟩
  | pageIn address =>
      refine Action.meets_map ((meets_pageIn ready).mono ?_ ?_)
      · exact fun _ _ back => back.1.shows fun _ => rfl
      · exact fun _ _ kept => kept.shows fun _ => rfl
  | resolveFault address access =>
      refine Action.meets_map ((meets_resolveFault access ready).mono ?_ ?_)
      · exact fun _ _ kept => kept.shows fun _ => rfl
      · exact fun _ _ kept => kept.shows fun _ => rfl
  | evict =>
      refine Action.meets_map ((meets_evict ready
        (admissible.imp_right And.right)
        (admissible.imp_right And.left)).mono ?_ ?_)
      · exact fun _ _ evicted => evicted.1.shows fun _ => rfl
      · exact fun _ _ unmoved => unmoved.toKept.shows fun _ => rfl
  | tick =>
      refine Action.meets_map ((meets_tick ready).mono ?_ ?_)
      · exact fun _ _ kept => kept.shows fun _ => rfl
      · exact fun _ _ kept => kept.shows fun _ => rfl
  | touch address isWrite =>
      refine Action.meets_map ((meets_touch ready isWrite
        admissible).mono ?_ ?_)
      · exact fun _ _ touched => touched.1.shows fun _ => rfl
      · exact fun _ _ kept => kept.shows fun _ => rfl
  | clearUser address =>
      have isThere : terms.IsLax ∨
          ((pager state).logicalPage? address).isSome = true := by
        rw [← logicalPage?_eq]
        exact admissible
      refine Action.meets_map ((meets_clearUser ready isThere).mono_done ?_)
      exact fun _ _ left => left.mono fun withdraws =>
        ⟨withdraws.toConfined, funext withdraws.logicalPage?⟩
  | copyOut address bytes =>
      refine Action.meets_map ((meets_copyOut ready).mono ?_ ?_)
      · exact fun _ _ left => left.mono fun writes =>
          ⟨writes.toConfined, writes.eq_written, writes.reads⟩
      · rintro _ _ ⟨copied, less, boundary, left⟩
        exact left.mono fun writes =>
          ⟨writes.toConfined, copied, less, boundary,
            writes.eq_written, writes.reads⟩
  | copyIn address buffer =>
      refine Action.meets_map (meets_withBuffer ((UserRead.meets_copyIn
        ready).mono_failed ?_) ?_)
      · exact fun _ _ kept => kept.shows fun _ => rfl
      · intro _ filled copied
        have shown : Left state (Shows Eq) terms time
            (UserRead.source filled) :=
          copied.kept.shows fun _ => rfl
        refine shown.mono fun shows => ?_
        exact ⟨shows.1, shows.2.symm, _, rfl, copied.fills⟩
  | copyInString address buffer =>
      refine Action.meets_map (meets_withBuffer ((UserRead.meets_copyInString
        ready).mono_failed ?_) ?_)
      · exact fun _ _ kept => kept.shows fun _ => rfl
      · rintro length filled ⟨kept, ends, fills⟩
        have shown : Left state (Shows Eq) terms time
            (UserRead.source filled) :=
          kept.shows fun _ => rfl
        refine shown.mono fun shows => ?_
        exact ⟨shows.1, shows.2.symm, _, _, rfl, ends, fills⟩

end AddressSpace

end DemandPaging
