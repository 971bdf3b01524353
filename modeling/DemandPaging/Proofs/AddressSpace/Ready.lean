import DemandPaging.Proofs.AddressSpace.Parts
import DemandPaging.Proofs.Pager.Keeping

/-!
# What operations on an address space find and leave

An operation finds a space in order and leaves it in order (`Ready`), and
stands in some relation to what it found (`Changes`).  Here are the notions,
the ways to pass from one state to the next, and the operations that borrow a
frame and give it back.
-/

namespace DemandPaging

namespace AddressSpace

open Pager (Terms Keeps Borrows Confined)

variable {Result : Type} {origin state middle after : Hosted AddressSpace}
  {terms : Terms} {time more : Nat} {pending : Option Nat} {frame : Nat}
  {contents : Page} {parts : Pager} {relation : Pager → Pager → Prop}
  {failed : PagingError → Hosted AddressSpace → Prop}

/-- The space is in order, and a pool of its host serves it. -/
structure Ready (terms : Terms) (time : Nat) (pending : Option Nat)
    (state : Hosted AddressSpace) : Prop where
  served : IsServed state
  parts : (pager state).Ready terms time pending

/-- The parts stand in a relation to what they were, and nothing else changed
that matters. -/
structure Changes (before : Hosted AddressSpace)
    (relation : Pager → Pager → Prop) (after : Hosted AddressSpace) :
    Prop where
  stays : Stays before after
  parts : relation (pager before) (pager after)

namespace Ready

theorem sound (ready : Ready terms time pending state) :
    (pager state).Sound pending :=
  ready.parts.sound

theorem weaken (ready : Ready terms more pending state) (le : time ≤ more) :
    Ready terms time pending state :=
  ⟨ready.served, ready.parts.weaken le⟩

theorem becomes {nextTime : Nat} {nextPending : Option Nat}
    (ready : Ready terms time pending state)
    (becomes : Becomes state parts after)
    (inOrder : parts.Ready terms nextTime nextPending) :
    Ready terms nextTime nextPending after :=
  ⟨ready.served.of_stays becomes.stays, becomes.parts ▸ inOrder⟩

theorem unchanged (ready : Ready terms time pending state)
    (becomes : Becomes state (pager state) after) :
    Ready terms time pending after :=
  ready.becomes becomes ready.parts

end Ready

namespace Changes

theorem refl (state : Hosted AddressSpace) : Changes state Keeps state :=
  ⟨.refl state, .refl _⟩

theorem of_becomes (becomes : Becomes state parts after)
    (related : relation (pager state) parts) : Changes state relation after :=
  ⟨becomes.stays, becomes.parts ▸ related⟩

theorem becomes {other : Pager → Pager → Prop}
    (changes : Changes origin relation state)
    (becomes : Becomes state parts after)
    (related : relation (pager origin) (pager state) →
      other (pager origin) parts) : Changes origin other after :=
  ⟨changes.stays.trans becomes.stays, becomes.parts ▸ related changes.parts⟩

theorem unchanged (changes : Changes origin relation state)
    (becomes : Becomes state (pager state) after) :
    Changes origin relation after :=
  changes.becomes becomes id

theorem mono {other : Pager → Pager → Prop}
    (changes : Changes origin relation state)
    (weaker : relation (pager origin) (pager state) →
      other (pager origin) (pager state)) : Changes origin other state :=
  ⟨changes.stays, weaker changes.parts⟩

theorem trans {other both : Pager → Pager → Prop}
    (first : Changes origin relation state)
    (second : Changes state other after)
    (compose : relation (pager origin) (pager state) →
      other (pager state) (pager after) →
        both (pager origin) (pager after)) : Changes origin both after :=
  ⟨first.stays.trans second.stays, compose first.parts second.parts⟩

theorem keeps_trans (first : Changes origin Keeps state)
    (second : Changes state Keeps after) : Changes origin Keeps after :=
  first.trans second Keeps.trans

end Changes

/-- The space is in order, and user code sees what it saw in `origin`. -/
structure Kept (origin : Hosted AddressSpace) (terms : Terms) (time : Nat)
    (pending : Option Nat) (state : Hosted AddressSpace) : Prop where
  ready : Ready terms time pending state
  changes : Changes origin Keeps state

namespace Kept

theorem refl (ready : Ready terms time pending state) :
    Kept state terms time pending state :=
  ⟨ready, .refl state⟩

theorem unchanged (kept : Kept origin terms time pending state)
    (becomes : Becomes state (pager state) after) :
    Kept origin terms time pending after :=
  ⟨kept.ready.unchanged becomes, kept.changes.unchanged becomes⟩

theorem trans (first : Kept origin terms more pending state)
    (second : Kept state terms time pending after) :
    Kept origin terms time pending after :=
  ⟨second.ready, first.changes.keeps_trans second.changes⟩

theorem weaken (kept : Kept origin terms more pending state)
    (le : time ≤ more) : Kept origin terms time pending state :=
  ⟨kept.ready.weaken le, kept.changes⟩

end Kept

/-- The space is in order, and has borrowed a frame since `origin`. -/
structure Lent (origin : Hosted AddressSpace) (terms : Terms) (time : Nat)
    (pending : Option Nat) (frame : Nat) (contents : Page)
    (state : Hosted AddressSpace) : Prop where
  ready : Ready terms time pending state
  changes : Changes origin (fun before after =>
    before.Borrows after frame contents) state

namespace Lent

theorem of_kept (lent : Lent origin terms more pending frame contents state)
    (kept : Kept state terms time pending after) :
    Lent origin terms time pending frame contents after :=
  ⟨kept.ready, lent.changes.trans kept.changes Borrows.of_keeps⟩

theorem weaken (lent : Lent origin terms more pending frame contents state)
    (le : time ≤ more) :
    Lent origin terms time pending frame contents state :=
  ⟨lent.ready.weaken le, lent.changes⟩

theorem unchanged (lent : Lent origin terms time pending frame contents state)
    (becomes : Becomes state (pager state) after) :
    Lent origin terms time pending frame contents after :=
  ⟨lent.ready.unchanged becomes, lent.changes.unchanged becomes⟩

end Lent

/-- A frame is taken, or there is none. -/
theorem meets_takeFrame (ready : Ready terms time pending state) :
    (takeFrame.run state).Meets terms.fatal
      (fun frame after =>
        Lent state terms time pending frame
          (Page.filled FramePool.lentJunk) after ∧
        ∃ frames, Becomes state { pager state with frames } after)
      (fun _ after => Kept state terms time pending after) := by
  cases lending : (pager state).frames.allocate with
  | mk found frames =>
      refine Action.meets_bind (meets_stepFrames ready.served
        (congrArg Except.ok lending)) ?_
      · rintro given after ⟨rfl, becomes⟩
        cases given with
        | none =>
            have same : frames = (pager state).frames := by
              have none := congrArg Prod.fst lending
              rw [FramePool.allocate] at none lending
              split at lending
              · exact (congrArg Prod.snd lending).symm
              · cases lending
            subst same
            exact (Kept.refl ready).unchanged becomes
        | some frame =>
            obtain ⟨heldBy, borrows⟩ :=
              Pager.borrows_of_allocate ready.sound lending
            refine ⟨⟨ready.becomes becomes (ready.parts.withFrames heldBy),
              .of_becomes becomes borrows⟩, frames, becomes⟩

/-- A borrowed frame is given back. -/
theorem meets_releaseFrame {fatal : Fatal → Prop}
    (lent : Lent origin terms time pending frame contents state) :
    ((releaseFrame frame).run state).Meets fatal
      (fun _ after => Kept origin terms time pending after ∧
        ∃ frames, Becomes state { pager state with frames } after) failed := by
  obtain ⟨frames, released, heldBy, keeps⟩ :=
    lent.changes.parts.release lent.ready.sound
  refine (meets_changeFrames lent.ready.served released).mono_done
    fun _ after becomes => ?_
  exact ⟨⟨lent.ready.becomes becomes (lent.ready.parts.withFrames heldBy),
    lent.changes.becomes becomes fun _ => keeps⟩, frames, becomes⟩

/-- A borrowed frame is written. -/
theorem meets_writeFrame {fatal : Fatal → Prop}
    (lent : Lent origin terms time pending frame contents state)
    (bytes : List UInt8) :
    ((writeFrame frame bytes).run state).Meets fatal
      (fun _ after => Lent origin terms time pending frame
          (contents.overwrite 0 bytes) after ∧
        ∃ frames, Becomes state { pager state with frames } after) failed := by
  obtain ⟨frames, written, heldBy, borrows⟩ :=
    lent.changes.parts.write lent.ready.sound bytes
  refine (meets_changeFrames lent.ready.served written).mono_done
    fun _ after becomes => ?_
  exact ⟨⟨lent.ready.becomes becomes (lent.ready.parts.withFrames heldBy),
    lent.changes.becomes becomes fun _ => borrows⟩, frames, becomes⟩

/-- A borrowed frame comes to hold the bytes of a whole page. -/
theorem meets_fillFrame {fatal : Fatal → Prop} {bytes : List UInt8}
    (lent : Lent origin terms time pending frame contents state)
    (length : bytes.length = pageSize) :
    ((writeFrame frame bytes).run state).Meets fatal
      (fun _ after => ∃ filled : Page, filled.toList = bytes ∧
        Lent origin terms time pending frame filled after ∧
        ∃ frames, Becomes state { pager state with frames } after) failed :=
  (meets_writeFrame lent bytes).mono_done
    fun _ _ written => ⟨_, Page.toList_overwrite length, written⟩

end AddressSpace

end DemandPaging
