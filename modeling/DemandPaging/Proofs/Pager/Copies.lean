import DemandPaging.Proofs.FlatMemory
import DemandPaging.Proofs.Pager.Keeping

/-!
# Bytes in the frame of a page

A copy to user memory reads a frame, changes some of its bytes and writes it
back.  User code sees just those bytes change.
-/

namespace DemandPaging

namespace Pager

variable {pager before middle after : Pager} {pending : Option Nat}
  {address page time : Nat} {contents : Page} {frames : FramePool}
  {bytes : List UInt8} {terms : Terms}

/-- User code sees `bytes` written from `address` on, all of them to pages
that were there, and nothing else changed. -/
structure Writes (before after : Pager) (address : Nat)
    (bytes : List UInt8) : Prop extends before.Confined after,
    FlatMemory.Receives before.logicalPage? after.logicalPage? address bytes

namespace Writes

theorem of_keeps (keeps : before.Keeps after) (address : Nat) :
    before.Writes after address [] := by
  refine ⟨keeps.toConfined, ?_⟩
  rw [funext keeps.logicalPage?]
  exact .nil _ _

theorem trans {length : Nat}
    (first : before.Writes middle address (bytes.take length))
    (second : middle.Writes after (address + length) (bytes.drop length)) :
    before.Writes after address bytes :=
  ⟨first.toConfined.trans second.toConfined,
    first.toReceives.trans second.toReceives⟩

theorem trans_take {length more : Nat}
    (first : before.Writes middle address (bytes.take length))
    (second : middle.Writes after (address + length)
      ((bytes.drop length).take more)) :
    before.Writes after address (bytes.take (length + more)) :=
  ⟨first.toConfined.trans second.toConfined,
    first.toReceives.trans_take second.toReceives⟩

theorem of_keeps_trans (keeps : before.Keeps middle)
    (writes : middle.Writes after address bytes) :
    before.Writes after address bytes := by
  refine ⟨keeps.toConfined.trans writes.toConfined, ?_⟩
  rw [← funext keeps.logicalPage?]
  exact writes.toReceives

end Writes

theorem logicalPage?_eq_of_pageBase_eq {other : Nat}
    (samePage : Address.pageBase other = Address.pageBase address) :
    pager.logicalPage? other = pager.logicalPage? address := by
  rw [Pager.logicalPage?, Pager.logicalPage?, samePage,
    entryAt_of_pageBase_eq samePage, entryAt_pageBase]

theorem length_bytes {memory : LogicalPage}
    (shown : pager.logicalPage? address = some memory) :
    memory.bytes.length = pageSize := by
  rw [Pager.logicalPage?] at shown
  obtain ⟨bytes, held, rfl⟩ := Option.map_eq_some_iff.mp shown
  rw [bytesAt?] at held
  split at held
  · obtain ⟨contents, _, rfl⟩ := Option.map_eq_some_iff.mp held
    exact Vector.length_toList ..
  · split at held
    · obtain ⟨slot, _, stored⟩ := Option.bind_eq_some_iff.mp held
      exact SwapSpace.length_of_contents? stored
    · cases held

theorem Writes.reads (writes : before.Writes after address bytes) :
    FlatMemory.Reads after.logicalPage? address bytes :=
  writes.toReceives.reads fun _ _ => length_bytes

/-- What user code sees of a page in memory. -/
theorem logicalPage?_of_isValid
    (isValid : (pager.entryAt address).isValid = true)
    (lent : pager.frames.contents? (pager.entryAt address).address =
      some contents) :
    pager.logicalPage? address =
      some ⟨contents.toList, (pager.entryAt address).flags.permissions⟩ := by
  rw [Pager.logicalPage?, bytesAt?, entryAt_pageBase, if_pos isValid, lent]
  rfl

/-- Bytes are written within the frame of one page. -/
theorem exists_writes
    (frame_inj : ∀ other, (pager.entryAt other).isValid = true →
      (pager.entryAt address).isValid = true →
        (pager.entryAt other).address = (pager.entryAt address).address →
          Address.pageBase other = Address.pageBase address)
    (isValid : (pager.entryAt address).isValid = true)
    (lent : pager.frames.contents? (pager.entryAt address).address =
      some contents)
    (inPage : Address.pageOffset address + bytes.length ≤ pageSize) :
    ∃ frames, pager.frames.write (pager.entryAt address).address
        (contents.overwrite (Address.pageOffset address) bytes).toList =
          .ok frames ∧
      (∀ frame, frames.contents? frame =
        if frame = (pager.entryAt address).address then
          some (contents.overwrite (Address.pageOffset address) bytes)
        else pager.frames.contents? frame) ∧
      pager.Writes { pager with frames } address bytes := by
  obtain ⟨frames, written, shown⟩ := FramePool.write_of_contents? lent
    (contents.overwrite (Address.pageOffset address) bytes).toList
  have total := FramePool.total_of_write written
  have whole : contents.overwrite 0
      (contents.overwrite (Address.pageOffset address) bytes).toList =
        contents.overwrite (Address.pageOffset address) bytes :=
    Vector.toList_inj.mp (Page.toList_overwrite (Vector.length_toList ..))
  rw [whole] at shown
  have position := Address.pageBase_add_pageOffset address
  have shownAt := logicalPage?_of_isValid isValid lent
  refine ⟨frames, written, shown, ⟨⟨rfl, rfl, rfl, rfl, rfl, total⟩,
    fun _ _ => unowned_fill_iff isValid shown⟩, fun index less => ?_,
    funext fun other => ?_⟩
  · have samePage : Address.pageBase (address + index) =
        Address.pageBase address :=
      Address.pageBase_add (by omega)
    rw [logicalPage?_eq_of_pageBase_eq samePage, shownAt]
    rfl
  rw [logicalPage?_fill frame_inj isValid shown, FlatMemory.written]
  by_cases samePage : Address.pageBase other = Address.pageBase address
  · rw [if_pos samePage, logicalPage?_eq_of_pageBase_eq samePage, shownAt,
      Option.map_some, LogicalPage.written, Page.toList_overwrite_eq_mapIdx,
      samePage]
    congr 3
    funext index byte
    have sameIndex : Address.pageBase address + index - address =
        index - Address.pageOffset address := by omega
    rw [sameIndex]
    by_cases isIn : Address.pageOffset address ≤ index
    · rw [if_pos isIn, if_pos (by omega)]
    · rw [if_neg isIn, if_neg (by omega)]
  · rw [if_neg samePage]
    cases shown : pager.logicalPage? other with
    | none => rfl
    | some memory =>
        rw [Option.map_some, LogicalPage.written_of_elsewhere
          (length_bytes shown).le]
        simp only [Address.pageBase, pageSize] at *
        omega

/-- Where the parts agree, they still do once bytes are written. -/
theorem Ready.writes (ready : pager.Ready terms time pending)
    (isValid : (pager.entryAt address).isValid = true)
    (lent : pager.frames.contents? (pager.entryAt address).address =
      some contents)
    (inPage : Address.pageOffset address + bytes.length ≤ pageSize) :
    ∃ frames, pager.frames.write (pager.entryAt address).address
        (contents.overwrite (Address.pageOffset address) bytes).toList =
          .ok frames ∧
      ({ pager with frames } : Pager).Ready terms time pending ∧
      pager.Writes { pager with frames } address bytes := by
  have sound := ready.sound
  obtain ⟨frames, written, shown, writes⟩ :=
    exists_writes (sound.frame_inj · address) isValid lent inPage
  refine ⟨frames, written, ?_, writes⟩
  exact {
    sound := sound_fill sound isValid (FramePool.total_of_write written)
      (sound.frames.write written) shown
    ceiling := ready.ceiling
    strict := ready.strict.imp_right Strict.withFrames
    time_le := ready.time_le
    overflow := ready.overflow }

end Pager

end DemandPaging
