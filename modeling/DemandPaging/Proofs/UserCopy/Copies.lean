import DemandPaging.Proofs.UserCopy.Progress

/-!
# Copies to the byte

A copy to or from user memory moves all its bytes if it may use all their
pages.  Otherwise it moves the bytes before the first page that it may not use
and names the first byte of that page, or a frame or a transfer is wanting at
some page before.
-/

namespace DemandPaging

namespace AddressSpace

variable {state : Hosted AddressSpace} {address length offset : Nat}
  {bytes : List UInt8}

theorem copyTicks_eq_first_add (positive : 0 < length) (turns : Nat) :
    copyTicks address length turns = turns + 1 +
      copyTicks (address + Span.first address length)
        (length - Span.first address length) turns := by
  rw [copyTicks_of_pos positive, Nat.add_comm]

/-- A copy to user memory traverses its whole range or stops before a page,
and user code sees the bytes that it has passed over. -/
theorem traverses_copyOut (formed : IsFormed state) (address : Nat)
    (bytes : List UInt8) :
    ((copyOut address bytes).run state).Meets
      (CopyEnds state (copyTicks address bytes.length (pager state).turns))
      (fun _ after => Traverses state after true address bytes.length
          (copyTicks address bytes.length (pager state).turns) ∧
        FlatMemory.Receives (logicalPage? state) (logicalPage? after) address
          bytes)
      (fun error after => ∃ copied, Stops state after true address bytes.length
          (copyTicks address bytes.length (pager state).turns) error copied ∧
        FlatMemory.Receives (logicalPage? state) (logicalPage? after) address
          (bytes.take copied)) := by
  induction count : bytes.length using Nat.strongRecOn
    generalizing state address bytes with
  | ind count ih =>
      subst count
      by_cases isEmpty : bytes.length = 0
      · obtain rfl := List.length_eq_zero_iff.mp isEmpty
        exact ⟨(Traverses.refl formed true address).weaken (Nat.zero_le _),
          .nil _ _⟩
      have positive : 0 < bytes.length := Nat.pos_of_ne_zero isEmpty
      have firstPos := Span.first_pos address positive
      have inPage := Span.pageOffset_add_first_le address bytes.length
      have taken : (bytes.take (Span.first address bytes.length)).length =
          Span.first address bytes.length :=
        List.length_take_of_le (Span.first_le address bytes.length)
      rw [copyOut_of_pos positive, copyTicks_eq_first_add positive]
      refine Action.meets_bind (((meets_writeRun_of_isFormed formed
        (taken.symm ▸ inPage)).mono_failed
          fun error after refuses => ?_).mono_fatal
            fun _ ends => ends.mono (Nat.le_add_right _ _)) ?_
      · refine ⟨0, .of_refusesPage refuses positive (Nat.le_add_right _ _), ?_⟩
        rw [logicalPage?_eq_of_view? refuses.view?]
        exact .nil _ _
      rintro _ middle ⟨allowed, carries, receives⟩
      have traverses := Traverses.of_page carries allowed firstPos inPage
      have rest := ih (bytes.length - Span.first address bytes.length)
        (by omega) carries.formed (address + Span.first address bytes.length)
        (bytes.drop (Span.first address bytes.length)) List.length_drop
      rw [carries.turns] at rest
      refine (rest.mono (fun _ after done => ?_)
        fun error after isFailed => ?_).mono_fatal
          fun _ ends => ends.of_carries carries
      · exact ⟨traverses.of_first done.1, receives.trans done.2⟩
      · obtain ⟨copied, stops, receivesRest⟩ := isFailed
        exact ⟨_, .of_first traverses stops, receives.trans_take receivesRest⟩

end AddressSpace

end DemandPaging
