import DemandPaging.Proofs.Mapping.Houses

/-!
# What keeps a space formed

A copy to or from user memory may bring in pages that cannot be read, so it
relies on `IsFormed` and not on `WellFormed`.  A space stays formed under
changes that are of no concern to any page, and where the frames of its pages
stay lent, whatever is written to them.
-/

namespace DemandPaging

namespace AddressSpace

variable {state before after : Hosted AddressSpace} {frames : FramePool}
  {address : Nat}

namespace IsFormed

variable (formed : IsFormed state)

include formed

/-- Two pages in memory have different frames. -/
theorem pageBase_eq_of_address_eq {first second : Nat}
    (firstValid : ((pager state).entryAt first).isValid = true)
    (secondValid : ((pager state).entryAt second).isValid = true)
    (same : ((pager state).entryAt first).address =
      ((pager state).entryAt second).address) :
    Address.pageBase first = Address.pageBase second :=
  formed.frame_inj _ _ _ _
    (mem_leaves (Pager.isPresent_of_isValid firstValid))
    (mem_leaves (Pager.isPresent_of_isValid secondValid))
    firstValid secondValid same

theorem exists_frameBytes
    (isValid : ((pager state).entryAt address).isValid = true) :
    ∃ bytes, frameBytes? state ((pager state).entryAt address).address =
      some bytes := by
  obtain ⟨contents, lent⟩ := formed.isCopyable.framed address isValid
  refine ⟨contents.toList, ?_⟩
  rw [frameBytes?_eq]
  exact congrArg (Option.map Vector.toList) lent

theorem address_point {frame : Nat} {contents : Page} {frames : FramePool}
    (total : frames.total = (pager state).frames.total)
    (lent : frames.contents? frame = some contents) (flags : Flags) :
    (Entry.point frame flags).address = frame := by
  have total_le := formed.fits.total_le
  rw [← total] at total_le
  obtain ⟨aligned, bounded⟩ := FramePool.bounded_of_contents? total_le lent
  rw [Entry.address_point bounded, aligned]

theorem isPagedOut_eq_false (notPaging : state.focus.isPaging = false) :
    ((pager state).entryAt address).isPagedOut = false := by
  rw [← Bool.not_eq_true]
  intro isPagedOut
  refine formed.agrees.not_isPagedOut notPaging (Address.pageBase address)
    ((isPagedOut_iff state _).mpr ⟨Address.pageBase_pageBase address, ?_⟩)
  rwa [Pager.entryAt_pageBase]

end IsFormed

theorem IsFormed.of_retains (formed : IsFormed before)
    (retains : (pager before).Retains (pager after))
    (served : IsServed after) : IsFormed after := by
  have isPaging : after.focus.isPaging = before.focus.isPaging :=
    retains.shape.isPaging
  have swap : after.focus.swap = before.focus.swap := retains.swap
  have alike := retains.alike
  refine isFormed_of_parts ⟨?_, fun paging => ?_, fun notPaging page => ?_⟩
    retains.ledger (swap ▸ formed.swap) retains.held.isConsistent
    served (formed.fits.of_sameShape retains.shape) ?_ ?_ ?_
  · rintro page entry leaf ⟨isValid, isPagedOut⟩
    obtain ⟨_, rfl, _⟩ := PageTable.mem_leaves_iff_entryAt.mp leaf
    have wasValid := (alike page).isValid.symm.trans isValid
    have wasPagedOut := (alike page).isPagedOut.symm.trans isPagedOut
    cases (formed.exclusive wasValid).symm.trans wasPagedOut
  · rw [isPaging] at paging
    exact ((formed.agrees.nearlyTracks paging).of_retains formed.ledger
      retains).tracks
  · rw [isPaging] at notPaging
    rw [isPagedOut_iff, (alike page).isPagedOut,
      formed.isPagedOut_eq_false notPaging]
    exact fun both => nomatch both.2
  · intro address isPresent
    rw [(alike address).isPresent] at isPresent
    exact formed.lt_addressLimit isPresent
  · intro address isValid
    rw [(alike address).isValid] at isValid
    rw [(alike address).address isValid, retains.held.owned address isValid]
    exact formed.isCopyable.framed address isValid
  · intro first second firstValid secondValid same
    rw [(alike first).isValid] at firstValid
    rw [(alike second).isValid] at secondValid
    rw [(alike first).address firstValid,
      (alike second).address secondValid] at same
    exact formed.pageBase_eq_of_address_eq firstValid secondValid same

/-- It does not matter what is written to the frames of the pages. -/
theorem IsFormed.of_lent (formed : IsFormed state)
    (total : frames.total = (pager state).frames.total)
    (consistent : frames.IsConsistent)
    (lent : ∀ frame contents,
      (pager state).frames.contents? frame = some contents →
        ∃ now, frames.contents? frame = some now) :
    IsFormed (AddressSpace.withFrames state frames) := by
  have parts := pager_withFrames formed.pool_lt frames
  have shape : (pager state).SameShape
      (pager (AddressSpace.withFrames state frames)) := by
    rw [parts]
    exact ⟨rfl, rfl, rfl, rfl, rfl, total⟩
  refine isFormed_of_parts { formed.agrees with } formed.ledger formed.swap
    (parts ▸ consistent) (IsServed.withFrames formed.pool_lt frames)
    (formed.fits.of_sameShape shape)
    (fun _ isPresent => formed.lt_addressLimit isPresent)
    (fun address isValid => ?_) fun _ _ =>
      formed.pageBase_eq_of_address_eq
  obtain ⟨contents, held⟩ := formed.isCopyable.framed address isValid
  rw [parts]
  exact lent _ contents held

end AddressSpace

end DemandPaging
