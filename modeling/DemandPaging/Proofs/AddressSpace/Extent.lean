import DemandPaging.Proofs.AddressSpace.Tidy

/-!
# What a space has

The size of user memory tells which leaves the page table of a space has and
how many pages the space tracks, and its valid leaves tell which frames it has.
Once a space is torn down its pool has all of them back.
-/

namespace DemandPaging

namespace AddressSpace

variable {space : AddressSpace} {state after : Hosted AddressSpace}
  {host : Host} {size frame : Nat} {contents : Page}

/-- The addresses of the pages of the first `size` bytes, in order. -/
def pagesOf (size : Nat) : List Nat :=
  (List.range (Address.pageCeil size / pageSize)).map fun number =>
    number * pageSize

theorem mem_pagesOf_iff {page : Nat} : page ∈ pagesOf size ↔
    Address.pageBase page = page ∧ page < Address.pageCeil size := by
  simp only [pagesOf, List.mem_map, List.mem_range]
  constructor
  · rintro ⟨number, below, rfl⟩
    simp only [Address.pageBase, Address.pageCeil, pageSize] at *
    omega
  · rintro ⟨aligned, below⟩
    refine ⟨page / pageSize, ?_, aligned⟩
    simp only [Address.pageBase, Address.pageCeil, pageSize] at *
    omega

theorem pairwise_pagesOf (size : Nat) : (pagesOf size).Pairwise (· < ·) :=
  List.pairwise_map.mpr (List.pairwise_lt_range.imp fun less =>
    Nat.mul_lt_mul_of_pos_right less (by decide))

namespace IsCoherent

theorem leaves_eq (coherent : IsCoherent size state) :
    state.focus.table.leaves.map Prod.fst = pagesOf size := by
  have ordered : (state.focus.table.leaves.map Prod.fst).Pairwise (· < ·) :=
    List.pairwise_map.mpr state.focus.table.pairwise_leaves
  refine List.Perm.eq_of_pairwise (fun _ _ _ _ less more =>
    absurd more (Nat.lt_asymm less)) ordered (pairwise_pagesOf size) ?_
  refine (List.perm_ext_iff_of_nodup (ordered.imp Nat.ne_of_lt)
    ((pairwise_pagesOf size).imp Nat.ne_of_lt)).mpr fun page => ?_
  have isThere := coherent.sound.isSome_logicalPage? page
  rw [mem_pagesOf_iff, ← coherent.spans page, isThere, List.mem_map]
  constructor
  · rintro ⟨⟨_, entry⟩, member, rfl⟩
    obtain ⟨aligned, rfl, isPresent⟩ :=
      PageTable.mem_leaves_iff_entryAt.mp member
    exact ⟨aligned, isPresent⟩
  · rintro ⟨aligned, isPresent⟩
    exact ⟨(page, state.focus.table.entryAt page),
      PageTable.mem_leaves_iff_entryAt.mpr ⟨aligned, rfl, isPresent⟩, rfl⟩

/-- A page that has a place is one of the first `size` bytes. -/
theorem placed (coherent : IsCoherent size state) {handle : Nat}
    {tracked : Tracked}
    (place : state.focus.ledger.places[handle]? = some tracked)
    (taken : tracked.isFree = false) :
    Address.pageBase tracked.address = tracked.address ∧
      tracked.address < Address.pageCeil size := by
  have sound := coherent.sound
  have known : (pager state).residenceOf? tracked.address =
      some tracked.residence :=
    sound.ledger.residenceOf?_eq_some_iff.mpr
      ⟨handle, tracked, place, ⟨taken, rfl⟩, rfl⟩
  have isPresent := sound.isPresent_of_residenceOf? known
  rw [← sound.isSome_logicalPage?] at isPresent
  exact ⟨(sound.tracked _ _ known).2.1, (coherent.spans _).mp isPresent⟩

theorem trackedCount_eq (coherent : IsCoherent size state)
    (isPaging : state.focus.isPaging = true) :
    state.focus.ledger.trackedCount = Address.pageCeil size / pageSize := by
  have sound := coherent.sound
  have consistent : state.focus.ledger.IsConsistent := sound.ledger
  rw [consistent.trackedCount_eq, ← card_positions,
    ← Finset.card_range (Address.pageCeil size / pageSize)]
  -- A place is sent to the number of its page.
  refine Finset.card_nbij (fun handle =>
    (state.focus.ledger.places[handle]?.map Tracked.address).getD 0 /
      pageSize) ?_ ?_ ?_
  · intro handle member
    obtain ⟨found, place, taken⟩ := mem_positions.mp member
    rw [Bool.not_eq_true'] at taken
    obtain ⟨aligned, below⟩ := coherent.placed place taken
    rw [Finset.coe_range, Set.mem_Iio]
    dsimp only
    rw [place, Option.map_some, Option.getD_some]
    simp only [Address.pageBase, Address.pageCeil, pageSize] at *
    omega
  · intro first isFirst second isSecond same
    obtain ⟨firstFound, firstPlace, firstTaken⟩ := mem_positions.mp isFirst
    obtain ⟨secondFound, secondPlace, secondTaken⟩ := mem_positions.mp isSecond
    rw [Bool.not_eq_true'] at firstTaken secondTaken
    have firstAligned := (coherent.placed firstPlace firstTaken).1
    have secondAligned := (coherent.placed secondPlace secondTaken).1
    dsimp only at same
    rw [firstPlace, secondPlace, Option.map_some, Option.map_some,
      Option.getD_some, Option.getD_some] at same
    refine consistent.handle_unique firstPlace secondPlace firstTaken
      secondTaken ?_
    rw [← firstAligned, ← secondAligned, Address.pageBase, Address.pageBase,
      same]
  · intro number inside
    rw [Finset.coe_range, Set.mem_Iio] at inside
    have aligned : Address.pageBase (number * pageSize) = number * pageSize := by
      simp only [Address.pageBase, pageSize]
      omega
    have isThere := (coherent.spans (number * pageSize)).mpr (by
      simp only [Address.pageCeil, pageSize] at *
      omega)
    rw [sound.isSome_logicalPage?] at isThere
    obtain ⟨residence, known⟩ :=
      sound.residence_of_isPresent isPaging aligned isThere
    obtain ⟨handle, found, place, tracks, _⟩ :=
      consistent.residenceOf?_eq_some_iff.mp known
    refine ⟨handle, mem_positions.mpr ⟨found, place, ?_⟩, ?_⟩
    · rw [tracks.1]
      rfl
    · dsimp only
      rw [place, Option.map_some, Option.getD_some, tracks.2,
        Nat.mul_div_cancel _ (by decide)]

end IsCoherent

/-- A page of the space is in the frame at `frame`. -/
def IsIn (space : AddressSpace) (frame : Nat) : Prop :=
  ∃ address, (space.table.entryAt address).isValid = true ∧
    (space.table.entryAt address).address = frame

theorem unowned_iff_not_isIn :
    (pager ⟨space, host⟩).Unowned frame contents ↔
      (host.pool space.pool).contents? frame = some contents ∧
        ¬space.IsIn frame := by
  refine and_congr_right fun _ => ?_
  constructor
  · rintro notOwned ⟨address, isValid, same⟩
    exact notOwned address isValid same
  · intro notIn address isValid same
    exact notIn ⟨address, isValid, same⟩

/-- The frames that pages of the space are in. -/
def framesOf (space : AddressSpace) : List Nat :=
  (space.table.leaves.filter fun leaf => leaf.2.isValid).map fun leaf =>
    leaf.2.address

/-- The number of pages in memory. -/
def mappedCount (space : AddressSpace) : Nat :=
  space.table.leaves.countP fun leaf => leaf.2.isValid

theorem length_framesOf (space : AddressSpace) :
    space.framesOf.length = space.mappedCount := by
  rw [framesOf, List.length_map, mappedCount, List.countP_eq_length_filter]

theorem mem_framesOf_iff : frame ∈ space.framesOf ↔ space.IsIn frame := by
  simp only [framesOf, List.mem_map, List.mem_filter]
  constructor
  · rintro ⟨⟨page, entry⟩, ⟨leaf, isValid⟩, rfl⟩
    obtain ⟨_, rfl, _⟩ := PageTable.mem_leaves_iff_entryAt.mp leaf
    exact ⟨page, isValid, rfl⟩
  · rintro ⟨address, isValid, rfl⟩
    have leaf : (Address.pageBase address, space.table.entryAt address) ∈
        space.table.leaves :=
      PageTable.mem_leaves_iff_entryAt.mpr ⟨Address.pageBase_pageBase address,
        space.table.entryAt_pageBase address,
        Pager.isPresent_of_isValid isValid⟩
    exact ⟨_, ⟨leaf, isValid⟩, rfl⟩

theorem IsCoherent.nodup_framesOf
    (coherent : IsCoherent size ⟨space, host⟩) : space.framesOf.Nodup := by
  have leaves : space.table.leaves.Nodup :=
    space.table.pairwise_leaves.imp fun less same => by
      rw [same] at less
      exact Nat.lt_irrefl _ less
  refine (leaves.filter _).map_on ?_
  rintro ⟨first, firstEntry⟩ isFirst ⟨second, secondEntry⟩ isSecond same
  obtain ⟨firstLeaf, firstValid⟩ := List.mem_filter.mp isFirst
  obtain ⟨secondLeaf, secondValid⟩ := List.mem_filter.mp isSecond
  obtain ⟨firstAligned, rfl, _⟩ :=
    PageTable.mem_leaves_iff_entryAt.mp firstLeaf
  obtain ⟨secondAligned, rfl, _⟩ :=
    PageTable.mem_leaves_iff_entryAt.mp secondLeaf
  have samePage := coherent.sound.frame_inj first second firstValid secondValid
    same
  rw [firstAligned, secondAligned] at samePage
  rw [samePage]

/-- A space that has nothing left has given all its frames back. -/
theorem freeCount_of_isVacant (coherent : IsCoherent size state)
    (orderly : IsOrderly state 0 after) :
    (after.host.pool state.focus.pool).freeCount =
      (state.host.pool state.focus.pool).freeCount +
        state.focus.mappedCount := by
  have vacant := orderly.coherent.isVacant
  have samePool : after.focus.pool = state.focus.pool :=
    orderly.changes.stays.pool
  have before : (state.host.pool state.focus.pool).IsConsistent :=
    coherent.sound.frames
  have consistent : (after.host.pool after.focus.pool).IsConsistent :=
    orderly.coherent.sound.frames
  have total := orderly.changes.parts.shape.total
  change (after.host.pool after.focus.pool).total =
    (state.host.pool state.focus.pool).total at total
  rw [samePool] at consistent total
  have lent : (after.host.pool state.focus.pool).lentFrames =
      (state.host.pool state.focus.pool).lentFrames \
        state.focus.framesOf.toFinset := by
    ext frame
    rw [Finset.mem_sdiff, FramePool.mem_lentFrames, FramePool.mem_lentFrames,
      List.mem_toFinset, mem_framesOf_iff, ← exists_and_right]
    refine exists_congr fun contents => ?_
    have same := orderly.changes.parts.unowned frame contents
    rw [vacant.unowned_iff] at same
    simp only [pager, samePool] at same
    exact same.trans unowned_iff_not_isIn
  have own : state.focus.framesOf.toFinset ⊆
      (state.host.pool state.focus.pool).lentFrames := by
    intro frame member
    obtain ⟨address, isValid, rfl⟩ :=
      mem_framesOf_iff.mp (List.mem_toFinset.mp member)
    exact FramePool.mem_lentFrames.mpr
      (coherent.sound.framed address isValid)
  have card := Finset.card_sdiff_of_subset own
  have le := Finset.card_le_card own
  rw [← lent, List.toFinset_card_of_nodup coherent.nodup_framesOf,
    length_framesOf] at card
  rw [List.toFinset_card_of_nodup coherent.nodup_framesOf,
    length_framesOf] at le
  have wholeBefore := before.freeCount_add_card
  have wholeAfter := consistent.freeCount_add_card
  omega

end AddressSpace

end DemandPaging
