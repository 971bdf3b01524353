import DemandPaging.Proofs.AddressSpace.Growth
import DemandPaging.Proofs.Mapping.Removal
import DemandPaging.Proofs.Mapping.Tracking

/-!
# A page that is added, or not

To add a page takes a frame that is set aside (`Pager.SetsAside`), an entry for
it (`Mounts`) and, last, a place in the ledger.  Only a page that is in memory
already is in the way of the entry.  Where the page has no place so far, either
it is added or all is as it was.  A page that is in swap has one: it is never
added, and where it is refused before this shows, its own leaf is cleared with
the entry that was meant to replace it (`Mounts.meets_withdraw`).
-/

namespace DemandPaging

variable {page frame : Nat} {flags : Flags}

/-- A page is mapped if it is not in memory, or nothing is changed for want of a
table. -/
theorem PageTable.meets_map {table : PageTable} {fatal : Fatal → Prop}
    (aligned : Address.pageBase page = page)
    (misplaced : (page < addressLimit → (table.entryAt page).isValid = true) →
      ∀ cause, fatal cause) :
    ((map page frame pageSize flags).run table).Meets fatal
      (fun _ after => page < addressLimit ∧
        (table.entryAt page).isValid = false ∧
        after.budget = table.budget ∧
        ∀ other, after.entryAt other =
          if Address.pageBase other = page then
            Entry.point frame { flags with valid := true }
          else table.entryAt other)
      (fun error after => error = .outOfMemory ∧ table.budget ≠ none ∧
        after = table) := by
  rcases Nat.lt_or_ge page addressLimit with inside | outside
  case inr =>
    obtain ⟨_, ended⟩ :=
      run_map_pageSize_of_le table frame flags aligned outside
    rw [ended]
    exact misplaced (fun inside => absurd inside (Nat.not_lt.mpr outside)) _
  cases isValid : (table.entryAt page).isValid with
  | false =>
      obtain ⟨refused, budget⟩ | ⟨_, done, entries, budget⟩ :=
        run_map_pageSize frame flags aligned inside isValid
      · rw [refused]
        exact ⟨rfl, budget, rfl⟩
      · rw [done]
        exact ⟨inside, rfl, budget, entries⟩
  | true =>
      have fits : page + pageSize < Word.limit := by
        simp only [pageSize, addressLimit, Word.limit] at *
        omega
      rw [run_map_pageSize_eq aligned fits, mapPage]
      obtain ⟨_, isEmpty, _⟩ | ⟨_, found, _⟩ := table.walk_of_lt inside
      · rw [isEmpty] at isValid
        cases isValid
      · rw [Action.run_bind_of_done (Action.run_step_of_ok found)]
        simp only [isValid]
        exact misplaced (fun _ => isValid) _

namespace Pager

variable {pager : Pager} {frames : FramePool} {contents : Page}

/-- The pool `frames` has lent the frame `taken`, with `contents` in it, and no
page of the space is in it. -/
structure SetsAside (pager : Pager) (taken : Nat) (contents : Page)
    (frames : FramePool) : Prop where
  held : pager.HeldBy frames
  lent : frames.contents? taken = some contents
  unowned : ∀ address, (pager.entryAt address).isValid = true →
    (pager.entryAt address).address ≠ taken

theorem Houses.setsAside (houses : pager.Houses)
    (lent : pager.frames.allocate = (some frame, frames)) :
    pager.SetsAside frame (Page.filled FramePool.lentJunk) frames := by
  obtain ⟨fresh, shown⟩ := FramePool.contents?_allocate houses.frames lent
  have unowned : ∀ address, (pager.entryAt address).isValid = true →
      (pager.entryAt address).address ≠ frame := by
    intro address isValid same
    obtain ⟨contents, held⟩ := houses.framed address isValid
    rw [same, fresh] at held
    cases held
  exact {
    held :=
      { total := FramePool.total_of_allocate lent
        isConsistent := houses.frames.allocate lent
        owned := fun address isValid =>
          (shown _).trans (if_neg (unowned address isValid)) }
    lent := (shown frame).trans (if_pos rfl)
    unowned := unowned }

namespace SetsAside

variable (aside : pager.SetsAside frame contents frames)

include aside

theorem write (bytes : List UInt8) :
    ∃ after, frames.write frame bytes = .ok after ∧
      pager.SetsAside frame (contents.overwrite 0 bytes) after := by
  obtain ⟨after, success, shown⟩ :=
    FramePool.write_of_contents? aside.lent bytes
  refine ⟨after, success, ?_, (shown frame).trans (if_pos rfl),
    aside.unowned⟩
  exact {
    total := (FramePool.total_of_write success).trans aside.held.total
    isConsistent := aside.held.isConsistent.write success
    owned := fun address isValid =>
      (shown _).trans ((if_neg (aside.unowned address isValid)).trans
        (aside.held.owned address isValid)) }

theorem release :
    ∃ after, frames.release frame = .ok after ∧ pager.HeldBy after := by
  obtain ⟨after, released, shown⟩ :=
    FramePool.release_of_contents? aside.lent
  refine ⟨after, released, ?_⟩
  exact {
    total := (FramePool.total_of_release released).trans aside.held.total
    isConsistent := aside.held.isConsistent.release released
    owned := fun address isValid =>
      (shown _).trans ((if_neg (aside.unowned address isValid)).trans
        (aside.held.owned address isValid)) }

theorem address_point (houses : pager.Houses) (flags : Flags) :
    (Entry.point frame flags).address = frame := by
  have total_le := houses.fits.total_le
  rw [← aside.held.total] at total_le
  obtain ⟨aligned, bounded⟩ :=
    FramePool.bounded_of_contents? total_le aside.lent
  rw [Entry.address_point bounded, aligned]

end SetsAside

end Pager

namespace AddressSpace

variable {origin state after : Hosted AddressSpace} {frames others : FramePool}
  {contents : Page} {table : PageTable}
  {fatal : Fatal → Prop} {done : Unit → Hosted AddressSpace → Prop}
  {failed : PagingError → Hosted AddressSpace → Prop}

/-- A frame is set aside and filled, or there is none. -/
theorem meets_borrow (housed : Housed state) (bytes : List UInt8)
    {next : Nat → SpaceAction Unit}
    (refused : (pager state).frames.freeCount = 0 →
      ∀ after, Resembles state after → failed .outOfMemory after)
    (rest : ∀ frame frames middle,
      frames.freeCount + 1 = (pager state).frames.freeCount →
        (pager state).SetsAside frame (Page.ofList bytes) frames →
          Resembles (withFrames state frames) middle →
            ((next frame).run middle).Meets fatal done failed) :
    (Action.run (do
      let frame ← takeFrame
      onFrames (Action.change fun pool => pool.clear frame)
      writeFrame frame bytes
      next frame) state).Meets fatal done failed := by
  refine Action.meets_bind ((resembles_takeFrame (.refl state)).mono_failed
    fun error after isFailed => ?_) ?_
  · obtain ⟨rfl, noneFree, unchanged⟩ := isFailed
    exact refused noneFree after unchanged
  rintro frame taken ⟨lent, allocates, takes⟩
  have aside := housed.houses.setsAside allocates
  -- Clearing a frame is writing zeros to it.
  obtain ⟨cleared, clears, asideCleared⟩ := aside.write Page.zero.toList
  obtain ⟨filled, fills, asideFilled⟩ := asideCleared.write bytes
  rw [Page.overwrite_zero, ← Page.ofList] at asideFilled
  have toLent : (withFrames state lent).host.pool state.focus.pool = lent :=
    pool_withFrames housed.served lent
  have toCleared :
      (withFrames state cleared).host.pool state.focus.pool = cleared :=
    pool_withFrames housed.served cleared
  refine Action.meets_bind (resembles_changeFrames takes
    ((congrArg (FramePool.write · frame Page.zero.toList) toLent).trans
      clears)) fun _ _ clearing => ?_
  rw [withFrames_withFrames] at clearing
  refine Action.meets_bind (resembles_changeFrames clearing
    ((congrArg (FramePool.write · frame bytes) toCleared).trans fills))
    fun _ middle filling => ?_
  rw [withFrames_withFrames] at filling
  have oneLess : filled.freeCount + 1 = (pager state).frames.freeCount := by
    rw [FramePool.freeCount_of_write fills,
      FramePool.freeCount_of_write clears]
    exact FramePool.freeCount_of_allocate allocates
  exact rest frame filled middle oneLess asideFilled filling

/-- With the page table `table`, the page at `page`, which was not in memory, is
in the frame `frame`, which was set aside. -/
structure Mounts (origin : Hosted AddressSpace) (page frame : Nat)
    (flags : Flags) (contents : Page) (frames : FramePool)
    (table : PageTable) : Prop where
  aligned : Address.pageBase page = page
  inside : page < addressLimit
  notValid : ((pager origin).entryAt page).isValid = false
  aside : (pager origin).SetsAside frame contents frames
  pointed : (Entry.point frame { flags with valid := true }).address = frame
  entryAt : ∀ address, table.entryAt address =
    if Address.pageBase address = page then
      Entry.point frame { flags with valid := true }
    else (pager origin).entryAt address

/-- The space with another page table and other frames. -/
abbrev mounted (origin : Hosted AddressSpace) (frames : FramePool)
    (table : PageTable) : Hosted AddressSpace :=
  withTable (withFrames origin frames) table

theorem pager_mounted (served : IsServed origin) (frames : FramePool)
    (table : PageTable) :
    pager (mounted origin frames table) =
      { pager origin with table, frames } := by
  have parts := pager_withFrames served frames
  change ({ pager (withFrames origin frames) with table } : Pager) = _
  rw [parts]

theorem frames_mounted (served : IsServed origin) (frames : FramePool)
    (table : PageTable) :
    (pager (mounted origin frames table)).frames = frames :=
  congrArg Pager.frames (pager_mounted served frames table)

/-- The entry is set, or nothing is changed. -/
theorem resembles_map (housed : Housed origin)
    (aside : (pager origin).SetsAside frame contents frames)
    (same : Resembles (withFrames origin frames) state)
    (aligned : Address.pageBase page = page)
    (misplaced : (page < addressLimit →
      ((pager origin).entryAt page).isValid = true) →
        ∀ cause, fatal cause) :
    ((onTable (PageTable.map page frame pageSize flags)).run state).Meets
      fatal
      (fun _ after => ∃ table, table.budget = origin.focus.table.budget ∧
        Mounts origin page frame flags contents frames table ∧
        Resembles (mounted origin frames table) after)
      (fun error after => error = .outOfMemory ∧
        origin.focus.table.budget ≠ none ∧
        Resembles (withFrames origin frames) after) := by
  have sameTable : state.focus.table = (pager origin).table := by
    rw [same.focus]
    rfl
  refine Action.meets_zoom_iff.mpr ((PageTable.meets_map aligned ?_).mono
    (fun _ table mapped => ?_) fun _ table unchanged => ?_)
  · rw [sameTable]
    exact misplaced
  · obtain ⟨inside, notValid, budget, entryAt⟩ := mapped
    rw [sameTable] at notValid budget
    simp only [sameTable] at entryAt
    refine ⟨table, budget, ⟨aligned, inside, notValid, aside,
      aside.address_point housed.houses _, entryAt⟩, ?_, same.pools⟩
    dsimp only
    rw [same.focus]
    rfl
  · obtain ⟨isExhausted, budget, rfl⟩ := unchanged
    rw [sameTable] at budget
    exact ⟨isExhausted, budget, same⟩

/-- A page is mapped to the frame that was set aside, or the frame goes back. -/
theorem meets_place_of_setsAside (housed : Housed origin)
    (aside : (pager origin).SetsAside frame contents frames)
    (same : Resembles (withFrames origin frames) state)
    (aligned : Address.pageBase page = page)
    (misplaced : (page < addressLimit →
      ((pager origin).entryAt page).isValid = true) →
        ∀ cause, fatal cause) :
    ((place page frame flags).run state).Meets fatal
      (fun _ after => ∃ table, table.budget = origin.focus.table.budget ∧
        Mounts origin page frame flags contents frames table ∧
        Resembles (mounted origin frames table) after)
      (fun error after => error = .outOfMemory ∧
        origin.focus.table.budget ≠ none ∧
        ∃ back, back.freeCount = frames.freeCount + 1 ∧
          (pager origin).HeldBy back ∧
          Resembles (withFrames origin back) after) := by
  refine Action.meets_onFailure
    (resembles_map housed aside same aligned misplaced) ?_
  rintro _ middle ⟨isExhausted, budget, unplaced⟩
  obtain ⟨back, released, held⟩ := aside.release
  have holder := pool_withFrames housed.served frames
  refine (resembles_changeFrames unplaced
    ((congrArg (FramePool.release · frame) holder).trans released)).mono_done
    fun _ after returned => ?_
  rw [withFrames_withFrames] at returned
  exact ⟨isExhausted, budget, back, FramePool.freeCount_of_release released,
    held, returned⟩

/-- A page may be refused because the ledger is full, or because the page that
was to leave for it could not be written. -/
def IsRefusal (error : PagingError) : Prop :=
  (∃ capacity, error = .tooManyPages capacity) ∨
    ∃ failure, error = .swapTransfer failure

theorem IsRefusal.ne_outOfMemory {error : PagingError}
    (refusal : IsRefusal error) : error ≠ .outOfMemory := by
  rintro rfl
  obtain ⟨_, isFull⟩ | ⟨_, isTransfer⟩ := refusal
  · cases isFull
  · cases isTransfer

/-- The page at `page`, if it is in swap. -/
def inSwap? (state : Hosted AddressSpace) (page : Nat) : Option Nat :=
  if ((pager state).entryAt page).isPagedOut then some page else none

/-- The entry of the page at `page`, if it is in swap. -/
def leafOf (state : Hosted AddressSpace) (page : Nat) : Entry :=
  if ((pager state).entryAt page).isPagedOut then (pager state).entryAt page
  else Entry.empty

theorem alike_leafOf
    (notValid : ((pager state).entryAt page).isValid = false) :
    ((pager state).entryAt page).Alike (leafOf state page) := by
  rw [leafOf]
  by_cases isPagedOut : ((pager state).entryAt page).isPagedOut = true
  · rw [if_pos isPagedOut]
    exact (Entry.SameButMarks.refl _).alike
  · rw [if_neg isPagedOut]
    refine .of_absent ?_ rfl
    rw [Bool.not_eq_true] at isPagedOut
    rw [Entry.isPresent, notValid, isPagedOut]
    rfl

/-- Where an entry is cleared, its leaf is missing if the page was in swap. -/
theorem lacks_of_cleared (aligned : Address.pageBase page = page)
    (isPresent : ((pager state).entryAt page).isPresent = true)
    (cleared : (pager after).table =
      (pager state).table.update page fun _ => Entry.empty) :
    Lacks after ((pager state).table.update page fun _ => leafOf origin page)
      (inSwap? origin page) := by
  intro address
  have empties := Pager.entryAt_updated (fun _ => Entry.empty) aligned
    isPresent address
  have restores := Pager.entryAt_updated (fun _ => leafOf origin page) aligned
    isPresent address
  rw [Pager.entryAt, cleared, empties, restores, inSwap?, leafOf]
  by_cases here : Address.pageBase address = page
  · by_cases isPagedOut : ((pager origin).entryAt page).isPagedOut = true
    · rw [if_pos here, if_pos isPagedOut, if_pos (congrArg some here.symm)]
    · rw [if_pos here, if_pos here, if_neg isPagedOut, if_neg isPagedOut,
        ite_self]
  · rw [if_neg here, if_neg here, if_neg]
    intro isLost
    split at isLost
    · exact here (Option.some.inj isLost).symm
    · cases isLost

namespace Mounts

section Houses

variable (mounts : Mounts origin page frame flags contents frames table)
  (housed : Housed origin)

include mounts housed

omit housed in
theorem shape (served : IsServed origin) :
    (pager origin).SameShape (pager (mounted origin frames table)) := by
  rw [pager_mounted served]
  exact ⟨rfl, rfl, rfl, rfl, rfl, mounts.aside.held.total⟩

theorem retains_withFrames :
    (pager origin).Retains (pager (withFrames origin frames)) := by
  rw [pager_withFrames housed.served]
  exact mounts.aside.held.retains housed.ledger

omit housed in
theorem rewrites :
    (pager (withFrames origin frames)).Rewrites
      (pager (mounted origin frames table)) page
      (Entry.point frame { flags with valid := true }) where
  aligned := mounts.aligned
  entryAt := mounts.entryAt
  ledger := rfl
  swap := rfl

theorem contents?_frame :
    (pager (mounted origin frames table)).frames.contents? frame =
      some contents := by
  rw [frames_mounted housed.served]
  exact mounts.aside.lent

theorem houses (isRead : flags.read = true) :
    (pager (mounted origin frames table)).Houses := by
  have houses := (mounts.retains_withFrames housed).houses housed.houses
  have entry := mounts.rewrites.entryAt_page
  refine houses.of_preserves (mounts.rewrites.preserves rfl)
    ⟨rfl, rfl, rfl, rfl, rfl, rfl⟩ houses.swap houses.frames ?_
  exact {
    page_lt := fun _ => mounts.inside
    readable := by
      rw [entry]
      exact fun _ => isRead
    framed := by
      intro _
      rw [entry, mounts.pointed]
      exact ⟨contents, mounts.contents?_frame housed⟩
    frame_new := by
      intro _ address _ isValid
      rw [entry, mounts.pointed]
      exact mounts.aside.unowned address isValid }

end Houses

variable (mounts : Mounts origin page frame flags contents frames table)
  (formed : NearlyFormed none origin)

include mounts formed

/-- A page that was not there is mapped, and pending. -/
theorem nearlyFormed
    (notPagedOut : ((pager origin).entryAt page).isPagedOut = false)
    (isRead : flags.read = true) (isClear : flags.pagedOut = false) :
    NearlyFormed (some page) (mounted origin frames table) := by
  have base := formed.of_retains (mounts.retains_withFrames formed.housed)
    (formed.served.withFrames frames)
  refine ⟨base.served, base.isPaging, base.ledger, ?_,
    mounts.houses formed.housed isRead⟩
  refine base.nearly.of_rewrites base.ledger mounts.rewrites
    (fun _ => isClear) (fun _ notPending => absurd rfl notPending)
    (fun _ => rfl) (fun isPagedOut => ?_) (fun slot held => ?_)
    fun _ _ _ => nofun
  · cases isClear.symm.trans isPagedOut
  · have isPagedOut := (base.nearly.isPagedOut_of_swapped base.ledger held).2
    cases notPagedOut.symm.trans isPagedOut

/-- The page that is mapped is all that is new. -/
theorem view? :
    AddressSpace.view? (mounted origin frames table) =
      patch (AddressSpace.view? origin) page (page + pageSize)
        (some ⟨flags.permissions, some contents.toList⟩) := by
  have retains := mounts.retains_withFrames formed.housed
  have entry := mounts.rewrites.entryAt_page
  funext address
  rw [patch]
  simp only [← Pager.mem_page_iff mounts.aligned]
  change (pager (mounted origin frames table)).view? address = _
  by_cases here : Address.pageBase address = page
  · have isValid : ((pager (mounted origin frames table)).entryAt
        page).isValid = true := by
      rw [entry]
      rfl
    rw [if_pos here, Pager.view?, here, Pager.entryAt_of_pageBase_eq here,
      if_pos (Pager.isPresent_of_isValid isValid), Pager.bytesAt?,
      if_pos isValid, entry, mounts.pointed,
      mounts.contents?_frame formed.housed]
    rfl
  · rw [if_neg here, (mounts.rewrites.preserves rfl).view? formed.ledger here,
      retains.view?]
    rfl

omit formed in
theorem entryAt_of_ne {address : Nat}
    (elsewhere : Address.pageBase address ≠ page) :
    (pager (mounted origin frames table)).entryAt address =
      (pager origin).entryAt address :=
  (mounts.entryAt address).trans (if_neg elsewhere)

/-- The frame goes back without harm to the frames of the space. -/
theorem heldBy_restored {back : FramePool}
    (retains : (pager (mounted origin frames table)).Retains (pager state))
    (released : (pager state).frames.release frame = .ok back) :
    (pager origin).HeldBy back where
  total := by
    have total := retains.shape.total
    rw [frames_mounted formed.served] at total
    exact (FramePool.total_of_release released).trans
      (total.trans mounts.aside.held.total)
  isConsistent := retains.held.isConsistent.release released
  owned address isValid := by
    have elsewhere : Address.pageBase address ≠ page := by
      intro here
      rw [Pager.entryAt_of_pageBase_eq here] at isValid
      cases mounts.notValid.symm.trans isValid
    have sameEntry := mounts.entryAt_of_ne elsewhere
    have owned := retains.held.owned address (by rwa [sameEntry])
    rw [sameEntry, frames_mounted formed.served] at owned
    rw [FramePool.contents?_of_release released,
      if_neg (mounts.aside.unowned address isValid), owned]
    exact mounts.aside.held.owned address isValid

/-- If the page is taken back and its leaf is put back if it had one, nothing is
lost. -/
theorem retains_restored {back : FramePool}
    (retains : (pager (mounted origin frames table)).Retains (pager state))
    (released : (pager state).frames.release frame = .ok back) :
    (pager origin).Retains { pager state with
      table := (pager state).table.update page fun _ => leafOf origin page
      frames := back } := by
  have isValid : ((pager state).entryAt page).isValid = true := by
    rw [(retains.alike page).isValid, mounts.rewrites.entryAt_page]
    rfl
  have entries := Pager.entryAt_updated (fun _ => leafOf origin page)
    mounts.aligned (Pager.isPresent_of_isValid isValid)
  exact {
    shape := ((mounts.shape formed.served).trans retains.shape).trans
      ⟨rfl, rfl, rfl, rfl, rfl, FramePool.total_of_release released⟩
    alike := by
      intro address
      change Entry.Alike _ (((pager state).table.update page _).entryAt _)
      rw [entries]
      by_cases here : Address.pageBase address = page
      · rw [if_pos here, Pager.entryAt_of_pageBase_eq here]
        exact alike_leafOf mounts.notValid
      · rw [if_neg here, ← mounts.entryAt_of_ne here]
        exact retains.alike address
    ledger := retains.ledger
    residentCount := retains.residentCount
    residenceOf? := retains.residenceOf?
    swap := retains.swap
    held := mounts.heldBy_restored formed retains released }

/-- A page that was mapped and then refused is taken back: its entry is cleared
and its frame given up. -/
theorem withdraws {fatal : Fatal → Prop}
    (retains : (pager (mounted origin frames table)).Retains (pager state))
    (served : IsServed state) :
    ((withdraw page frame).run state).Meets fatal
      (fun _ after => ∃ back,
        (pager state).frames.release frame = .ok back ∧
        Becomes state { pager state with
          table := (pager state).table.update page fun _ => Entry.empty
          frames := back } after) failed := by
  have lent : (pager state).frames.contents? frame = some contents := by
    have owned := retains.held.owned page
      (by rw [mounts.rewrites.entryAt_page]; rfl)
    rw [mounts.rewrites.entryAt_page, mounts.pointed,
      mounts.contents?_frame formed.housed] at owned
    exact owned
  obtain ⟨back, released, _⟩ := FramePool.release_of_contents? lent
  rw [withdraw]
  refine Action.meets_bind (meets_updateEntry _) fun _ updated updates => ?_
  have releases : (pager updated).frames.release frame = .ok back := by
    rw [updates.parts]
    exact released
  refine (meets_changeFrames (served.of_stays updates.stays) releases).mono_done
    fun _ after freed => ?_
  have whole := updates.trans freed
  rw [updates.parts] at whole
  exact ⟨back, released, whole⟩

/-- If the page was in swap, its leaf is gone. -/
theorem meets_withdraw {fatal : Fatal → Prop}
    (retains : (pager (mounted origin frames table)).Retains (pager state))
    (served : IsServed state) :
    ((withdraw page frame).run state).Meets fatal
      (fun _ after => ∃ restored, Shown (AddressSpace.view? origin)
        (inSwap? origin page) restored after) failed := by
  have alike := retains.alike page
  rw [mounts.rewrites.entryAt_page] at alike
  have isPresent : ((pager state).entryAt page).isPresent = true :=
    Pager.isPresent_of_isValid (alike.isValid.trans rfl)
  refine (mounts.withdraws formed retains served).mono_done ?_
  rintro _ after ⟨back, released, whole⟩
  have restores := mounts.retains_restored formed retains released
  have parts : pager (withTable after ((pager state).table.update page
      fun _ => leafOf origin page)) = { pager state with
        table := (pager state).table.update page fun _ => leafOf origin page
        frames := back } := by
    change ({ pager after with table := _ } : Pager) = _
    rw [whole.parts]
    rfl
  have servedAfter : IsServed after := served.of_stays whole.stays
  rw [← parts] at restores
  exact ⟨_, lacks_of_cleared mounts.aligned isPresent
    (congrArg Pager.table whole.parts),
    formed.of_retains restores servedAfter, restores.view?⟩

/-- A page that is mapped comes to be tracked if it was not in swap, or is
refused. -/
theorem meets_enroll (same : Resembles (mounted origin frames table) state)
    (isRead : flags.read = true) (isClear : flags.pagedOut = false) :
    ((enroll page).run state).Meets (fun _ => True)
      (fun _ after => ((pager origin).entryAt page).isPagedOut = false ∧
        NearlyFormed none after ∧
        AddressSpace.view? after =
          patch (AddressSpace.view? origin) page (page + pageSize)
            (some ⟨flags.permissions, some contents.toList⟩))
      (fun error after => IsRefusal error ∧ IsServed after ∧
        (pager (mounted origin frames table)).Retains (pager after)) := by
  have ledger : (mounted origin frames table).focus.ledger.IsConsistent :=
    formed.ledger
  have aligned : (mounted origin frames table).focus.ledger.IsAligned :=
    formed.isAligned
  have served : IsServed (mounted origin frames table) :=
    formed.served.withFrames frames
  have pool : (pager (mounted origin frames table)).frames.IsConsistent := by
    rw [pager_mounted formed.served]
    exact mounts.aside.held.isConsistent
  have isPaging : state.focus.isPaging = true := by
    rw [same.focus]
    exact formed.isPaging
  rw [enroll, Action.run_bind_of_done (run_look _),
    Action.runIf_of_pos isPaging]
  refine (resembles_track same).mono ?_ ?_
  · rintro _ after ⟨newcomer, tracked⟩
    have untracked := newcomer.residenceOf?_before ledger aligned
    have notPagedOut : ((pager origin).entryAt page).isPagedOut = false := by
      rw [← Bool.not_eq_true]
      intro isPagedOut
      obtain ⟨_, known⟩ := formed.nearly.residenceOf?_of_isPagedOut
        formed.ledger mounts.aligned isPagedOut
      cases untracked.symm.trans known
    have pending := mounts.nearlyFormed formed notPagedOut isRead isClear
    have settled := (newcomer.nearlyFormed pending
      mounts.aligned).of_resembles tracked
    refine ⟨notPagedOut, settled, ?_⟩
    rw [← mounts.view? formed, ← newcomer.view? pending mounts.aligned,
      ← tracked.view?]
  · rintro error after (⟨isFull, unchanged⟩ | ⟨candidate, failure, refused⟩)
    · refine ⟨.inl ⟨_, isFull⟩, served.of_resembles unchanged, ?_⟩
      rw [unchanged.pager]
      exact .refl ledger pool
    · have servedRefused : IsServed candidate.refused := served
      refine ⟨.inr failure, servedRefused.of_resembles refused, ?_⟩
      rw [refused.pager]
      exact candidate.retains ledger aligned pool

end Mounts

/-- The page at `page`, if its leaf goes when it is not added because of
`error`: it is in swap, and memory was not exhausted before. -/
def lost? (origin : Hosted AddressSpace) (page : Nat) (error : PagingError) :
    Option Nat :=
  if error = .outOfMemory then none else inSwap? origin page

/-- The page at `page` was not added, and at most its leaf is missing. -/
def Unwinds (origin : Hosted AddressSpace) (page : Nat) (error : PagingError)
    (after : Hosted AddressSpace) : Prop :=
  (error = .outOfMemory ∨ IsRefusal error) ∧
    ∃ table, Shown (view? origin) (lost? origin page error) table after

theorem NearlyFormed.unwinds (formed : NearlyFormed none after)
    (view : view? after = view? origin) :
    Unwinds origin page .outOfMemory after := by
  refine ⟨.inl rfl, after.focus.table, ?_⟩
  rw [lost?, if_pos rfl, ← view]
  exact formed.shown

/-- There are pages from `start` up to `stop` where there were none. -/
structure Gains (origin : Hosted AddressSpace) (start stop : Nat)
    (shown : PageView) (after : Hosted AddressSpace) : Prop where
  formed : NearlyFormed none after
  absent : ∀ address, start ≤ address → address < stop →
    view? origin address = none
  view : view? after = patch (view? origin) start stop (some shown)

theorem meets_install_of_setsAside (formed : NearlyFormed none origin)
    (aside : (pager origin).SetsAside frame contents frames)
    (same : Resembles (withFrames origin frames) state)
    (aligned : Address.pageBase page = page)
    (isRead : flags.read = true) (isClear : flags.pagedOut = false) :
    ((install page frame flags).run state).Meets (fun _ => True)
      (fun _ => Gains origin page (page + pageSize)
        ⟨flags.permissions, some contents.toList⟩)
      (Unwinds origin page) := by
  rw [install]
  refine Action.meets_bind ((meets_place_of_setsAside formed.housed aside same
    aligned fun _ _ => trivial).mono_failed
      fun _ _ unplaced => ?_) ?_
  · obtain ⟨rfl, _, back, _, held, returned⟩ := unplaced
    have parts := pager_withFrames formed.served back
    have retains :
        (pager origin).Retains (pager (withFrames origin back)) := by
      rw [parts]
      exact held.retains formed.ledger
    have settled := formed.of_retains retains (formed.served.withFrames back)
    exact (settled.of_resembles returned).unwinds
      (returned.view?.trans retains.view?)
  rintro _ placed ⟨table, _, mounts, places⟩
  refine Action.meets_onFailure ((mounts.meets_enroll formed places isRead
    isClear).mono_done fun _ _ enrolled => ?_) ?_
  · obtain ⟨notPagedOut, settled, view⟩ := enrolled
    refine ⟨settled, fun address low high => ?_, view⟩
    have here := (Pager.mem_page_iff aligned).mpr ⟨low, high⟩
    refine if_neg ?_
    rw [Pager.entryAt_of_pageBase_eq here, Entry.isPresent, mounts.notValid,
      notPagedOut]
    exact Bool.false_ne_true
  rintro error middle ⟨refusal, served, retains⟩
  refine (mounts.meets_withdraw formed retains served).mono_done
    fun _ after withdrawn => ?_
  obtain ⟨restored, shown⟩ := withdrawn
  refine ⟨.inr refusal, restored, ?_⟩
  rwa [lost?, if_neg refusal.ne_outOfMemory]

/-- A page that begins with `bytes` is added where there was none, or nothing
is. -/
theorem meets_addPage_of_nearlyFormed (formed : NearlyFormed none state)
    (bytes : List UInt8) (aligned : Address.pageBase page = page)
    (isRead : flags.read = true) (isClear : flags.pagedOut = false) :
    ((addPage page bytes flags).run state).Meets (fun _ => True)
      (fun _ => Gains state page (page + pageSize)
        ⟨flags.permissions, some (Page.ofList bytes).toList⟩)
      (Unwinds state page) := by
  rw [addPage]
  exact meets_borrow formed.housed bytes (fun _ after unchanged =>
      (formed.of_resembles unchanged).unwinds unchanged.view?)
    fun frame frames middle _ aside borrows =>
      meets_install_of_setsAside formed aside borrows aligned isRead isClear

end AddressSpace

end DemandPaging
