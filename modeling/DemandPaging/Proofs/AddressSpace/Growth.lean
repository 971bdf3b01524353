import DemandPaging.Proofs.AddressSpace.Residency
import DemandPaging.Proofs.AddressSpace.Unmapping

/-!
# Adding pages

A page that is added gets a frame, an entry and, under paging, a place in the
ledger.  Any of these may be refused, also after pages have been evicted to
make room, and then user code sees what it saw before.  A run of pages is added
as a whole or not at all.
-/

namespace DemandPaging

namespace AddressSpace

open Pager (Terms Keeps)

variable {origin state middle after : Hosted AddressSpace}
  {terms : Terms} {time : Nat} {page frame old new : Nat} {flags : Flags}
  {contents : Page} {memory : LogicalPage}
  {failed : PagingError → Hosted AddressSpace → Prop}

/-- A page that could not be tracked is taken back. -/
theorem meets_withdraw {fatal : Fatal → Prop}
    (ready : Ready terms time (some page) state)
    (adds : Changes origin (fun before after =>
      before.Adds after page (page + pageSize) memory) state)
    (absent : ∀ address, page ≤ address → address < page + pageSize →
      (pager origin).logicalPage? address = none)
    (aligned : Address.pageBase page = page)
    (isValid : ((pager state).entryAt page).isValid = true)
    (points : ((pager state).entryAt page).address = frame) :
    ((withdraw page frame).run state).Meets fatal
      (fun _ => Kept origin terms time none) failed := by
  have sound := ready.sound
  have onlyPending : ∀ other, other ≠ page → some page ≠ some other := by
    rintro other different ⟨⟩
    exact different rfl
  have forgets := Pager.forgets_of_untracked sound.ledger sound.swap aligned
    (Pager.isPresent_of_isValid isValid) (Pager.not_tracked_of_pending sound)
  have settled := ready.parts.forgets forgets onlyPending (Nat.le_refl _) rfl
  obtain ⟨frames, released, heldBy, clears⟩ :=
    forgets.release sound onlyPending isValid
  rw [points] at released
  rw [withdraw]
  refine Action.meets_bind (meets_updateEntry _) fun _ updated updates => ?_
  have served := ready.served.of_stays updates.stays
  have releases : (pager updated).frames.release frame = .ok frames := by
    rw [updates.parts]
    exact released
  refine (meets_changeFrames served releases).mono_done
    fun _ after frees => ?_
  · have whole := updates.trans frees
    rw [updates.parts] at whole
    exact ⟨ready.becomes whole (settled.withFrames heldBy),
      adds.becomes whole fun adds => adds.keeps_of_clears clears absent⟩

/-- A page that is not in memory is mapped alone, or not at all. -/
theorem meets_map (aligned : Address.pageBase page = page)
    (inside : terms.IsLax ∨ page < addressLimit)
    (notValid : ((pager state).entryAt page).isValid = false) :
    ((onTable (PageTable.map page frame pageSize flags)).run state).Meets
      terms.fatal
      (fun _ after => page < addressLimit ∧ ∃ table,
        (∀ other, table.entryAt other =
          if Address.pageBase other = page then
            Entry.point frame { flags with valid := true }
          else (pager state).entryAt other) ∧
        Becomes state { pager state with table } after)
      (fun _ => Becomes state (pager state)) := by
  have table : (pager state).table = state.focus.table := rfl
  rw [onTable, Action.run_zoom, ← table]
  cases Nat.lt_or_ge page addressLimit with
  | inl isInside =>
      cases PageTable.run_map_pageSize frame flags aligned isInside
        notValid with
      | inl refused =>
          rw [refused.1]
          exact ⟨⟨rfl, rfl, fun _ _ => rfl⟩, rfl⟩
      | inr success =>
          obtain ⟨mapped, done, entries, _⟩ := success
          rw [done]
          exact ⟨isInside, mapped, entries, ⟨rfl, rfl, fun _ _ => rfl⟩, rfl⟩
  | inr outside =>
      obtain ⟨cause, refused⟩ := PageTable.run_map_pageSize_of_le
        (pager state).table frame flags aligned outside
      rw [refused]
      cases inside with
      | inl lax => exact lax cause
      | inr isInside => exact absurd isInside (Nat.not_lt.mpr outside)

/-- The page at `page` is in the frame `frame`, and a space under paging does
not track it yet. -/
structure Placed (origin : Hosted AddressSpace) (terms : Terms) (time : Nat)
    (page frame : Nat) (flags : Flags) (memory : LogicalPage)
    (state : Hosted AddressSpace) : Prop where
  ready : Ready terms time (some page) state
  changes : Changes origin (fun before after =>
    before.Adds after page (page + pageSize) memory) state
  entry : (pager state).entryAt page =
    Entry.point frame { flags with valid := true }
  points : ((pager state).entryAt page).address = frame

theorem Placed.isValid
    (placed : Placed origin terms time page frame flags memory state) :
    ((pager state).entryAt page).isValid = true := by
  rw [placed.entry]
  rfl

/-- A page is mapped to a borrowed frame, or the frame goes back. -/
theorem meets_place
    (lent : Lent origin terms time none frame contents state)
    (aligned : Address.pageBase page = page)
    (absent : ((pager state).entryAt page).isPresent = false)
    (inside : terms.IsLax ∨ page < addressLimit)
    (accepted : terms.IsLax ∨ flags.read = true ∧ flags.pagedOut = false) :
    ((place page frame flags).run state).Meets terms.fatal
      (fun _ after => Placed origin terms time page frame flags
          ⟨contents.toList, flags.permissions⟩ after ∧
        ∃ table,
          (∀ other, table.entryAt other =
            if Address.pageBase other = page then
              Entry.point frame { flags with valid := true }
            else (pager state).entryAt other) ∧
          Becomes state { pager state with table } after)
      (fun _ => Kept origin terms time none) := by
  have ready := lent.ready
  have sound := ready.sound
  have borrows := lent.changes.parts
  have notValid : ((pager state).entryAt page).isValid = false :=
    (Bool.or_eq_false_iff.mp absent).1
  refine Action.meets_onFailure ((meets_map aligned inside notValid).mono_done
    fun _ mapped done => ?_)
    fun _ middle becomes => (meets_releaseFrame (lent.unchanged becomes)).mono_done
      fun _ _ done => done.1
  obtain ⟨isInside, table, entries, becomes⟩ := done
  have moves : (pager state).Maps { pager state with table } page frame
      flags :=
    { shape := ⟨rfl, rfl, rfl, rfl, rfl, rfl⟩
      ledger := rfl
      swap := rfl
      frames := rfl
      aligned := aligned
      page_lt := isInside
      absent := absent
      isUnowned := ⟨contents, borrows.lent⟩
      pointed := sound.address_point borrows.lent
      entryAt := entries }
  have entry : (pager mapped).entryAt page =
      Entry.point frame { flags with valid := true } := by
    rw [becomes.parts]
    exact moves.entryAt_page
  refine ⟨⟨ready.becomes becomes (ready.parts.maps moves accepted),
    lent.changes.becomes becomes fun _ => moves.adds sound borrows, entry, ?_⟩,
    table, entries, becomes⟩
  rw [entry]
  exact moves.pointed _

/-- A page is mapped to a borrowed frame and tracked, or the frame goes
back. -/
theorem meets_install
    (lent : Lent origin terms
      (time + ((pager state).turns + 1)) none frame contents state)
    (aligned : Address.pageBase page = page)
    (absent : ((pager state).entryAt page).isPresent = false)
    (inside : terms.IsLax ∨ page < addressLimit)
    (accepted : terms.IsLax ∨ flags.read = true ∧ flags.pagedOut = false) :
    ((install page frame flags).run state).Meets terms.fatal
      (fun _ after => Left origin (fun before after =>
          before.Adds after page (page + pageSize)
            ⟨contents.toList, flags.permissions⟩) terms time after ∧
        ((pager state).isPaging = false → ∀ other,
          (pager after).entryAt other =
            if Address.pageBase other = page then
              Entry.point frame { flags with valid := true }
            else (pager state).entryAt other))
      (fun _ => Kept origin terms time none) := by
  rw [install]
  refine Action.meets_bind ((meets_place lent aligned absent inside
    accepted).mono_failed
      fun _ _ kept => kept.weaken (Nat.le_add_right _ _)) ?_
  rintro _ mapped ⟨placed, table, entries, becomes⟩
  have sameCeiling : (pager mapped).turns = (pager state).turns := by
    rw [becomes.parts]
    rfl
  have readyMapped := placed.ready
  rw [← sameCeiling] at readyMapped
  refine Action.meets_onFailure ((meets_enroll readyMapped placed.isValid
    aligned).mono_done fun _ after done => ?_) ?_
  · obtain ⟨kept, unmoved⟩ := done
    refine ⟨⟨kept.ready, placed.changes.trans kept.changes fun adds keeps =>
      adds.keeps_trans keeps⟩, fun notPaging other => ?_⟩
    rw [← entries other, unmoved (by rw [becomes.parts]; exact notPaging),
      becomes.parts]
    rfl
  rintro _ after ⟨kept, marks⟩
  have toAfter : Changes origin (fun before after =>
      before.Adds after page (page + pageSize)
        ⟨contents.toList, flags.permissions⟩) after :=
    placed.changes.trans kept.changes fun adds keeps =>
      adds.keeps_trans keeps
  refine (meets_withdraw kept.ready toAfter ?_ aligned
    (marks.isValid.trans placed.isValid) ?_).mono (fun _ _ kept => kept)
      fun _ _ kept => kept
  · intro address low high
    have here := (Pager.mem_page_iff aligned).mpr ⟨low, high⟩
    have missing := lent.ready.sound.isSome_logicalPage? address
    rw [Pager.entryAt_of_pageBase_eq here, absent,
      lent.changes.parts.logicalPage?] at missing
    refine Option.not_isSome_iff_eq_none.mp ?_
    rw [missing]
    exact Bool.false_ne_true
  · exact marks.address.trans placed.points

/-- What user code sees of a page that begins with `bytes`. -/
def newPage (bytes : List UInt8) (flags : Flags) : LogicalPage :=
  ⟨(Page.ofList bytes).toList, flags.permissions⟩

/-- A page is added, or nothing is. -/
theorem meets_addPage (bytes : List UInt8)
    (ready : Ready terms (time + ((pager state).turns + 1)) none
      state)
    (aligned : Address.pageBase page = page)
    (absent : (pager state).logicalPage? page = none)
    (inside : terms.IsLax ∨ page < addressLimit)
    (accepted : terms.IsLax ∨ flags.read = true ∧ flags.pagedOut = false) :
    ((addPage page bytes flags).run state).Meets terms.fatal
      (fun _ => Left state (fun before after => before.Adds after page
        (page + pageSize) (newPage bytes flags)) terms time)
      (fun _ => Kept state terms time none) := by
  rw [addPage]
  refine Action.meets_bind ((meets_takeFrame ready).mono_failed
    fun _ _ kept => kept.weaken (Nat.le_add_right _ _)) ?_
  rintro frame taken ⟨lent, _, takes⟩
  -- Clearing a frame is writing zeros to it.
  refine Action.meets_bind (meets_writeFrame lent Page.zero.toList) ?_
  rintro _ cleared ⟨lentCleared, _, clears⟩
  refine Action.meets_bind (meets_writeFrame lentCleared bytes) ?_
  rintro _ written ⟨lentWritten, _, writes⟩
  rw [Page.overwrite_zero, ← Page.ofList] at lentWritten
  have parts : (pager written).table = (pager state).table ∧
      (pager written).turns = (pager state).turns := by
    rw [writes.parts, clears.parts, takes.parts]
    exact ⟨rfl, rfl⟩
  have notPresent : ((pager written).entryAt page).isPresent = false := by
    have missing := ready.sound.isSome_logicalPage? page
    rw [absent] at missing
    rw [Pager.entryAt, parts.1]
    exact missing.symm
  rw [← parts.2] at lentWritten
  exact (meets_install lentWritten aligned notPresent inside accepted).mono_done
    fun _ _ installed => installed.1

/-- A run of pages is added behind those that were added since `origin`, or all
of them are taken away again. -/
theorem meets_addRun {start : Nat} (count : Nat)
    (left : Left origin (fun before after =>
      before.Adds after start page (newPage [] flags)) terms
      (time + count * ((pager origin).turns + 1)) state)
    (begins : start = Address.pageCeil old) (le : start ≤ page)
    (aligned : Address.pageBase page = page)
    (absent : ∀ address, start ≤ address →
      address < page + count * pageSize →
        (pager origin).logicalPage? address = none)
    (inside : terms.IsLax ∨ page + count * pageSize ≤ addressLimit)
    (accepted : terms.IsLax ∨ flags.read = true ∧ flags.pagedOut = false) :
    ((addRun flags old page count).run state).Meets terms.fatal
      (fun _ => Left origin (fun before after => before.Adds after start
        (page + count * pageSize) (newPage [] flags)) terms time)
      (fun _ => Kept origin terms time none) := by
  induction count generalizing state page with
  | zero =>
      have whole : page + 0 * pageSize = page := by omega
      rw [whole]
      refine ⟨⟨left.ready.served, ?_⟩, left.changes⟩
      exact left.ready.parts.weaken (Nat.le_add_right _ _)
  | succ count ih =>
      have ready := left.ready
      have sameCeiling := left.changes.parts.shape.turns
      have more : time + (count + 1) * ((pager origin).turns + 1) =
          time + count * ((pager origin).turns + 1) +
            ((pager state).turns + 1) := by
        rw [sameCeiling, Nat.succ_mul, Nat.add_assoc]
      have further := Address.add_succ_mul_pageSize page count
      have next := Address.pageBase_next aligned
      rw [further] at absent inside ⊢
      rw [more] at ready
      have notThere : (pager state).logicalPage? page = none := by
        rw [left.changes.parts.logicalPage?, if_neg (by omega)]
        exact absent page le (by simp only [pageSize]; omega)
      have pageInside : terms.IsLax ∨ page < addressLimit :=
        inside.imp_right fun fits => by
          simp only [pageSize] at fits
          omega
      rw [addRun]
      refine Action.meets_bind (Action.meets_onFailure (meets_addPage [] ready
        aligned notThere pageInside accepted) fun _ middle kept => ?_) ?_
      · -- The pages that were added before the one that failed go again.
        have toMiddle : Changes origin (fun before after =>
            before.Adds after start page (newPage [] flags)) middle :=
          left.changes.trans kept.changes
            fun adds keeps => adds.keeps_trans keeps
        have boundary : Address.pageCeil page = page :=
          Address.pageCeil_eq_self_iff.mpr
            (Address.pageBase_eq_self_iff.mp aligned)
        have bounded : terms.IsLax ∨ page ≤ addressLimit :=
          pageInside.imp_right Nat.le_of_lt
        have areThere : AreThere middle (Address.pageCeil old)
            (Address.pageCeil page) := by
          intro address low high
          rw [toMiddle.parts.logicalPage?, if_pos (by omega)]
          rfl
        refine Action.meets_bind (meets_shrink kept.ready bounded
          (.inr areThere)) ?_
        rintro _ after ⟨_, shrunk⟩
        refine ⟨shrunk.ready.weaken (Nat.le_add_right _ _), ?_⟩
        refine toMiddle.trans shrunk.changes fun adds clears => ?_
        rw [← begins, boundary] at clears
        exact adds.keeps_of_clears clears fun address low high =>
          absent address low (by simp only [pageSize]; omega)
      rintro _ middle added
      refine ih ⟨added.ready, ?_⟩ (by simp only [pageSize]; omega) next absent
        inside
      exact left.changes.trans added.changes fun first second =>
        first.trans second le (Nat.le_add_right _ _)

/-- The flags of the pages that memory grows by. -/
def grownFlags (permissions : Flags) : Flags :=
  permissions.union { read := true, user := true }

/-- How many pages memory grows by. -/
def grownPages (old new : Nat) : Nat :=
  (new - Address.pageCeil old + (pageSize - 1)) / pageSize

theorem pageCeil_add_grownPages (le : old ≤ new) :
    Address.pageCeil old + grownPages old new * pageSize =
      Address.pageCeil new := by
  simp only [Address.pageCeil, grownPages, pageSize]
  omega

/-- Memory that grows has zeroed pages up to its new end, or is as it was. -/
theorem meets_grow {permissions : Flags}
    (ready : Ready terms (time + grownPages old new *
      ((pager state).turns + 1)) none state)
    (absent : ∀ address, Address.pageCeil old ≤ address →
      address < Address.pageCeil new →
        (pager state).logicalPage? address = none)
    (inside : terms.IsLax ∨ new ≤ addressLimit)
    (accepted : terms.IsLax ∨ permissions.pagedOut = false) :
    ((grow old new permissions).run state).Meets terms.fatal
      (fun size after => size = max old new ∧
        Left state (fun before after => before.Adds after
          (Address.pageCeil old) (Address.pageCeil new)
          (newPage [] (grownFlags permissions))) terms time after)
      (fun _ => Kept state terms time none) := by
  rw [grow]
  by_cases isSmaller : new < old
  · rw [if_pos isSmaller]
    refine ⟨(Nat.max_eq_left (Nat.le_of_lt isSmaller)).symm,
      ready.weaken (Nat.le_add_right _ _), .refl state, ?_⟩
    exact .of_keeps (.refl _) (Address.pageCeil_mono (Nat.le_of_lt isSmaller))
  · have le : old ≤ new := Nat.le_of_not_lt isSmaller
    have whole := pageCeil_add_grownPages le
    rw [if_neg isSmaller, Action.liftM_eq_ofExcept]
    rcases roundUp_of_bounded (inside.imp_right (Nat.le_trans le)) with
      rounds | ⟨refused, ends⟩
    · rw [rounds, Action.run_bind_of_done (Action.run_ofExcept_ok _ _)]
      have limit : terms.IsLax ∨ Address.pageCeil old +
          grownPages old new * pageSize ≤ addressLimit := by
        refine inside.imp_right fun inside => ?_
        rw [whole]
        simp only [Address.pageCeil, pageSize, addressLimit] at *
        omega
      have flagged : terms.IsLax ∨ (grownFlags permissions).read = true ∧
          (grownFlags permissions).pagedOut = false := by
        refine accepted.imp_right fun notPagedOut => ⟨?_, ?_⟩
        · simp [grownFlags, Flags.union]
        · simp [grownFlags, Flags.union, notPagedOut]
      rw [← whole] at absent ⊢
      have adds := meets_addRun (grownPages old new)
        ⟨ready, .refl state, .of_keeps (.refl _) (Nat.le_refl _)⟩ rfl
        (Nat.le_refl _) (Address.pageBase_eq_self_iff.mpr
          (Address.isPageAligned_pageCeil old)) absent limit flagged
      refine Action.meets_bind adds fun _ after left => ?_
      exact ⟨(Nat.max_eq_right le).symm, left⟩
    · rw [refused, Action.run_bind_of_fatal (Action.run_ofExcept_error _ _)]
      exact ends

/-- A page that is there is withdrawn from user code. -/
theorem meets_clearUser {address : Nat}
    (ready : Ready terms time none state)
    (isThere : terms.IsLax ∨
      ((pager state).logicalPage? address).isSome = true) :
    ((clearUser address).run state).Meets terms.fatal
      (fun _ => Left state (fun before after =>
        before.Withdraws after address) terms time) failed := by
  have isPresent : ((pager state).logicalPage? address).isSome = true →
      ((pager state).entryAt address).isPresent = true := by
    rw [ready.sound.isSome_logicalPage?]
    exact id
  rw [clearUser]
  by_cases inside : address < addressLimit
  · rw [Action.run_bind_of_done (run_lookup_of_lt inside)]
    cases found : state.focus.table.get? address with
    | none =>
        rcases isThere with lax | isThere
        · exact lax _
        · have held := PageTable.get?_of_isPresent (isPresent isThere)
          change state.focus.table.get? address = _ at held
          cases found.symm.trans held
    | some entry =>
        rw [Action.run_bind_of_done (Action.run_orCrash_some _ _ _)]
        refine (meets_updateEntry _).mono_done fun _ after updates => ?_
        have entries : ∀ other, ((pager state).table.update address
            fun entry => entry.remove { user := true }).entryAt other =
              if Address.pageBase other = Address.pageBase address then
                ((pager state).entryAt address).remove { user := true }
              else (pager state).entryAt other :=
          PageTable.entryAt_update (.inr rfl)
        obtain ⟨inOrder, withdraws⟩ := ready.parts.withdraws entries
        exact ⟨ready.becomes updates inOrder, .of_becomes updates withdraws⟩
  · rw [Action.run_bind_of_fatal
      (run_lookup_of_le (Nat.le_of_not_lt inside))]
    rcases isThere with lax | isThere
    · exact lax _
    · exact absurd (ready.sound.page_lt address (isPresent isThere)) inside

end AddressSpace

end DemandPaging
