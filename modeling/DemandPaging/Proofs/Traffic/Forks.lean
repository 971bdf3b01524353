import DemandPaging.Proofs.AddressSpace.ForkPages
import DemandPaging.AddressSpace.Agreement
import DemandPaging.Proofs.Traffic.Growth

/-!
# Pages that a child takes over

A child that takes the places of its parent inherits the pages that the parent
has in swap, and has to evict none for them.  A child that enrolls the pages
itself evicts some to make room for others.  In either case the pages that it
was given are unmapped again if the next one cannot be copied.
-/

namespace DemandPaging

namespace AddressSpace

open Fork
open Books (pagesFrom)

variable {First Second Result : Type} {origin : Fork AddressSpace}
  {state middle after : Hosted (Fork AddressSpace)} {journal : List Passage}
  {spare extra : Int} {mayFail : Prop} {page slot : Nat}

/-- The parent is as before, and if the child's books were right nothing
happened to a page that it has in swap. -/
def ForkRested (before after : Hosted (Fork AddressSpace)) : Prop :=
  after.focus.parent = before.focus.parent ∧
    Rested (childOf before) (childOf after)

/-- The parent is as before, and if the child's books were right pages of it
were at most evicted or brought back. -/
def ForkTraded (before after : Hosted (Fork AddressSpace)) : Prop :=
  after.focus.parent = before.focus.parent ∧
    Traded (childOf before) (childOf after)

instance : Std.Refl ForkRested :=
  ⟨fun _ => ⟨rfl, Std.Refl.refl _⟩⟩

instance : IsTrans (Hosted (Fork AddressSpace)) ForkRested :=
  ⟨fun _ _ _ first second =>
    ⟨second.1.trans first.1, IsTrans.trans _ _ _ first.2 second.2⟩⟩

instance : IsTrans (Hosted (Fork AddressSpace)) ForkTraded :=
  ⟨fun _ _ _ first second =>
    ⟨second.1.trans first.1, IsTrans.trans _ _ _ first.2 second.2⟩⟩

abbrev ForkRests (mayFail : Prop) (action : SpaceFork Result) : Prop :=
  action.Relates ForkRested mayFail

abbrev ForkTrades (action : SpaceFork Result) : Prop :=
  action.Relates ForkTraded True

theorem ForkRests.trades {action : SpaceFork Result}
    (rests : ForkRests True action) : ForkTrades action :=
  rests.mono fun _ _ rested => ⟨rested.1, rested.2.traded⟩

theorem forkRests_inChild {action : SpaceAction Result}
    (rests : Rests mayFail action) : ForkRests mayFail (inChild action) :=
  rests.zoom fun _ _ rested => ⟨rfl, rested⟩

theorem forkTrades_inChild {action : SpaceAction Result}
    (trades : Trades action) : ForkTrades (inChild action) :=
  trades.zoom fun _ _ traded => ⟨rfl, traded⟩

/-- The space itself is as before, whatever happened to its host. -/
def SameSpace (before after : Hosted AddressSpace) : Prop :=
  after.focus = before.focus

instance : Std.Refl SameSpace :=
  ⟨fun _ => rfl⟩

theorem forkRests_inParent {action : SpaceAction Result}
    (relates : action.Relates SameSpace mayFail) :
    ForkRests mayFail (inParent action) :=
  relates.zoom fun _ _ same => ⟨same, Passes.refl⟩

theorem sameSpace_readFrame (frame : Nat) :
    (readFrame frame).Relates SameSpace mayFail := by
  have reads : (Action.inspect fun pool : FramePool =>
      pool.read frame).Relates Eq mayFail := Action.relates_inspect _
  exact reads.zoom fun _ _ _ => rfl

theorem forkRests_loadFromParent (slot : Nat) :
    ForkRests True (loadFromParent slot) := by
  have loads : (SwapDevice.load slot).Relates
      (fun device changed => changed.space = device.space) True :=
    fun device => (SwapDevice.meets_load fun _ => trivial).mono
      (fun _ _ loaded => loaded.2) fun _ _ isFailed => ⟨trivial, isFailed.2⟩
  apply forkRests_inParent
  apply loads.zoom
  intro state changed same
  exact congrArg (fun swap => { state.focus with swap }) same

/-- All this happened to the pages of the child, and nothing to the parent. -/
structure ForkPasses (before : Fork AddressSpace) (journal : List Passage)
    (spare : Int) (after : Fork AddressSpace) : Prop where
  parent : after.parent = before.parent
  child : Passes before.child journal spare after.child

theorem ForkPasses.refl (booked : IsBooked origin.child) :
    ForkPasses origin [] 0 origin :=
  ⟨rfl, .refl booked⟩

theorem ForkPasses.rested (passes : ForkPasses origin journal spare state.focus)
    (rested : ForkRested state middle) :
    ForkPasses origin journal spare middle.focus :=
  ⟨rested.1.trans passes.parent, passes.child.rested rested.2⟩

theorem ForkRests.meets_bind {first : SpaceFork First}
    {next : First → SpaceFork Second}
    {done : Second → Hosted (Fork AddressSpace) → Prop}
    {failed : PagingError → Hosted (Fork AddressSpace) → Prop}
    (rests : ForkRests mayFail first)
    (passes : ForkPasses origin journal spare state.focus)
    (fails : mayFail → ∀ error after,
      ForkPasses origin journal spare after.focus → failed error after)
    (rest : ∀ result middle, ForkPasses origin journal spare middle.focus →
      ((next result).run middle).Meets (fun _ => True) done failed) :
    ((first >>= next).run state).Meets (fun _ => True) done failed :=
  Action.Relates.meets_bind rests
    (fun may error after rested => fails may error after (passes.rested rested))
    fun result middle rested => rest result middle (passes.rested rested)

theorem forkRests_readParent (page : Nat) (entry : Entry)
    (tracked : Option Tracked) :
    ForkRests True (readParent page entry tracked) := by
  unfold readParent
  split
  · apply Action.Relates.bind (Action.relates_orCrash _ _)
    exact fun slot => forkRests_loadFromParent slot
  · apply (forkRests_inParent (sameSpace_readFrame _)).bind
    exact fun _ => Action.relates_pure _

theorem forkTrades_enrollPage (page : Nat) (entry : Entry)
    (tracked : Option Tracked) :
    ForkTrades (enrollPage page entry tracked) := by
  apply (forkRests_inChild rests_takeFrame).trades.bind
  intro frame
  apply Action.Relates.bind
  · apply (forkRests_readParent page entry tracked).trades.onFailure
    exact fun _ => (forkRests_inChild (rests_releaseFrame frame)).trades
  · intro contents
    apply forkTrades_inChild
    apply (rests_writeFrame frame contents).trades.bind
    exact fun _ => trades_install page frame _

theorem forkRests_copyFrame (page source : Nat) (flags : Flags) :
    ForkRests True (copyFrame page source flags) := by
  apply (forkRests_inChild rests_takeFrame).bind
  intro frame
  apply (forkRests_inParent (sameSpace_readFrame source)).bind
  intro contents
  apply forkRests_inChild
  apply (rests_writeFrame frame _).bind
  exact fun _ => rests_place page frame flags

theorem rests_markPagedOut (page : Nat) (flags : Flags) :
    Rests True (markPagedOut page flags) := by
  apply (rests_onTable (Action.relates_any _)).bind
  intro entry
  apply Action.Relates.bind (Action.relates_orFail _ entry)
  exact fun _ => rests_updateEntry _ _

/-- A slot is claimed for a page that comes, and given back if it cannot
come. -/
theorem passes_receiveSlot {space : AddressSpace} {state : Hosted AddressSpace}
    (contents : List UInt8) (flags : Flags)
    (passes : Passes space journal spare state.focus) :
    ((receiveSlot page slot contents flags).run state).Meets (fun _ => True)
      (fun _ after => Passes space journal (spare + 1) after.focus)
      fun _ after => Passes space journal spare after.focus := by
  have givenBack : ∀ middle : Hosted AddressSpace,
      Passes space journal (spare + 1) middle.focus →
        ((releaseSlot slot).run middle).Meets (fun _ => True)
          (fun _ after => Passes space journal spare after.focus)
          fun _ after => Passes space journal spare after.focus :=
    fun middle claimed => (passes_releaseSlot slot claimed).mono
      (fun _ _ released => released.congr (Int.add_sub_cancel spare 1))
      fun _ _ impossible => impossible.elim
  apply Action.meets_bind_of fun _ after =>
    Passes space journal (spare + 1) after.focus
  · apply Action.meets_zoom_iff.mpr
    cases claimed : state.focus.swap.claimAt slot with
    | error cause =>
        rw [Action.run_change_of_error claimed]
        trivial
    | ok swap =>
        rw [Action.run_change_of_ok claimed]
        obtain ⟨isFree, rfl⟩ := SwapSpace.claimAt_eq_ok_iff.mp claimed
        exact passes.withSwap (passes.isBooked.swap.take isFree) rfl
  · intro _ claimed passes
    apply Action.meets_bind
    · apply Action.meets_onFailure
      · apply (rests_onDevice (relates_store slot contents) claimed).mono
        · exact fun _ _ rested => passes.rested rested
        · exact fun _ _ isFailed => passes.rested isFailed.2
      · exact fun _ middle failed => givenBack middle failed
    · intro _ stored passes
      apply Action.meets_onFailure
      · apply (rests_markPagedOut page flags stored).mono
        · exact fun _ _ rested => passes.rested rested
        · exact fun _ _ isFailed => passes.rested isFailed.2
      · exact fun _ middle failed => givenBack middle failed

/-- A page is copied from a slot of the parent to a claimed slot of the
child. -/
theorem passes_copySlot (flags : Flags) (booked : IsBooked state.focus.child) :
    ((copySlot page slot flags).run state).Meets (fun _ => True)
      (fun _ after => ForkPasses state.focus [] 1 after.focus)
      fun _ after => ForkPasses state.focus [] 0 after.focus := by
  apply (forkRests_loadFromParent slot).meets_bind (.refl booked)
  · exact fun _ _ _ passes => passes
  · intro contents loaded passes
    apply (meets_inChild (passes_receiveSlot contents flags passes.child)).mono
    · exact fun _ _ received => ⟨received.1.trans passes.parent, received.2⟩
    · exact fun _ _ isFailed => ⟨isFailed.1.trans passes.parent, isFailed.2⟩

/-- What happens to a page that the ledger of the child takes over. -/
def adoption (tracked : Tracked) (page : Nat) : List Passage :=
  if tracked.isSwapped then [.inherit page] else []

/-- What the ledger of the child takes over is in swap there if it was in the
parent. -/
theorem passes_adopt {handle : Nat} {tracked : Tracked}
    (tracks : tracked.Tracks page)
    (passes : ForkPasses origin [] tracked.isSwapped.toNat state.focus) :
    ((inChild (onLedger (Action.change fun ledger =>
        ledger.adopt handle tracked))).run state).Meets (fun _ => True)
      (fun _ after => ForkPasses origin (adoption tracked page) 0 after.focus)
      fun _ _ => False := by
  have booked := passes.child.isBooked
  apply (meets_inChild (computed_changeLedger _)).mono
  · rintro _ after ⟨parent, ledger, adopted, same⟩
    refine ⟨parent.trans passes.parent, ?_⟩
    rw [show after.focus.child = _ from congrArg Hosted.focus same]
    unfold adoption
    cases isSwapped : tracked.isSwapped with
    | false =>
        have kept : Passes state.focus.child [] 0
            { state.focus.child with ledger } :=
          .of_sameSwap booked rfl
            (Ledger.sameSwap_of_adopt booked.ledger isSwapped adopted)
            rfl rfl rfl rfl
        exact (passes.child.trans kept).congr (by rw [isSwapped]; rfl)
    | true =>
        obtain ⟨slot, residence⟩ := tracked.exists_slot tracks isSwapped
        have goes := Ledger.goesOut_of_adopt booked.ledger residence adopted
        have more := congrArg Finset.card goes.swappedPages
        rw [Finset.card_insert_of_notMem goes.not_mem] at more
        have inherited : Passes state.focus.child [.inherit page] (-1)
            { state.focus.child with ledger } :=
          booked.passes_single goes.isConsistent
            ⟨goes.not_mem, goes.swappedPages⟩ rfl rfl
            (by rw [swappedPages]; omega)
        exact (passes.child.trans inherited).congr (by rw [isSwapped]; rfl)
  · exact fun _ _ impossible => impossible.2

/-- A page that is copied to the place it has in the parent is inherited if it
is in swap. -/
theorem passes_adoptPage {entry : Entry} {handle : Nat} {tracked : Tracked}
    (booked : IsBooked state.focus.child) (tracks : tracked.Tracks page)
    (inMemory : entry.isPagedOut = false → tracked.isSwapped = false) :
    ((adoptPage page entry handle tracked).run state).Meets (fun _ => True)
      (fun _ after =>
        ForkPasses state.focus (adoption tracked page) 0 after.focus)
      fun _ after => ForkPasses state.focus [] 0 after.focus := by
  have adopts : ∀ copied : Hosted (Fork AddressSpace),
      ForkPasses state.focus [] tracked.isSwapped.toNat copied.focus →
        ((inChild (onLedger (Action.change fun ledger =>
            ledger.adopt handle tracked))).run copied).Meets (fun _ => True)
          (fun _ after =>
            ForkPasses state.focus (adoption tracked page) 0 after.focus)
          fun _ after => ForkPasses state.focus [] 0 after.focus :=
    fun _ passes => (passes_adopt tracks passes).of_sure
  unfold adoptPage
  dsimp only
  split
  · cases held : tracked.residence.slot? with
    | none => trivial
    | some slot =>
        rw [Action.run_bind_of_done (Action.run_orCrash_some _ _ _)]
        apply Action.meets_bind (passes_copySlot entry.flags booked)
        intro _ copied passes
        apply adopts
        rw [isSwapped_of_slot? held]
        exact passes
  · rename_i notPagedOut
    apply (forkRests_copyFrame _ _ _).meets_bind (.refl booked)
    · exact fun _ _ _ passes => passes
    · intro _ copied passes
      apply adopts
      rw [inMemory (by simpa using notPagedOut)]
      exact passes

/-- What the page table of a space under paging says of its pages in swap is
what its ledger says. -/
theorem Tracks.not_mem_swappedPages {space : AddressSpace} {entry : Entry}
    (tracks : space.Tracks) (found : space.table.get? page = some entry)
    (notPagedOut : entry.isPagedOut = false) : page ∉ space.swappedPages := by
  intro member
  obtain ⟨handle, tracked, place, swapped, rfl⟩ :=
    Ledger.mem_swappedPages.mp member
  obtain ⟨slot, residence⟩ :=
    tracked.exists_slot ⟨Tracked.isFree_of_isSwapped swapped, rfl⟩ swapped
  obtain ⟨other, leaf, isPagedOut⟩ := (tracks.isPagedOut_iff _).mpr
    ⟨slot, handle, tracked, place, residence⟩
  cases found.symm.trans (PageTable.mem_leaves_iff.mp leaf).2.1
  rw [notPagedOut] at isPagedOut
  cases isPagedOut

/-- What happens to the pages of a child that is given these pages of the
parent: those that the parent has in swap are inherited, or some are evicted if
the parent is not under paging. -/
def Receives (parent : AddressSpace) (pages : List Nat)
    (journal : List Passage) : Prop :=
  if parent.isPaging then
    journal = (pages.filter (· ∈ parent.swappedPages)).map .inherit
  else IsTrade journal

theorem receives_nil (parent : AddressSpace) : Receives parent [] [] := by
  unfold Receives
  split
  · rfl
  · exact isTrade_nil

theorem Receives.append {parent : AddressSpace} {pages others : List Nat}
    {more : List Passage} (first : Receives parent pages journal)
    (second : Receives parent others more) :
    Receives parent (pages ++ others) (journal ++ more) := by
  unfold Receives at *
  split
  · rename_i isPaging
    rw [if_pos isPaging] at first second
    rw [first, second, List.filter_append, List.map_append]
  · rename_i notPaging
    rw [if_neg notPaging] at first second
    exact first.append second

/-- The parent's own books are right. -/
structure IsLegible (parent : AddressSpace) : Prop where
  ledger : parent.ledger.IsConsistent
  tracks : parent.isPaging = true → parent.Tracks

theorem passes_copyTracked {entry : Entry}
    (booked : IsBooked state.focus.child)
    (legible : IsLegible state.focus.parent)
    (isPaging : state.focus.parent.isPaging = true)
    (found : state.focus.parent.table.get? page = some entry) :
    ((copyTracked page entry).run state).Meets (fun _ => True)
      (fun _ after => ∃ journal, Receives state.focus.parent [page] journal ∧
        ForkPasses state.focus journal 0 after.focus)
      fun _ after => ForkPasses state.focus [] 0 after.focus := by
  rw [copyTracked, Action.run_bind_of_done (Action.run_read _ _)]
  cases known : state.focus.parent.ledger.find? page with
  | none => trivial
  | some handle =>
      obtain ⟨tracked, place, tracks⟩ := legible.ledger.find?_iff.mp known
      rw [Action.run_bind_of_done (Action.run_orCrash_some _ _ _),
        Action.liftM_eq_ofExcept, Ledger.get_eq_ok_iff.mpr place,
        Action.run_bind_of_done (Action.run_ofExcept_ok _ _),
        if_pos booked.isPaging]
      have isMember : page ∈ state.focus.parent.swappedPages ↔
          tracked.isSwapped = true := by
        rw [swappedPages, legible.ledger.mem_swappedPages_iff,
          legible.ledger.residenceOf?_eq_some_iff.mpr
            ⟨handle, tracked, place, tracks, rfl⟩]
        simp [Tracked.isSwapped]
      apply (passes_adoptPage booked tracks fun notPagedOut => ?_).mono
      · intro _ after passes
        refine ⟨_, ?_, passes⟩
        rw [Receives, if_pos isPaging, adoption]
        simp only [List.filter_cons, List.filter_nil, isMember,
          decide_eq_true_eq]
        split <;> rfl
      · exact fun _ _ passes => passes
      · have absent := (legible.tracks isPaging).not_mem_swappedPages found
          notPagedOut
        rw [isMember] at absent
        simpa using absent

theorem run_inParent_of_fatal {action : SpaceAction Result} {cause : Fatal}
    (ran : action.run (parentOf state) = .fatal cause) :
    (inParent action).run state = .fatal cause := by
  change (Action.zoom parentOf (fun changed whole =>
    ⟨{ whole.focus with parent := changed.focus }, changed.host⟩)
      action).run state = _
  rw [Action.run_zoom, ran]

theorem passes_copyPage (booked : IsBooked state.focus.child)
    (legible : IsLegible state.focus.parent) :
    ((copyPage page).run state).Meets (fun _ => True)
      (fun _ after => ∃ journal, Receives state.focus.parent [page] journal ∧
        ForkPasses state.focus journal 0 after.focus)
      fun _ after => ∃ journal, Receives state.focus.parent [] journal ∧
        ForkPasses state.focus journal 0 after.focus := by
  rw [copyPage]
  by_cases inside : page < addressLimit
  · rw [Action.run_bind_of_done
      (run_inParent_of_done (run_lookup_of_lt inside))]
    cases found : (parentOf state).focus.table.get? page with
    | none => trivial
    | some entry =>
        rw [Action.run_bind_of_done (Action.run_orCrash_some _ _ _)]
        apply Action.meets_crashUnless_bind fun _ => trivial
        intro _
        apply Action.meets_crashUnless_bind fun _ => trivial
        intro _
        rw [Action.run_bind_of_done (run_inParent_of_done (run_look _))]
        split
        · rename_i isPaging
          apply (passes_copyTracked booked legible isPaging found).mono
          · exact fun _ _ copied => copied
          · exact fun _ _ passes => ⟨[], receives_nil _, passes⟩
        · rename_i notPaging
          change ¬state.focus.parent.isPaging = true at notPaging
          have receives : ∀ {pages : List Nat} {after},
              ForkTraded state after → ∃ journal,
                Receives state.focus.parent pages journal ∧
                  ForkPasses state.focus journal 0 after.focus := by
            rintro pages after ⟨parent, traded⟩
            obtain ⟨journal, isTrade, passes⟩ := traded booked
            refine ⟨journal, ?_, parent, passes⟩
            rw [Receives, if_neg notPaging]
            exact isTrade
          apply (forkTrades_enrollPage page entry none state).mono
          · exact fun _ _ traded => receives traded
          · exact fun _ _ traded => receives traded.2
  · have refused : (inParent (lookup page)).run state =
        .fatal (.walkBeyondLimit page) :=
      run_inParent_of_fatal (run_lookup_of_le (Nat.le_of_not_lt inside))
    rw [Action.run_bind_of_fatal refused]
    trivial

/-- A run of pages is copied, or those that were and the `already` pages before
them are all unmapped again. -/
theorem passes_copyRun {already : Nat} (count : Nat)
    (begins : page = already * pageSize) (booked : IsBooked state.focus.child)
    (legible : IsLegible state.focus.parent) :
    ((copyRun page count).run state).Meets (fun _ => True)
      (fun _ after => ∃ journal,
        Receives state.focus.parent (pagesFrom page count) journal ∧
          ForkPasses state.focus journal 0 after.focus)
      fun _ after => ∃ fewer < count, ∃ copied,
        Receives state.focus.parent (pagesFrom page fewer) copied ∧
          ForkPasses state.focus
            (copied ++ (pagesFrom 0 (already + fewer)).map .unmap) 0
            after.focus := by
  induction count generalizing state page already with
  | zero => exact ⟨[], receives_nil _, .refl booked⟩
  | succ count ih =>
      have numbered : page / pageSize = already := by
        rw [begins]
        exact Nat.mul_div_cancel already (by decide)
      have next : page + pageSize = (already + 1) * pageSize := by
        rw [begins, Nat.succ_mul]
      have tried : (((copyPage page).onFailure fun _ =>
          inChild (unmap 0 (page / pageSize) true)).run state).Meets
            (fun _ => True)
            (fun _ after => ∃ journal,
              Receives state.focus.parent [page] journal ∧
                ForkPasses state.focus journal 0 after.focus)
            fun _ after => ∃ copied,
              Receives state.focus.parent [] copied ∧
                ForkPasses state.focus
                  (copied ++ (pagesFrom 0 already).map .unmap) 0
                  after.focus := by
        apply Action.meets_onFailure (passes_copyPage booked legible)
        rintro _ middle ⟨copied, receives, passes⟩
        have unmaps := passes_unmap true 0 already
          (show IsBooked (childOf middle).focus from passes.child.isBooked)
        rw [numbered]
        apply (meets_inChild unmaps).mono
        · exact fun _ _ unmapped => ⟨copied, receives,
            unmapped.1.trans passes.parent, passes.child.trans unmapped.2⟩
        · exact fun _ _ impossible => impossible.2.elim
      apply Action.meets_bind (tried.mono_failed ?_)
      · rintro _ middle ⟨journal, receives, passes⟩
        rw [← passes.parent] at legible
        apply (ih next passes.child.isBooked legible).mono
        · rintro _ after ⟨more, receivesMore, rest⟩
          rw [passes.parent] at receivesMore
          exact ⟨journal ++ more, receives.append receivesMore,
            rest.parent.trans passes.parent, passes.child.trans rest.child⟩
        · rintro _ after ⟨fewer, less, more, receivesMore, rest⟩
          rw [passes.parent] at receivesMore
          refine ⟨fewer + 1, Nat.succ_lt_succ less, journal ++ more,
            receives.append receivesMore, rest.parent.trans passes.parent, ?_⟩
          have whole := passes.child.trans rest.child
          rw [Nat.add_right_comm, ← List.append_assoc] at whole
          exact whole
      · exact fun _ _ isFailed => ⟨0, Nat.succ_pos count, isFailed⟩

/-- The number of pages that a fork copies. -/
def copiedCount (size : Nat) : Nat :=
  (size + (pageSize - 1)) / pageSize

/-- A child is given the pages of its parent, or those that it was given are
unmapped again. -/
theorem passes_forkCopy (size : Nat) (booked : IsBooked state.focus.child)
    (legible : IsLegible state.focus.parent) :
    ((forkCopy size).run state).Meets (fun _ => True)
      (fun _ after => ∃ journal,
        Receives state.focus.parent (pagesFrom 0 (copiedCount size)) journal ∧
          ForkPasses state.focus journal 0 after.focus)
      fun _ after => ∃ fewer < copiedCount size, ∃ copied,
        Receives state.focus.parent (pagesFrom 0 fewer) copied ∧
          ForkPasses state.focus
            (copied ++ (pagesFrom 0 fewer).map .unmap) 0 after.focus := by
  rw [forkCopy, Action.run_bind_of_done (Action.run_read _ _)]
  apply Action.meets_crashUnless_bind fun _ => trivial
  intro _
  have copies := passes_copyRun (copiedCount size)
    (Nat.zero_mul pageSize).symm booked legible
  simp only [Nat.zero_add] at copies
  apply Action.meets_bind copies
  rintro _ copied ⟨journal, receives, passes⟩
  have clocks : ForkRests False (Action.runIf (bothPaging state.focus) do
      let generation ← inParent (look fun space => space.ledger.generation)
      inChild (onLedger (Action.modify fun ledger =>
        { ledger with generation }))) := by
    apply Action.relates_runIf
    intro _
    apply (forkRests_inParent (Action.relates_read _)).bind
    intro generation
    apply forkRests_inChild
    apply rests_onLedger
    apply Action.relates_modify
    exact fun ledger consistent => ⟨consistent.withClock generation, rfl⟩
  apply (clocks copied).mono
  · exact fun _ _ rested => ⟨journal, receives, passes.rested rested⟩
  · exact fun _ _ impossible => impossible.1.elim

end AddressSpace

end DemandPaging
