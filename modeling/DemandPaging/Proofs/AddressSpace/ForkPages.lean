import DemandPaging.Proofs.AddressSpace.Adoption
import DemandPaging.Proofs.AddressSpace.InOrder
import DemandPaging.Proofs.AddressSpace.Neighbours
import DemandPaging.Proofs.Ledger.Shadows

/-!
# Copying one page of a fork

A fork changes the child only.  Page by page the child comes to have what the
parent has, and if a page cannot be copied the child has nothing in the end.
The parent's frames are safe because the child, which had none when the fork
began, never has one that was lent to somebody else.
-/

namespace DemandPaging

namespace AddressSpace

open Fork
open Pager (Terms)

variable {Result : Type} {origin state middle after : Hosted (Fork AddressSpace)}
  {terms : Terms} {time page slot : Nat} {fatal : Fatal → Prop}

/-- The parent of a fork. -/
def parentOf (state : Hosted (Fork AddressSpace)) : Hosted AddressSpace :=
  ⟨state.focus.parent, state.host⟩

/-- The child of a fork. -/
def childOf (state : Hosted (Fork AddressSpace)) : Hosted AddressSpace :=
  ⟨state.focus.child, state.host⟩

/-- At most transfers were counted. -/
structure Alike (before after : Hosted (Fork AddressSpace)) : Prop where
  focus : after.focus = before.focus
  pools : after.host.pools = before.host.pools

namespace Alike

theorem refl (state : Hosted (Fork AddressSpace)) : Alike state state :=
  ⟨rfl, rfl⟩

theorem pool (alike : Alike state after) (number : Nat) :
    after.host.pool number = state.host.pool number := by
  rw [Host.pool, Host.pool, alike.pools]

theorem child (alike : Alike state after) :
    Becomes (childOf state) (pager (childOf state)) (childOf after) := by
  refine ⟨⟨?_, ?_, fun number _ => alike.pool number⟩, ?_⟩
  · exact congrArg (fun fork : Fork AddressSpace => fork.child.pool)
      alike.focus
  · exact congrArg Array.size alike.pools
  · rw [pager, pager, childOf, childOf, alike.focus, alike.pool]

end Alike

/-- An operation on the child leaves the parent's own parts alone. -/
theorem meets_inChild {action : SpaceAction Result}
    {done : Result → Hosted AddressSpace → Prop}
    {failed : PagingError → Hosted AddressSpace → Prop}
    (meets : (action.run (childOf state)).Meets fatal done failed) :
    ((inChild action).run state).Meets fatal
      (fun result after => after.focus.parent = state.focus.parent ∧
        done result (childOf after))
      (fun error after => after.focus.parent = state.focus.parent ∧
        failed error (childOf after)) :=
  Action.meets_zoom_iff.mpr (meets.mono (fun _ _ holds => ⟨rfl, holds⟩)
    fun _ _ holds => ⟨rfl, holds⟩)

/-- A page of the parent is loaded as its slot holds it. -/
theorem meets_loadFromParent
    (overflow : Word.limit ≤ slot * pageSize → fatal .overflow) :
    ((loadFromParent slot).run state).Meets fatal
      (fun bytes after =>
        (pager (parentOf state)).swap.contents? slot = some bytes ∧
          Alike state after)
      (fun _ after => Alike state after) := by
  refine Action.meets_zoom_iff.mpr (Action.meets_zoom_iff.mpr
    ((SwapDevice.meets_load overflow).mono ?_ ?_))
  · rintro bytes device ⟨held, same⟩
    refine ⟨held, ?_, rfl⟩
    dsimp only
    rw [same]
  · rintro _ device ⟨_, same⟩
    refine ⟨?_, rfl⟩
    dsimp only
    rw [same]

/-- The parent is as it was, and the frames it could read have what they
had. -/
structure Beside (origin state : Hosted (Fork AddressSpace)) : Prop where
  parent : state.focus.parent = origin.focus.parent
  served : IsServed (parentOf state)
  frames : ∀ frame contents,
    (pager (parentOf origin)).frames.contents? frame = some contents →
      (pager (parentOf state)).frames.contents? frame = some contents

namespace Beside

/-- What happens to a child that had no pages does not touch the parent's
frames. -/
theorem of_changes (served : IsServed (parentOf origin))
    (vacant : (pager (childOf origin)).IsVacant)
    (same : state.focus.parent = origin.focus.parent)
    (changes : Changes (childOf origin) LeavesUnowned (childOf state)) :
    Beside origin state where
  parent := same
  served := by
    rw [IsServed, parentOf] at served ⊢
    rw [same]
    exact changes.stays.size ▸ served
  frames frame contents lent := by
    have kept := changes.keeps_lent lent
      fun _ address isValid => absurd isValid (vacant.not_isValid address)
    rw [parentOf, ← same] at kept
    exact kept

end Beside

variable {entry : Entry} {tracked : Option Tracked} {stop bound : Nat}

theorem run_inParent_of_done {action : SpaceAction Result} {result : Result}
    (ran : action.run (parentOf state) = .done result (parentOf state)) :
    (inParent action).run state = .done result state := by
  change (Action.zoom parentOf (fun changed whole =>
    ⟨{ whole.focus with parent := changed.focus }, changed.host⟩)
      action).run state = _
  rw [Action.run_zoom, ran]
  rfl

/-- What the parent holds of a page is read as user code of the parent sees
it. -/
theorem meets_readParent
    (copyable : (pager (parentOf origin)).IsCopyable)
    (beside : Beside origin state)
    (aligned : Address.pageBase page = page)
    (held : (pager (parentOf origin)).entryAt page = entry)
    (isPresent : entry.isPresent = true)
    (exclusive : entry.isValid = true → entry.isPagedOut = false)
    (knows : ∀ found, tracked = some found →
      (pager (parentOf origin)).residenceOf? page = some found.residence)
    (inSlot : entry.isPagedOut = true → terms.IsLax ∨ ∃ slot,
      (tracked.bind fun tracked => tracked.residence.slot?) = some slot ∧
        slot ≤ addressLimit / pageSize) :
    ((readParent page entry tracked).run state).Meets terms.fatal
      (fun bytes after => bytes.length = pageSize ∧
        (pager (parentOf origin)).logicalPage? page =
          some ⟨bytes, entry.flags.permissions⟩ ∧ Alike state after)
      (fun _ after => Alike state after) := by
  rw [readParent]
  by_cases isPagedOut : entry.isPagedOut = true
  · rw [if_pos isPagedOut]
    have notValid := Entry.isValid_of_isPagedOut exclusive isPagedOut
    cases found : tracked.bind fun tracked => tracked.residence.slot? with
    | none =>
        rw [Action.run_bind_of_fatal (Action.run_orCrash_none _ _)]
        rcases inSlot isPagedOut with lax | ⟨slot, hasSlot, _⟩
        · exact lax _
        · cases found.symm.trans hasSlot
    | some slot =>
        rw [Action.run_bind_of_done (Action.run_orCrash_some _ _ _)]
        have overflow : Word.limit ≤ slot * pageSize →
            terms.fatal .overflow := by
          intro late
          rcases inSlot isPagedOut with lax | ⟨same, hasSlot, low⟩
          · exact lax _
          · cases found.symm.trans hasSlot
            exact absurd late (Nat.not_le_of_lt (Pager.offset_lt low))
        obtain ⟨known, rfl, hasSlot⟩ := Option.bind_eq_some_iff.mp found
        refine (meets_loadFromParent overflow).mono_done ?_
        rintro bytes after ⟨stored, alike⟩
        have sameSwap : (pager (parentOf state)).swap =
            (pager (parentOf origin)).swap :=
          congrArg AddressSpace.swap beside.parent
        rw [sameSwap] at stored
        refine ⟨SwapSpace.length_of_contents? stored, ?_, alike⟩
        rw [Pager.logicalPage?, Pager.bytesAt?, aligned, held, notValid,
          if_neg Bool.false_ne_true, if_pos isPagedOut, knows known rfl]
        rw [Option.bind_some, hasSlot, Option.bind_some, stored]
        rfl
  · rw [if_neg isPagedOut]
    have isValid : entry.isValid = true := by
      rw [Entry.isPresent, Bool.or_eq_true] at isPresent
      exact isPresent.resolve_right isPagedOut
    rw [← held] at isValid
    obtain ⟨contents, lent⟩ := copyable.framed page isValid
    have shown := Pager.logicalPage?_of_isValid isValid lent
    rw [held] at lent shown
    rw [Action.run_bind_of_done (run_inParent_of_done (run_readFrame
      beside.served (beside.frames _ _ lent)))]
    exact ⟨Vector.length_toList .., shown, .refl state⟩

/-- The pages up to `stop` are copied to the child, and the parent is as it
was. -/
structure Copied (origin : Hosted (Fork AddressSpace)) (terms : Terms)
    (time stop : Nat) (state : Hosted (Fork AddressSpace)) : Prop where
  parent : state.focus.parent = origin.focus.parent
  left : Left (childOf origin) ((pager (parentOf origin)).Copies stop) terms
    time (childOf state)

/-- What a fork finds: a parent that can be copied, and a child without
pages. -/
structure Forkable (origin : Hosted (Fork AddressSpace)) : Prop where
  served : IsServed (parentOf origin)
  copyable : (pager (parentOf origin)).IsCopyable
  vacant : (pager (childOf origin)).IsVacant

/-- The most that the child's clock advances when a page is copied. -/
def pageTicks (origin : Hosted (Fork AddressSpace)) : Nat :=
  if bothPaging origin.focus then 0 else (pager (childOf origin)).turns + 1

/-- What lets a copy of the pages below `bound` pass every check: the parent is
in order and has these pages, the limits are the same, and the child has the
slots that they are in, unless the run may end for want of one. -/
structure Permits (origin : Hosted (Fork AddressSpace)) (terms : Terms)
    (bound : Nat) : Prop where
  sound : (pager (parentOf origin)).Sound none
  strict : (pager (parentOf origin)).Strict
  ceiling : (pager (parentOf origin)).ledger.residentCount ≤
    (pager (parentOf origin)).ledger.maxResident
  shown : ∀ address, address < bound →
    ((pager (parentOf origin)).logicalPage? address).isSome = true
  sameLimits : bothPaging origin.focus = true →
    AddressSpace.sameLimits origin.focus = true
  hasSlot : bothPaging origin.focus = true → ∀ page slot, page < bound →
    (pager (parentOf origin)).residenceOf? page = some (.swapped page slot) →
      terms.fatal .outOfBounds ∨ slot < origin.focus.child.swap.capacity

namespace Permits

variable {bound : Nat}

theorem isPresent (permits : Permits origin terms bound)
    (below : page < bound) :
    ((pager (parentOf origin)).entryAt page).isPresent = true := by
  rw [← permits.sound.isSome_logicalPage?]
  exact permits.shown page below

theorem page_lt (permits : Permits origin terms bound)
    (below : page < bound) : page < addressLimit :=
  permits.sound.page_lt page (permits.isPresent below)

theorem isRead (permits : Permits origin terms bound)
    (below : page < bound) :
    ((pager (parentOf origin)).entryAt page).flags.read = true :=
  (permits.strict.entries page).readable (permits.isPresent below)

/-- A page in swap has a slot that is not too high. -/
theorem exists_slot (permits : Permits origin terms bound)
    (aligned : Address.pageBase page = page)
    (isPagedOut :
      ((pager (parentOf origin)).entryAt page).isPagedOut = true) :
    ∃ slot, (pager (parentOf origin)).residenceOf? page =
        some (.swapped page slot) ∧ slot ≤ addressLimit / pageSize := by
  obtain ⟨slot, known⟩ := permits.sound.swapped page isPagedOut
    (Entry.isValid_of_isPagedOut (permits.strict.entries page).exclusive
      isPagedOut)
  rw [aligned] at known
  exact ⟨slot, known, permits.strict.slot_le slot
    ((permits.sound.claimed slot).mpr ⟨page, known⟩)⟩

/-- What the ledger has of a page in swap tells its slot. -/
theorem slot_of_tracked (permits : Permits origin terms bound)
    (aligned : Address.pageBase page = page)
    (isPagedOut :
      ((pager (parentOf origin)).entryAt page).isPagedOut = true)
    (knows : ∀ found, tracked = some found →
      (pager (parentOf origin)).residenceOf? page = some found.residence)
    (isKnown : origin.focus.parent.isPaging = true → tracked.isSome = true) :
    ∃ slot, (tracked.bind fun tracked => tracked.residence.slot?) = some slot ∧
      slot ≤ addressLimit / pageSize := by
  obtain ⟨slot, known, low⟩ := permits.exists_slot aligned isPagedOut
  obtain ⟨found, rfl⟩ := Option.isSome_iff_exists.mp
    (isKnown (permits.sound.tracked page _ known).1)
  have same := Option.some.inj ((knows found rfl).symm.trans known)
  refine ⟨slot, ?_, low⟩
  rw [Option.bind_some, same]
  rfl

/-- Under paging every page has a place. -/
theorem exists_place (permits : Permits origin terms bound)
    (isPaging : (pager (parentOf origin)).isPaging = true)
    (aligned : Address.pageBase page = page) (below : page < bound) :
    ∃ handle tracked, origin.focus.parent.ledger.find? page = some handle ∧
      origin.focus.parent.ledger.places[handle]? = some tracked := by
  obtain ⟨residence, known⟩ := permits.sound.residence_of_isPresent isPaging
    aligned (permits.isPresent below)
  obtain ⟨handle, tracked, found, place, _⟩ :=
    permits.sound.ledger.find?_of_residenceOf? known
  exact ⟨handle, tracked, found, place⟩

end Permits

namespace Copied

theorem absent (copied : Copied origin terms time page state)
    (forkable : Forkable origin) :
    ((pager (childOf state)).entryAt page).isPresent = false := by
  have shown := copied.left.changes.parts.logicalPage? page
  rw [if_neg (Nat.lt_irrefl page), forkable.vacant.logicalPage?] at shown
  rw [← copied.left.ready.sound.isSome_logicalPage?, shown]
  rfl

theorem of_kept (copied : Copied origin terms time stop state)
    {less : Nat} (parent : after.focus.parent = state.focus.parent)
    (kept : Kept (childOf state) terms less none (childOf after)) :
    Copied origin terms less stop after where
  parent := parent.trans copied.parent
  left := ⟨kept.ready, copied.left.changes.trans kept.changes
    fun copies keeps => copies.keeps_trans keeps⟩

theorem of_adds (copied : Copied origin terms time page state)
    {less : Nat} {memory : LogicalPage}
    (aligned : Address.pageBase page = page)
    (shown : (pager (parentOf origin)).logicalPage? page = some memory)
    (parent : after.focus.parent = state.focus.parent)
    (left : Left (childOf state) (fun before after =>
      before.Adds after page (page + pageSize) memory) terms less
        (childOf after)) :
    Copied origin terms less (page + pageSize) after where
  parent := parent.trans copied.parent
  left := ⟨left.ready, copied.left.changes.trans left.changes
    fun copies adds => copies.adds adds aligned shown⟩

/-- A frame that the child borrows is none of the parent's. -/
theorem beside_of_lent (copied : Copied origin terms time page state)
    (forkable : Forkable origin) {less frame : Nat} {contents : Page}
    (parent : after.focus.parent = state.focus.parent)
    (lent : Lent (childOf state) terms less none frame contents
      (childOf after)) : Beside origin after :=
  .of_changes forkable.served forkable.vacant (parent.trans copied.parent)
    (copied.left.changes.trans lent.changes
      fun copies borrows frame contents unowned =>
        (borrows.unowned _ _).mpr
          (.inl ((copies.unowned frame contents).mpr unowned)))

end Copied

/-- The pages up to `stop` have in `child` the places that they have in
`parent`. -/
def Adopts (parent child : Ledger) (stop : Nat) : Prop :=
  ∀ page handle tracked, page < stop → parent.find? page = some handle →
    parent.places[handle]? = some tracked →
      child.find? page = some handle ∧ child.places[handle]? = some tracked

/-- One more page takes its place. -/
theorem Adopts.adopt {parent child after : Ledger} {handle : Nat}
    {new : Tracked} (adopts : Adopts parent child page)
    (consistent : parent.IsConsistent)
    (onlyAligned : ∀ other residence,
      parent.residenceOf? other = some residence →
        Address.pageBase other = other)
    (aligned : Address.pageBase page = page)
    (found : parent.find? page = some handle)
    (place : parent.places[handle]? = some new)
    (adopted : child.adopt handle new = .ok after) :
    Adopts parent after (page + pageSize) := by
  obtain ⟨old, unused, puts⟩ := Ledger.puts_of_adopt adopted
  have notOld : ∀ other, ¬old.Tracks other := fun _ =>
    Tracked.not_tracks_of_residence unused
  have tracks : ∀ other handle tracked, parent.find? other = some handle →
      parent.places[handle]? = some tracked → tracked.Tracks other := by
    intro other handle tracked found place
    obtain ⟨same, samePlace, tracks⟩ := consistent.find?_iff.mp found
    cases place.symm.trans samePlace
    exact tracks
  have newTracks := tracks page handle new found place
  intro other otherHandle tracked below otherFound otherPlace
  have otherTracks := tracks other otherHandle tracked otherFound otherPlace
  by_cases same : other = page
  · subst same
    cases found.symm.trans otherFound
    cases place.symm.trans otherPlace
    exact ⟨puts.find?_new other newTracks, by
      rw [puts.getElem?_places, if_pos rfl]⟩
  · have known : parent.residenceOf? other = some tracked.residence :=
      consistent.residenceOf?_eq_some_iff.mpr
        ⟨otherHandle, tracked, otherPlace, otherTracks, rfl⟩
    have otherAligned := onlyAligned other _ known
    have isOld : other < page := by
      simp only [Address.pageBase, pageSize] at *
      omega
    obtain ⟨childFound, childPlace⟩ :=
      adopts other otherHandle tracked isOld otherFound otherPlace
    have notNew : ¬new.Tracks other := fun both =>
      same (both.2.symm.trans newTracks.2)
    have different : handle ≠ otherHandle := by
      rintro rfl
      cases puts.held.symm.trans childPlace
      exact notOld other otherTracks
    refine ⟨?_, ?_⟩
    · rw [puts.find?_other other (notOld other) notNew, childFound]
    · rw [puts.getElem?_places, if_neg different, childPlace]

/-- Moreover, every page is at its place in the parent if both are under
paging, and no page is in swap if the child is not. -/
structure Faithful (origin : Hosted (Fork AddressSpace)) (terms : Terms)
    (time stop : Nat) (state : Hosted (Fork AddressSpace)) : Prop extends
    Copied origin terms time stop state where
  places : bothPaging origin.focus = true →
    Adopts origin.focus.parent.ledger state.focus.child.ledger stop
  unpaged : origin.focus.child.isPaging = false → ∀ address,
    ((pager (childOf state)).entryAt address).isPagedOut = false

theorem Faithful.weaken {more : Nat}
    (faithful : Faithful origin terms more stop state) (le : time ≤ more) :
    Faithful origin terms time stop state where
  parent := faithful.parent
  left := ⟨faithful.left.ready.weaken le, faithful.left.changes⟩
  places := faithful.places
  unpaged := faithful.unpaged

theorem Faithful.of_alike (faithful : Faithful origin terms time stop state)
    (alike : Alike state after) : Faithful origin terms time stop after where
  toCopied := faithful.toCopied.of_kept (congrArg Fork.parent alike.focus)
    ((Kept.refl faithful.left.ready).unchanged alike.child)
  places both := by
    rw [alike.focus]
    exact faithful.places both
  unpaged notPaging := by
    rw [alike.child.parts]
    exact faithful.unpaged notPaging

/-- The bytes of a page are written to a borrowed frame, which is installed,
or goes back. -/
theorem meets_installFilled {origin state : Hosted AddressSpace}
    {frame : Nat} {contents : Page} {bytes : List UInt8} {flags : Flags}
    (lent : Lent origin terms (time + ((pager state).turns + 1)) none frame
      contents state)
    (length : bytes.length = pageSize)
    (aligned : Address.pageBase page = page)
    (absent : ((pager state).entryAt page).isPresent = false)
    (inside : terms.IsLax ∨ page < addressLimit)
    (accepted : terms.IsLax ∨ flags.read = true ∧ flags.pagedOut = false) :
    (Action.run (do
      writeFrame frame bytes
      install page frame flags) state).Meets terms.fatal
      (fun _ after => Left origin (fun before after =>
          before.Adds after page (page + pageSize)
            ⟨bytes, flags.permissions⟩) terms time after ∧
        ((pager state).isPaging = false → ∀ other,
          (pager after).entryAt other =
            if Address.pageBase other = page then
              Entry.point frame { flags with valid := true }
            else (pager state).entryAt other))
      fun _ => Kept origin terms time none := by
  refine Action.meets_bind (meets_fillFrame lent length) ?_
  rintro _ written ⟨filled, rfl, lentWritten, frames, writes⟩
  have sameCeiling : (pager state).turns = (pager written).turns := by
    rw [writes.parts]
    rfl
  rw [sameCeiling] at lentWritten
  have stillAbsent : ((pager written).entryAt page).isPresent = false := by
    rw [writes.parts]
    exact absent
  have installs := meets_install lentWritten aligned stillAbsent inside accepted
  rw [writes.parts] at installs
  exact installs

/-- A page is copied to a new frame, and the child tracks it itself if it
tracks pages at all. -/
theorem meets_enrollPage (safe : terms.IsLax ∨ Permits origin terms bound)
    (below : page < bound) (forkable : Forkable origin)
    (faithful : Faithful origin terms (time + pageTicks origin) page state)
    (notBoth : bothPaging origin.focus = false)
    (aligned : Address.pageBase page = page)
    (held : (pager (parentOf origin)).entryAt page = entry)
    (isPresent : entry.isPresent = true)
    (exclusive : entry.isValid = true → entry.isPagedOut = false)
    (knows : ∀ found, tracked = some found →
      (pager (parentOf origin)).residenceOf? page = some found.residence)
    (isKnown : origin.focus.parent.isPaging = true → tracked.isSome = true) :
    ((enrollPage page entry tracked).run state).Meets terms.fatal
      (fun _ => Faithful origin terms time (page + pageSize))
      (fun _ => Copied origin terms time page) := by
  have copied := faithful.toCopied
  have inSlot : entry.isPagedOut = true → terms.IsLax ∨ ∃ slot,
      (tracked.bind fun tracked => tracked.residence.slot?) = some slot ∧
        slot ≤ addressLimit / pageSize := fun isPagedOut =>
    safe.imp_right fun permits =>
      permits.slot_of_tracked aligned (held ▸ isPagedOut) knows isKnown
  rw [enrollPage]
  refine Action.meets_bind ((meets_inChild (meets_takeFrame
    copied.left.ready)).mono_failed
      fun _ _ failed => copied.of_kept failed.1
        (failed.2.weaken (Nat.le_add_right _ _))) ?_
  rintro frame taken ⟨sameParent, lent, _, takes⟩
  refine Action.meets_bind (Action.meets_onFailure (meets_readParent
    forkable.copyable (copied.beside_of_lent forkable sameParent lent) aligned
      held isPresent exclusive knows inSlot) ?_) ?_
  · intro _ broken alike
    have sameBroken : broken.focus.parent = state.focus.parent :=
      (congrArg Fork.parent alike.focus).trans sameParent
    have isCopied : ∀ after : Hosted (Fork AddressSpace),
        after.focus.parent = broken.focus.parent ∧
          Kept (childOf state) terms (time + pageTicks origin) none
            (childOf after) → Copied origin terms time page after :=
      fun _ kept => copied.of_kept (kept.1.trans sameBroken)
        (kept.2.weaken (Nat.le_add_right _ _))
    exact (meets_inChild ((meets_releaseFrame
      (lent.unchanged alike.child)).mono_done fun _ _ released =>
        released.1)).mono (fun _ after => isCopied after)
          fun _ after => isCopied after
  rintro bytes read ⟨length, shown, alike⟩
  have sameParent : read.focus.parent = state.focus.parent :=
    (congrArg Fork.parent alike.focus).trans sameParent
  -- The child has a frame less, and its pages are those that it had.
  have toRead := takes.trans alike.child
  rw [takes.parts] at toRead
  have ticks : pageTicks origin = (pager (childOf read)).turns + 1 := by
    have fromStart := copied.left.changes.parts.shape.turns
    rw [pageTicks, notBoth, if_neg Bool.false_ne_true, toRead.parts,
      ← fromStart]
    rfl
  have lentRead := lent.unchanged alike.child
  rw [ticks] at lentRead
  have absent : ((pager (childOf read)).entryAt page).isPresent = false := by
    rw [toRead.parts]
    exact copied.absent forkable
  refine (meets_inChild (meets_installFilled lentRead length aligned absent
    (safe.imp_right fun permits => permits.page_lt below)
    (safe.imp_right fun permits =>
      ⟨held ▸ permits.isRead below, rfl⟩))).mono
        (fun _ after installed => ?_)
        fun _ _ failed => copied.of_kept (failed.1.trans sameParent) failed.2
  obtain ⟨stillSame, left, entries⟩ := installed
  rw [toRead.parts] at entries
  refine ⟨copied.of_adds aligned shown (stillSame.trans sameParent) left,
    fun both => ?_, fun notPaging address => ?_⟩
  · cases notBoth.symm.trans both
  · have sameKind := copied.left.changes.parts.shape.isPaging
    rw [entries (sameKind.trans notPaging)]
    split
    · rfl
    · exact faithful.unpaged notPaging address

variable {handle : Nat} {new : Tracked}

/-- A page at its place in the parent. -/
structure AtPlace (parent : Pager) (page : Nat) (entry : Entry) (handle : Nat)
    (new : Tracked) : Prop where
  aligned : Address.pageBase page = page
  isPaging : parent.isPaging = true
  held : parent.entryAt page = entry
  isPresent : entry.isPresent = true
  exclusive : entry.isValid = true → entry.isPagedOut = false
  found : parent.ledger.find? page = some handle
  place : parent.ledger.places[handle]? = some new

theorem AtPlace.residenceOf? {parent : Pager}
    (atPlace : AtPlace parent page entry handle new)
    (consistent : parent.ledger.IsConsistent) :
    parent.residenceOf? page = some new.residence := by
  obtain ⟨same, samePlace, tracks⟩ :=
    consistent.find?_iff.mp atPlace.found
  cases atPlace.place.symm.trans samePlace
  exact consistent.residenceOf?_eq_some_iff.mpr
    ⟨handle, new, atPlace.place, tracks, rfl⟩

/-- The place of a page in memory says so. -/
theorem AtPlace.resident {parent : Pager}
    (atPlace : AtPlace parent page entry handle new)
    (copyable : parent.IsCopyable)
    (isValid : (parent.entryAt page).isValid = true)
    (notPagedOut : entry.isPagedOut = false) :
    new.residence = .resident page := by
  rw [← atPlace.held] at notPagedOut
  have known := copyable.resident atPlace.isPaging page atPlace.aligned isValid
    notPagedOut
  exact Option.some.inj
    ((atPlace.residenceOf? copyable.ledger).symm.trans known)

/-- User code sees of a page in swap what its slot holds. -/
theorem AtPlace.shown {parent : Pager} {bytes : List UInt8}
    (atPlace : AtPlace parent page entry handle new)
    (consistent : parent.ledger.IsConsistent)
    (isPagedOut : entry.isPagedOut = true)
    (slots : new.residence.slot? = some slot)
    (stored : parent.swap.contents? slot = some bytes) :
    parent.logicalPage? page = some ⟨bytes, entry.flags.permissions⟩ := by
  have notValid := Entry.isValid_of_isPagedOut atPlace.exclusive isPagedOut
  rw [Pager.logicalPage?, Pager.bytesAt?, atPlace.aligned, atPlace.held,
    notValid, if_neg Bool.false_ne_true, if_pos isPagedOut,
    atPlace.residenceOf? consistent, Option.bind_some, slots,
    Option.bind_some, stored]
  rfl

/-- The child's ledger has a part of what the parent's has. -/
theorem Faithful.shadows (faithful : Faithful origin terms time page state)
    (forkable : Forkable origin)
    (sound : (pager (parentOf origin)).Sound none)
    (both : bothPaging origin.focus = true) :
    state.focus.child.ledger.Shadows origin.focus.parent.ledger := by
  intro handle tracked held taken
  have soundChild := faithful.left.ready.sound
  have consistent : state.focus.child.ledger.IsConsistent := soundChild.ledger
  have tracks : tracked.Tracks tracked.address := ⟨taken, rfl⟩
  have known : (pager (childOf state)).residenceOf? tracked.address =
      some tracked.residence :=
    consistent.residenceOf?_eq_some_iff.mpr ⟨handle, tracked, held, tracks, rfl⟩
  have isThere := soundChild.isPresent_of_residenceOf? known
  rw [← soundChild.isSome_logicalPage?,
    faithful.left.changes.parts.logicalPage?] at isThere
  have below : tracked.address < page := by
    by_contra beyond
    rw [if_neg beyond, forkable.vacant.logicalPage?] at isThere
    cases isThere
  rw [if_pos below, sound.isSome_logicalPage?] at isThere
  obtain ⟨residence, parentKnown⟩ := sound.residence_of_isPresent
    (Bool.and_eq_true_iff.mp both).1 (soundChild.tracked _ _ known).2.1 isThere
  obtain ⟨other, same, found, place, _⟩ :=
    sound.ledger.find?_of_residenceOf? parentKnown
  obtain ⟨childFound, childPlace⟩ :=
    faithful.places both tracked.address other same below found place
  have atHandle := consistent.find?_iff.mpr ⟨tracked, held, tracks⟩
  cases childFound.symm.trans atHandle
  cases held.symm.trans childPlace
  exact place

/-- The parent's slot of a page that is not yet copied can be claimed in the
child. -/
theorem Faithful.claimable (faithful : Faithful origin terms time page state)
    (safe : terms.IsLax ∨ Permits origin terms bound) (below : page < bound)
    (forkable : Forkable origin) (both : bothPaging origin.focus = true)
    (known : (pager (parentOf origin)).residenceOf? page =
      some (.swapped page slot)) (cause : Fatal)
    (refused : state.focus.child.swap.claimAt slot = .error cause) :
    terms.fatal cause := by
  rcases safe with lax | permits
  · exact lax cause
  have soundChild := faithful.left.ready.sound
  rw [SwapSpace.claimAt] at refused
  split at refused
  · rename_i outside
    cases refused
    refine (permits.hasSlot both page slot below known).resolve_right
      fun inside => ?_
    have sameCapacity : state.focus.child.swap.capacity =
        origin.focus.child.swap.capacity :=
      faithful.left.changes.parts.shape.swapCapacity
    rw [← sameCapacity] at inside
    exact absurd (Array.getElem?_eq_none_iff.mp outside)
      (Nat.not_le_of_lt inside)
  · -- The page that has the slot in the child has it in the parent too.
    rename_i isUsed
    obtain ⟨other, childKnown⟩ := (soundChild.claimed slot).mp
      (SwapSpace.isClaimed_iff.mpr isUsed)
    obtain ⟨handle, tracked, place, tracks, swapped⟩ :=
      soundChild.ledger.residenceOf?_eq_some_iff.mp childKnown
    have parentKnown : (pager (parentOf origin)).residenceOf? other =
        some (.swapped other slot) :=
      permits.sound.ledger.residenceOf?_eq_some_iff.mpr ⟨handle, tracked,
        faithful.shadows forkable permits.sound both handle tracked place
          tracks.1, tracks, swapped⟩
    cases permits.sound.slot_inj other page slot parentKnown known
    have isThere := soundChild.isPresent_of_residenceOf? childKnown
    rw [faithful.toCopied.absent forkable] at isThere
    cases isThere
  · cases refused

/-- The child takes over every page that it does not have yet. -/
theorem Faithful.adoptable (faithful : Faithful origin terms time page state)
    (safe : terms.IsLax ∨ Permits origin terms bound)
    (forkable : Forkable origin) (both : bothPaging origin.focus = true)
    (atPlace : AtPlace (pager (parentOf origin)) page entry handle new)
    (cause : Fatal)
    (refused : state.focus.child.ledger.adopt handle new = .error cause) :
    terms.fatal cause := by
  rcases safe with lax | permits
  · exact lax cause
  have soundChild := faithful.left.ready.sound
  have shape := faithful.left.changes.parts.shape
  obtain ⟨sameResident, sameSwap⟩ :=
    Bool.and_eq_true_iff.mp (permits.sameLimits both)
  rw [beq_iff_eq] at sameResident sameSwap
  have sameConfig : state.focus.child.config = origin.focus.child.config :=
    shape.config
  have capacity : state.focus.child.ledger.capacity =
      origin.focus.parent.ledger.capacity := by
    refine soundChild.fits.capacity_eq.trans
      (Eq.trans ?_ permits.sound.fits.capacity_eq.symm)
    change state.focus.child.config.maxResident +
      state.focus.child.config.maxSwap = origin.focus.parent.config.maxResident +
        origin.focus.parent.config.maxSwap
    rw [sameConfig, sameResident, sameSwap]
  have ceiling : origin.focus.parent.ledger.residentCount ≤
      state.focus.child.ledger.maxResident := by
    have childMax : state.focus.child.ledger.maxResident =
        state.focus.child.config.maxResident := soundChild.fits.maxResident_eq
    have parentMax : origin.focus.parent.ledger.maxResident =
        origin.focus.parent.config.maxResident :=
      permits.sound.fits.maxResident_eq
    rw [childMax, sameConfig, ← sameResident, ← parentMax]
    exact permits.ceiling
  have missing : state.focus.child.ledger.find? page = none := by
    have unknown := soundChild.residenceOf?_of_not_isPresent
      (faithful.toCopied.absent forkable)
    exact soundChild.ledger.residenceOf?_eq_none_iff.mp unknown
  obtain ⟨after, adopted⟩ := (faithful.shadows forkable permits.sound
    both).exists_adopt soundChild.ledger permits.sound.ledger capacity ceiling
      atPlace.found atPlace.place missing
  cases refused.symm.trans adopted

/-- A page that took its place in the child has been copied with it. -/
theorem Faithful.of_adopts (faithful : Faithful origin terms time page state)
    (forkable : Forkable origin) (both : bothPaging origin.focus = true)
    (atPlace : AtPlace (pager (parentOf origin)) page entry handle new)
    {memory : LogicalPage}
    (shown : (pager (parentOf origin)).logicalPage? page = some memory)
    (parent : after.focus.parent = state.focus.parent)
    (left : Left (childOf state) (fun before after =>
      before.Adds after page (page + pageSize) memory) terms time
        (childOf after))
    (adopted : state.focus.child.ledger.adopt handle new =
      .ok after.focus.child.ledger) :
    Faithful origin terms time (page + pageSize) after where
  toCopied := faithful.toCopied.of_adds atPlace.aligned shown parent left
  places _ := (faithful.places both).adopt forkable.copyable.ledger
    (forkable.copyable.aligned atPlace.isPaging) atPlace.aligned
    atPlace.found atPlace.place adopted
  unpaged notPaging := by
    cases notPaging.symm.trans (Bool.and_eq_true_iff.mp both).2

theorem Faithful.isPaging (faithful : Faithful origin terms time stop state)
    (both : bothPaging origin.focus = true) :
    (pager (childOf state)).isPaging = true :=
  faithful.left.changes.parts.shape.isPaging.trans
    (Bool.and_eq_true_iff.mp both).2

/-- A page in swap is taken over. -/
theorem meets_adoptSlot (safe : terms.IsLax ∨ Permits origin terms bound)
    (below : page < bound) (forkable : Forkable origin)
    (faithful : Faithful origin terms time page state)
    (both : bothPaging origin.focus = true)
    (atPlace : AtPlace (pager (parentOf origin)) page entry handle new)
    (isPagedOut : entry.isPagedOut = true)
    (slots : new.residence.slot? = some slot) :
    (Action.run (do
      copySlot page slot entry.flags
      inChild (onLedger (Action.change fun ledger =>
        ledger.adopt handle new))) state).Meets terms.fatal
      (fun _ => Faithful origin terms time (page + pageSize))
      (fun _ => Copied origin terms time page) := by
  have known := atPlace.residenceOf? forkable.copyable.ledger
  have swapped := forkable.copyable.ledger.eq_swapped_of_slot? known slots
  rw [swapped] at known
  have low : terms.IsLax ∨ slot ≤ addressLimit / pageSize :=
    safe.imp_right fun permits => permits.strict.slot_le slot
      ((permits.sound.claimed slot).mpr ⟨page, known⟩)
  have overflow : Word.limit ≤ slot * pageSize → terms.fatal .overflow :=
    fun late => low.elim (fun lax => lax _) fun low =>
      absurd late (Nat.not_le_of_lt (Pager.offset_lt low))
  rw [copySlot, bind_assoc]
  refine Action.meets_bind ((meets_loadFromParent overflow).mono_failed
    fun _ _ alike => (faithful.of_alike alike).toCopied) ?_
  rintro bytes loaded ⟨stored, alike⟩
  have sameSwap : (pager (parentOf state)).swap =
      (pager (parentOf origin)).swap :=
    congrArg AddressSpace.swap faithful.parent
  rw [sameSwap] at stored
  have shown := atPlace.shown forkable.copyable.ledger isPagedOut slots stored
  have faithful := faithful.of_alike alike
  have ready := faithful.left.ready
  refine Action.meets_bind ((meets_inChild (meets_receiveSlot ready
    (SwapSpace.length_of_contents? stored) atPlace.aligned
    (safe.imp_right fun permits => permits.page_lt below)
    (faithful.claimable safe below forkable both known) low)).mono_failed
      fun _ _ failed => faithful.toCopied.of_kept failed.1 failed.2) ?_
  rintro _ received ⟨sameParent, table, swap, receives, becomes⟩
  have sameLedger : (pager (childOf received)).ledger =
      loaded.focus.child.ledger := by
    rw [becomes.parts]
    rfl
  have strict : terms.IsLax ∨
      entry.flags.read = true ∧ slot ≤ addressLimit / pageSize := by
    rcases safe with lax | permits
    · exact .inl lax
    · exact low.imp_right fun low => ⟨atPlace.held ▸ permits.isRead below, low⟩
  refine (meets_inChild ((meets_adopt_of_received ready receives becomes
    atPlace.aligned (faithful.isPaging both)
    (faithful.toCopied.absent forkable)
    (Entry.isValid_of_isPagedOut atPlace.exclusive isPagedOut) isPagedOut
    swapped strict
    (sameLedger ▸ faithful.adoptable safe forkable both atPlace)).mono
      (fun _ _ done => done)
      fun _ _ (impossible : False) => impossible)).mono ?_
        fun _ _ isFailed => isFailed.2.elim
  rintro _ after ⟨stillSame, left, adopted⟩
  rw [sameLedger] at adopted
  exact faithful.of_adopts forkable both atPlace shown
    (stillSame.trans sameParent) left adopted

/-- The bytes of a page are written to a borrowed frame, which is mapped, or
goes back.  The ledger does not change. -/
theorem meets_placeFilled {origin state : Hosted AddressSpace}
    {frame : Nat} {contents : Page} {bytes : List UInt8} {flags : Flags}
    (lent : Lent origin terms time none frame contents state)
    (length : bytes.length = pageSize)
    (aligned : Address.pageBase page = page)
    (absent : ((pager state).entryAt page).isPresent = false)
    (inside : terms.IsLax ∨ page < addressLimit)
    (accepted : terms.IsLax ∨ flags.read = true ∧ flags.pagedOut = false) :
    (Action.run (do
      writeFrame frame bytes
      place page frame flags) state).Meets terms.fatal
      (fun _ after => Placed origin terms time page frame flags
          ⟨bytes, flags.permissions⟩ after ∧
        (pager after).ledger = (pager state).ledger)
      fun _ => Kept origin terms time none := by
  refine Action.meets_bind (meets_fillFrame lent length) ?_
  rintro _ written ⟨filled, rfl, lentWritten, frames, writes⟩
  have stillAbsent : ((pager written).entryAt page).isPresent = false := by
    rw [writes.parts]
    exact absent
  refine (meets_place lentWritten aligned stillAbsent inside accepted).mono_done
    fun _ after done => ?_
  obtain ⟨placed, table, _, becomes⟩ := done
  refine ⟨placed, ?_⟩
  rw [becomes.parts, writes.parts]

/-- A page in memory is taken over. -/
theorem meets_adoptFrame (safe : terms.IsLax ∨ Permits origin terms bound)
    (below : page < bound) (forkable : Forkable origin)
    (faithful : Faithful origin terms time page state)
    (both : bothPaging origin.focus = true)
    (atPlace : AtPlace (pager (parentOf origin)) page entry handle new)
    (notPagedOut : entry.isPagedOut = false) :
    (Action.run (do
      copyFrame page entry.address entry.flags
      inChild (onLedger (Action.change fun ledger =>
        ledger.adopt handle new))) state).Meets terms.fatal
      (fun _ => Faithful origin terms time (page + pageSize))
      (fun _ => Copied origin terms time page) := by
  have copied := faithful.toCopied
  have isValid := atPlace.isPresent
  rw [Entry.isPresent, notPagedOut, Bool.or_false, ← atPlace.held] at isValid
  obtain ⟨contents, lentToParent⟩ := forkable.copyable.framed page isValid
  have shown := Pager.logicalPage?_of_isValid isValid lentToParent
  rw [atPlace.held] at lentToParent shown
  rw [copyFrame, bind_assoc]
  refine Action.meets_bind ((meets_inChild (meets_takeFrame
    copied.left.ready)).mono_failed
      fun _ _ failed => copied.of_kept failed.1 failed.2) ?_
  rintro frame taken ⟨sameParent, lent, _, takes⟩
  have beside := copied.beside_of_lent forkable sameParent lent
  rw [bind_assoc, Action.run_bind_of_done (run_inParent_of_done (run_readFrame
    beside.served (beside.frames _ _ lentToParent)))]
  have absent : ((pager (childOf taken)).entryAt page).isPresent = false := by
    rw [takes.parts]
    exact copied.absent forkable
  refine Action.meets_bind ((meets_inChild (meets_placeFilled lent
    (Vector.length_toList ..) atPlace.aligned absent
    (safe.imp_right fun permits => permits.page_lt below)
    (safe.imp_right fun permits =>
      ⟨atPlace.held ▸ permits.isRead below, notPagedOut⟩))).mono_failed
        fun _ _ failed => copied.of_kept
          (failed.1.trans sameParent) failed.2) ?_
  rintro _ mapped ⟨stillSame, placed, sameLedger⟩
  rw [takes.parts] at sameLedger
  have isPaging : (pager (childOf mapped)).isPaging = true :=
    placed.changes.parts.shape.isPaging.trans (faithful.isPaging both)
  refine (meets_inChild ((meets_adopt_of_placed placed atPlace.aligned
    isPaging notPagedOut
    (atPlace.resident forkable.copyable isValid notPagedOut)
    (sameLedger ▸ faithful.adoptable safe forkable both atPlace)).mono
      (fun _ _ done => done) fun _ _ (impossible : False) => impossible)).mono ?_
        fun _ _ isFailed => isFailed.2.elim
  rintro _ after ⟨toAfter, left, adopted⟩
  rw [sameLedger] at adopted
  exact faithful.of_adopts forkable both atPlace shown
    ((toAfter.trans stillSame).trans sameParent) left adopted

/-- A page is taken over at its place in the parent. -/
theorem meets_adoptPage (safe : terms.IsLax ∨ Permits origin terms bound)
    (below : page < bound) (forkable : Forkable origin)
    (faithful : Faithful origin terms time page state)
    (both : bothPaging origin.focus = true)
    (atPlace : AtPlace (pager (parentOf origin)) page entry handle new) :
    ((adoptPage page entry handle new).run state).Meets terms.fatal
      (fun _ => Faithful origin terms time (page + pageSize))
      (fun _ => Copied origin terms time page) := by
  rw [adoptPage]
  cases isPagedOut : entry.isPagedOut with
  | true =>
      rw [if_pos rfl]
      cases slots : new.residence.slot? with
      | none =>
          rcases safe with lax | permits
          · exact lax _
          · obtain ⟨slot, known, _⟩ := permits.exists_slot atPlace.aligned
              (atPlace.held ▸ isPagedOut)
            rw [atPlace.residenceOf? permits.sound.ledger] at known
            rw [Option.some.inj known] at slots
            cases slots
      | some slot =>
          exact meets_adoptSlot safe below forkable faithful both atPlace
            isPagedOut slots
  | false =>
      rw [if_neg Bool.false_ne_true]
      exact meets_adoptFrame safe below forkable faithful both atPlace
        isPagedOut

/-- A page that the parent tracks is copied. -/
theorem meets_copyTracked (safe : terms.IsLax ∨ Permits origin terms bound)
    (below : page < bound) (forkable : Forkable origin)
    (faithful : Faithful origin terms (time + pageTicks origin) page state)
    (aligned : Address.pageBase page = page)
    (isPaging : (pager (parentOf origin)).isPaging = true)
    (held : (pager (parentOf origin)).entryAt page = entry)
    (isPresent : entry.isPresent = true)
    (exclusive : entry.isValid = true → entry.isPagedOut = false) :
    ((copyTracked page entry).run state).Meets terms.fatal
      (fun _ => Faithful origin terms time (page + pageSize))
      (fun _ => Copied origin terms time page) := by
  have copied := faithful.toCopied
  have sameParent := copied.parent
  rw [copyTracked, Action.run_bind_of_done (Action.run_read _ _), sameParent]
  cases found : origin.focus.parent.ledger.find? page with
  | none =>
      rcases safe with lax | permits
      · exact lax _
      · obtain ⟨handle, _, isFound, _⟩ :=
          permits.exists_place isPaging aligned below
        cases found.symm.trans isFound
  | some handle =>
      rw [Action.run_bind_of_done (Action.run_orCrash_some _ _ _),
        Action.liftM_eq_ofExcept]
      cases looked : origin.focus.parent.ledger.get handle with
      | error cause =>
          rw [Action.run_bind_of_fatal (Action.run_ofExcept_error _ _)]
          obtain ⟨tracked, place, _⟩ :=
            forkable.copyable.ledger.find?_iff.mp found
          cases looked.symm.trans (Ledger.get_eq_ok_iff.mpr place)
      | ok new =>
          rw [Action.run_bind_of_done (Action.run_ofExcept_ok _ _)]
          have atPlace : AtPlace (pager (parentOf origin)) page entry handle
              new :=
            ⟨aligned, isPaging, held, isPresent, exclusive, found,
              Ledger.get_eq_ok_iff.mp looked⟩
          have sameKind : state.focus.child.isPaging =
              origin.focus.child.isPaging :=
            copied.left.changes.parts.shape.isPaging
          cases isTracking : origin.focus.child.isPaging with
          | true =>
              rw [sameKind, isTracking, if_pos rfl]
              have both : bothPaging origin.focus = true :=
                Bool.and_eq_true_iff.mpr ⟨isPaging, isTracking⟩
              exact meets_adoptPage safe below forkable
                (faithful.weaken (Nat.le_add_right _ _)) both atPlace
          | false =>
              rw [sameKind, isTracking, if_neg Bool.false_ne_true]
              have notBoth : bothPaging origin.focus = false :=
                Bool.and_eq_false_iff.mpr (.inr isTracking)
              refine meets_enrollPage safe below forkable faithful notBoth
                aligned held isPresent exclusive ?_ fun _ => rfl
              rintro _ ⟨⟩
              exact atPlace.residenceOf? forkable.copyable.ledger

/-- A page of the parent is copied, or the child is as it was. -/
theorem meets_copyPage (safe : terms.IsLax ∨ Permits origin terms bound)
    (below : page < bound) (forkable : Forkable origin)
    (faithful : Faithful origin terms (time + pageTicks origin) page state)
    (aligned : Address.pageBase page = page) :
    ((copyPage page).run state).Meets terms.fatal
      (fun _ => Faithful origin terms time (page + pageSize))
      (fun _ => Copied origin terms time page) := by
  have sameParent : (parentOf state).focus = origin.focus.parent :=
    faithful.toCopied.parent
  rw [copyPage]
  by_cases inside : page < addressLimit
  swap
  · have refused : (inParent (lookup page)).run state =
        .fatal (.walkBeyondLimit page) := by
      have ended : (lookup page).run (parentOf state) =
          .fatal (.walkBeyondLimit page) :=
        run_lookup_of_le (Nat.le_of_not_lt inside)
      change (Action.zoom parentOf (fun changed whole =>
        ⟨{ whole.focus with parent := changed.focus }, changed.host⟩)
          (lookup page)).run state = _
      rw [Action.run_zoom, ended]
    rw [Action.run_bind_of_fatal refused]
    rcases safe with lax | permits
    · exact lax _
    · exact absurd (permits.page_lt below) inside
  rw [Action.run_bind_of_done (run_inParent_of_done
    (run_lookup_of_lt inside)), sameParent]
  cases found : origin.focus.parent.table.get? page with
  | none =>
      rcases safe with lax | permits
      · exact lax _
      · have isPresent := permits.isPresent below
        have isEmpty : (pager (parentOf origin)).entryAt page = Entry.empty :=
          PageTable.entryAt_of_get?_none found
        rw [isEmpty] at isPresent
        cases isPresent
  | some entry =>
      have held : (pager (parentOf origin)).entryAt page = entry :=
        PageTable.entryAt_of_get? found
      rw [Action.run_bind_of_done (Action.run_orCrash_some _ _ _)]
      refine Action.meets_crashUnless_bind (fun absent =>
        safe.elim (fun lax => lax _) fun permits =>
          absurd (held ▸ permits.isPresent below) absent) fun isPresent => ?_
      refine Action.meets_crashUnless_bind (fun isBoth => ?_) fun notBoth => ?_
      · rcases safe with lax | permits
        · exact lax _
        · exact absurd (Entry.not_both
            (held ▸ (permits.strict.entries page).exclusive)) isBoth
      have exclusive : entry.isValid = true → entry.isPagedOut = false := by
        intro isValid
        rw [isValid, Bool.true_and, Bool.not_eq_true'] at notBoth
        exact notBoth
      have looked : (inParent (look isPaging)).run state =
          .done (parentOf state).focus.isPaging state :=
        run_inParent_of_done rfl
      rw [Action.run_bind_of_done looked, sameParent]
      cases isPaging : origin.focus.parent.isPaging with
      | true =>
          rw [if_pos rfl]
          exact meets_copyTracked safe below forkable faithful aligned
            isPaging held isPresent exclusive
      | false =>
          rw [if_neg Bool.false_ne_true]
          have notBoth : bothPaging origin.focus = false :=
            Bool.and_eq_false_iff.mpr (.inl isPaging)
          exact meets_enrollPage safe below forkable faithful notBoth aligned
            held isPresent exclusive (fun _ impossible => nomatch impossible)
            fun isOn => absurd (isOn.symm.trans isPaging) (by decide)

end AddressSpace

end DemandPaging
