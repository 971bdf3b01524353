import DemandPaging.Proofs.Effects.PagedIn
import DemandPaging.Proofs.Mapping.Tracking
import DemandPaging.Proofs.UserCopy.Exchange

/-!
# Page-ins that user code does not see

A page-in of a formed space replaces a page in memory if it has to, or it fails
and leaves every page where it is.  Either way the space is formed afterwards,
shows what it showed, and only the page that was asked for is brought in
(`Carries`).
-/

namespace DemandPaging

theorem accessed_of_afterChances {spared : List Nat} {address : Nat}
    {entry : Entry}
    (accessed : (afterChances spared address entry).flags.accessed = true) :
    entry.flags.accessed = true := by
  rw [afterChances] at accessed
  split at accessed
  · exact (Bool.and_eq_true_iff.mp accessed).1
  · exact accessed

theorem generation_le_of_settle {policy : Policy} {ledger settled : Ledger}
    {handle page : Nat} (consistent : ledger.IsConsistent)
    (settles : settle policy ledger handle page = .ok settled) :
    settled.generation ≤ ledger.generation + 1 := by
  rw [settle, bind_eq_ok_iff] at settles
  obtain ⟨marked, marks, loads⟩ := settles
  obtain ⟨_, old, place, kinds⟩ := Ledger.markResident_eq_ok_iff.mp marks
  have puts : ledger.Puts handle old
      { old with residence := .resident page } marked ∧
        marked.generation = ledger.generation := by
    obtain ⟨unused, missing, rfl⟩ | ⟨_, swapped, rfl⟩ := kinds
    · exact ⟨Ledger.puts_resident_of_free place unused missing, rfl⟩
    · exact ⟨Ledger.puts_resident_of_swapped consistent place swapped, rfl⟩
  have atPlace : marked.places[handle]? =
      some { old with residence := .resident page } :=
    (puts.1.getElem?_places handle).trans (if_pos rfl)
  obtain ⟨_, _, refused⟩ | ⟨_, loaded, ranks⟩ :=
    policy.onLoad_cases (puts.1.isConsistent consistent) atPlace
  · cases refused.symm.trans loads
  · cases loaded.symm.trans loads
    rw [← puts.2]
    exact ranks.generation_le

namespace AddressSpace

variable {state before after roomy : Hosted AddressSpace}
  {handle slot page frame : Nat}

/-- A change of entries that sets no mark leaves no page marked that was
not. -/
theorem accessed_of_get? {address : Nat} {change : Entry → Entry}
    (shown : after.focus.table.get? address =
      (before.focus.table.get? address).map change)
    (unmarked : ∀ entry : Entry, (change entry).flags.accessed = true →
      entry.flags.accessed = true)
    (accessed : ((pager after).entryAt address).flags.accessed = true) :
    ((pager before).entryAt address).flags.accessed = true := by
  cases found : before.focus.table.get? address with
  | none =>
      rw [found] at shown
      have isEmpty : (pager after).entryAt address = Entry.empty :=
        PageTable.entryAt_of_get?_none shown
      rw [isEmpty] at accessed
      cases accessed
  | some entry =>
      rw [found] at shown
      have held : (pager before).entryAt address = entry :=
        PageTable.entryAt_of_get? found
      have now : (pager after).entryAt address = change entry :=
        PageTable.entryAt_of_get? shown
      rw [now] at accessed
      rw [held]
      exact unmarked entry accessed

/-- A page is where it was if the places that have it are the same. -/
theorem residenceOf?_congr (consistent : before.focus.ledger.IsConsistent)
    (isConsistent : after.focus.ledger.IsConsistent)
    (same : ∀ handle residence, residence.address = page →
      (after.focus.ledger.residenceAt? handle = some residence ↔
        before.focus.ledger.residenceAt? handle = some residence)) :
    (pager after).residenceOf? page = (pager before).residenceOf? page := by
  refine Option.ext fun residence => ?_
  change after.focus.ledger.residenceOf? page = some residence ↔
    before.focus.ledger.residenceOf? page = some residence
  rw [isConsistent.residenceOf?_eq_some_iff_residenceAt?,
    consistent.residenceOf?_eq_some_iff_residenceAt?]
  exact and_congr_right fun _ => and_congr_right fun address =>
    exists_congr fun handle => same handle residence address

/-- Where there is room for a page, slots and frames are consistent. -/
theorem Room.consistent (room : Room state slot roomy)
    (formed : IsFormed state)
    (claimed : state.focus.swap.isClaimed slot = true) :
    roomy.focus.swap.IsConsistent ∧ (pager roomy).frames.IsConsistent ∧
      (pager roomy).frames.total = (pager state).frames.total ∧
      IsServed roomy := by
  have releases : ∀ {swap released : SwapSpace}, swap.IsConsistent →
      swap.isClaimed slot = true → swap.release slot = .ok released →
        released.IsConsistent := by
    intro swap released consistent isClaimed gave
    obtain ⟨_, success, isConsistent, _⟩ :=
      SwapSpace.release_of_isClaimed consistent isClaimed
    cases success.symm.trans gave
    exact isConsistent
  have departs : ∀ {spare : Option Nat} (departure : Departure state spare),
      departure.after.focus.swap.IsConsistent ∧
      (pager departure.after).frames.IsConsistent ∧
      (pager departure.after).frames.total = (pager state).frames.total ∧
      IsServed departure.after := by
    intro spare departure
    have frames : (pager departure.after).frames = departure.frames :=
      departure.pool_after
    refine ⟨?_, ?_, ?_, IsServed.withFrames formed.pool_lt departure.frames⟩
    · change departure.target.IsConsistent
      have targets := departure.targets
      cases spare with
      | some given =>
          rw [targets.2]
          exact formed.swap
      | none => exact departure.isConsistent_target formed.swap
    · rw [frames]
      exact formed.pool.release departure.released
    · rw [frames]
      exact FramePool.total_of_release departure.released
  cases room with
  | vacant _ released =>
      exact ⟨releases formed.swap claimed released, formed.pool, rfl,
        formed.pool_lt⟩
  | exchanged _ _ departure released =>
      obtain ⟨swap, rest⟩ := departs departure
      exact ⟨releases swap (departure.isClaimed_after claimed) released, rest⟩
  | handedOver _ _ departure => exact departs departure

namespace PageReturn

variable (back : PageReturn state handle slot page)
  (formed : IsFormed state) (isPaging : state.focus.isPaging = true)
  (known : state.focus.ledger.residenceAt? handle = some (.swapped page slot))

include formed isPaging known

theorem regular : Regular state back.after := by
  have landed := formed.landed back.toArrival
  obtain ⟨swap, frames, total, served⟩ := back.room.consistent landed
    (claimed_of_swapped landed isPaging known)
  obtain ⟨_, settled⟩ := back.settled formed isPaging known
  have setting := back.setting formed isPaging known
  have landedTotal : (pager back.landed).frames.total =
      (pager state).frames.total := by
    change (back.landed.host.pool state.focus.pool).total = _
    rw [back.pool_landed]
    exact (FramePool.total_of_write back.writes).trans
      (FramePool.total_of_allocate back.takes)
  refine ⟨⟨setting.config, setting.isPaging, setting.maxResident,
    setting.capacity, setting.slots, total.trans landedTotal⟩, served,
    settled.isConsistent, swap, frames, ?_⟩
  change back.ledger.residentCount ≤ back.ledger.maxResident
  rw [settled.residentCount, settled.maxResident]
  exact settled.room

theorem generation_le : back.after.focus.ledger.generation ≤
    state.focus.ledger.generation +
      (state.focus.ledger.residentCount + 1) := by
  have hasRoom :=
    back.room.hasRoom (formed.landed back.toArrival) isPaging known
  have made : back.roomy.focus.ledger.generation ≤
      state.focus.ledger.generation + state.focus.ledger.residentCount :=
    hasRoom.generation_le
  have settled := generation_le_of_settle hasRoom.isConsistent back.settles
  change back.ledger.generation ≤ _
  omega

/-- The place and the entry of the page that came back. -/
theorem standing_page :
    (pager state).residenceOf? page = some (.swapped page slot) ∧
    (pager back.after).residenceOf? page = some (.resident page) ∧
    (pager back.after).entryAt page =
      Entry.resident back.frame ((pager state).entryAt page).flags := by
  have returns := back.returns formed isPaging known
  obtain ⟨_, place, swapped⟩ := Option.map_eq_some_iff.mp known
  obtain ⟨entry, found, _, _, now⟩ := returns.entry
  have before : (pager state).entryAt page = entry :=
    PageTable.entryAt_of_get? found
  refine ⟨formed.ledger.residenceOf?_of_swapped place swapped,
    residenceOf?_of_residenceAt? (back.regular formed isPaging known).ledger
      returns.residence, ?_⟩
  rw [before]
  exact PageTable.entryAt_of_get? now

theorem residenceAt?_handle_iff {residence : Residence}
    (elsewhere : residence.address ≠ page) :
    back.after.focus.ledger.residenceAt? handle = some residence ↔
      state.focus.ledger.residenceAt? handle = some residence := by
  rw [(back.returns formed isPaging known).residence, known]
  refine iff_of_false ?_ ?_ <;>
    · rintro ⟨⟩
      exact elsewhere rfl

theorem replaces_of_alone
    (alone : ReturnsAlone state back.after handle page slot back.frame) :
    Replaces state back.after page slot back.frame none := by
  have returns := back.returns formed isPaging known
  have regular := back.regular formed isPaging known
  obtain ⟨wasSwapped, resident, entry⟩ :=
    back.standing_page formed isPaging known
  obtain ⟨bytes, _, held, arrived⟩ := returns.bytes
  have sameEntry : ∀ address, Address.pageBase address ≠ page →
      (pager back.after).entryAt address = (pager state).entryAt address :=
    fun address elsewhere => congrArg (Option.getD · Entry.empty)
      (alone.entry address elsewhere)
  exact {
    toRegular := regular
    known := wasSwapped
    resident := resident
    entry := entry
    fresh := returns.fresh
    bytes := ⟨bytes, held, arrived⟩
    leaves := nofun
    marks := fun address elsewhere _ => by
      rw [sameEntry address elsewhere]
      exact .refl _
    accessed := fun address elsewhere accessed => by
      rwa [sameEntry address elsewhere] at accessed
    residenceOf? := by
      intro other elsewhere _
      refine residenceOf?_congr formed.ledger regular.ledger
        fun place residence address => ?_
      by_cases here : place = handle
      · rw [here]
        exact back.residenceAt?_handle_iff formed isPaging known
          (address ▸ elsewhere)
      · rw [Ledger.residenceAt?, alone.place place here, Ledger.residenceAt?]
    isClaimed_iff := by
      intro number
      rw [alone.isClaimed]
      by_cases here : number = slot <;> simp [here]
    target := nofun
    slotBytes? := fun number _ => alone.slotBytes? number
    frameBytes? := fun number elsewhere _ =>
      alone.frameBytes? number elsewhere }

/-- The page that left is in swap. -/
theorem goesToSwap_of_exchanges {spared : List Nat}
    {other otherPage otherFrame target : Nat}
    (exchanges : Exchanges state back.after handle page slot back.frame
      spared other otherPage otherFrame target) :
    GoesToSwap state back.after ⟨otherPage, otherFrame, target⟩ := by
  have regular := back.regular formed isPaging known
  obtain ⟨wasSwapped, _, _⟩ := back.standing_page formed isPaging known
  have wasResident :=
    residenceOf?_of_residenceAt? formed.ledger exchanges.chooses.resident
  have aligned := (formed.tracked isPaging wasResident).1
  obtain ⟨entry, found, _, atFrame⟩ := exchanges.mapped
  have different : Address.pageBase otherPage ≠ page := by
    rw [aligned]
    rintro rfl
    cases wasSwapped.symm.trans wasResident
  have before : (pager state).entryAt otherPage = entry :=
    PageTable.entryAt_of_get? found
  have after : (pager back.after).entryAt otherPage =
      Entry.pagedOut (afterChances spared otherPage entry).flags := by
    have shown := exchanges.entry otherPage different
    rw [found, Option.map_some, if_pos aligned] at shown
    exact PageTable.entryAt_of_get? shown
  have residence := (exchanges.residence other exchanges.different).trans
    (if_pos rfl)
  obtain ⟨bytes, _, left, stored⟩ := exchanges.stored
  exact {
    wasResident := wasResident
    address := by rw [before, atFrame]
    isSwapped := regular.ledger.residenceOf?_eq_some_iff_residenceAt?.mpr
      ⟨rfl, rfl, other, residence⟩
    notValid := by rw [after]; rfl
    isPagedOut := by rw [after]; rfl
    permissions := by
      rw [after, before]
      exact (sameButMarks_afterChances spared otherPage entry).permissions
    bytes := ⟨bytes, left, stored⟩ }

/-- Where another page left. -/
theorem replaces_of_exchanges {spared : List Nat}
    {other otherPage otherFrame target : Nat}
    (exchanges : Exchanges state back.after handle page slot back.frame
      spared other otherPage otherFrame target) :
    Replaces state back.after page slot back.frame
      (some ⟨otherPage, otherFrame, target⟩) := by
  have returns := back.returns formed isPaging known
  have regular := back.regular formed isPaging known
  obtain ⟨wasSwapped, resident, entry⟩ :=
    back.standing_page formed isPaging known
  obtain ⟨bytes, _, held, arrived⟩ := returns.bytes
  exact {
    toRegular := regular
    known := wasSwapped
    resident := resident
    entry := entry
    fresh := returns.fresh
    bytes := ⟨bytes, held, arrived⟩
    leaves := by
      rintro _ ⟨⟩
      exact back.goesToSwap_of_exchanges formed isPaging known exchanges
    marks := by
      intro address elsewhere stays
      refine PageTable.sameButMarks_of_get? (exchanges.entry address elsewhere)
        fun entry => ?_
      rw [if_neg (stays _ rfl)]
      exact sameButMarks_afterChances spared address entry
    accessed := fun address elsewhere accessed =>
      accessed_of_get? (exchanges.entry address elsewhere) (fun entry marked =>
        accessed_of_afterChances (by split at marked <;> exact marked))
        accessed
    residenceOf? := by
      intro third elsewhere stays
      refine residenceOf?_congr formed.ledger regular.ledger
        fun place residence address => ?_
      by_cases here : place = handle
      · rw [here]
        exact back.residenceAt?_handle_iff formed isPaging known
          (address ▸ elsewhere)
      · rw [exchanges.residence place here]
        by_cases there : place = other
        · rw [if_pos there, there, exchanges.chooses.resident]
          refine iff_of_false ?_ ?_ <;>
            · rintro ⟨⟩
              exact stays _ rfl address.symm
        · rw [if_neg there]
    isClaimed_iff := by
      intro number
      rw [exchanges.isClaimed]
      by_cases here : number = target
      · simp [here]
      · have notTarget : target ≠ number := Ne.symm here
        by_cases there : number = slot
        · subst there
          simp [here, notTarget]
        · simp [here, there, notTarget]
    target := by
      rintro _ ⟨⟩
      by_cases noSlot : state.focus.swap.freeSlots = 0
      · exact .inl (exchanges.handedOver.mpr noSlot)
      · exact .inr (exchanges.lowest noSlot).isFree
    slotBytes? := fun number stays =>
      exchanges.slotBytes? number (stays _ rfl)
    frameBytes? := by
      intro number elsewhere stays
      rw [exchanges.frameBytes? number elsewhere, if_neg (stays _ rfl)] }

theorem exists_replaces : ∃ leaver,
    Replaces state back.after page slot back.frame leaver := by
  obtain alone | ⟨_, _, _, _, _, exchanges⟩ :=
    back.moves formed isPaging known
  · exact ⟨none, back.replaces_of_alone formed isPaging known alone⟩
  · exact ⟨_, back.replaces_of_exchanges formed isPaging known exchanges⟩

end PageReturn

/-- A claimed slot is beyond what a word can address. -/
def HasFarSlot (state : Hosted AddressSpace) : Prop :=
  ∃ number, state.focus.swap.isClaimed number = true ∧
    Word.limit ≤ number * pageSize

theorem IsFormed.offset_lt_of_claim {number : Nat} {target : SwapSpace}
    (formed : IsFormed state) (isPaging : state.focus.isPaging = true)
    (claims : state.focus.swap.claim = (some number, target)) :
    number * pageSize < Word.limit := by
  have sound :=
    formed.backed.sound isPaging (isStored_backed formed isPaging)
  exact Pager.offset_lt (Nat.le_trans
    (SwapSpace.le_inUse_of_claim formed.swap claims) sound.inUse_le_pages)

/-- A slot is near, or it was claimed before there was room. -/
theorem Room.isClaimed_or_near (room : Room state slot roomy)
    (formed : IsFormed state) (isPaging : state.focus.isPaging = true)
    (claimed : state.focus.swap.isClaimed slot = true) {number : Nat}
    (isClaimed : roomy.focus.swap.isClaimed number = true) :
    state.focus.swap.isClaimed number = true ∨
      number * pageSize < Word.limit := by
  have keeps : ∀ {swap released : SwapSpace}, swap.IsConsistent →
      swap.isClaimed slot = true → swap.release slot = .ok released →
        released.isClaimed number = true → swap.isClaimed number = true := by
    intro swap released consistent isThere gave stillClaimed
    obtain ⟨_, success, _, _, _, _, shown⟩ :=
      SwapSpace.release_of_isClaimed consistent isThere
    cases success.symm.trans gave
    rw [shown] at stillClaimed
    split at stillClaimed
    · cases stillClaimed
    · exact stillClaimed
  cases room with
  | vacant _ released =>
      exact .inl (keeps formed.swap claimed released isClaimed)
  | exchanged _ _ departure released =>
      have consistent : departure.after.focus.swap.IsConsistent :=
        departure.isConsistent_target formed.swap
      have left := keeps consistent (departure.isClaimed_after claimed)
        released isClaimed
      obtain rfl | wasClaimed :=
        (departure.isClaimed_after_iff number).2.mp left
      · exact .inr (formed.offset_lt_of_claim isPaging departure.targets)
      · exact .inl wasClaimed
  | handedOver _ _ departure =>
      obtain ⟨_, same⟩ := departure.targets
      have sameClaims : departure.target.isClaimed number = true := isClaimed
      rw [same] at sameClaims
      exact .inl sameClaims

/-- The frames that the pages in memory have, and those that are left to lend. -/
def frameSupply (state : Hosted AddressSpace) : Nat :=
  state.focus.ledger.residentCount +
    (state.host.pool state.focus.pool).freeCount

theorem Room.frameSupply_eq (room : Room state slot roomy)
    (formed : IsFormed state) (isPaging : state.focus.isPaging = true) :
    frameSupply roomy = frameSupply state := by
  have departs : ∀ {spare : Option Nat} (departure : Departure state spare),
      frameSupply departure.after = frameSupply state := by
    intro spare departure
    have residents :=
      departure.residentCount_after formed.ledger (formed.isAligned isPaging)
    have frames := departure.freeCount_after
    change departure.after.focus.ledger.residentCount +
      (departure.after.host.pool state.focus.pool).freeCount = _
    rw [frameSupply]
    omega
  cases room with
  | vacant _ _ => rfl
  | exchanged _ _ departure _ => exact departs departure
  | handedOver _ _ departure => exact departs departure

/-- The page that comes back takes a frame that was left. -/
theorem PageReturn.frameSupply_after (back : PageReturn state handle slot page)
    (formed : IsFormed state) (isPaging : state.focus.isPaging = true)
    (known : state.focus.ledger.residenceAt? handle =
      some (.swapped page slot)) :
    frameSupply back.after = frameSupply state := by
  obtain ⟨_, settled⟩ := back.settled formed isPaging known
  have made := back.room.frameSupply_eq (formed.landed back.toArrival) isPaging
  have landed : frameSupply back.landed =
      state.focus.ledger.residentCount + back.frames.freeCount := by
    rw [← back.pool_landed]
    rfl
  have taken := back.freeCount_frames
  have residents : back.after.focus.ledger.residentCount =
      back.roomy.focus.ledger.residentCount + 1 := settled.residentCount
  have frames : (back.after.host.pool back.after.focus.pool).freeCount =
      (back.roomy.host.pool back.roomy.focus.pool).freeCount := rfl
  simp only [frameSupply] at made landed ⊢
  omega

/-- No page is there that was not, and none went or has other permissions. -/
def permissions? (state : Hosted AddressSpace) (address : Nat) :
    Option Flags :=
  (view? state address).map PageView.permissions

/-- The clock advances by at most `ticks`, and pages are brought in or marked
only where an address from `start` up to `stop` lies.  The device is the same,
and no frame is gained or lost. -/
structure Carries (before after : Hosted AddressSpace)
    (ticks start stop : Nat) : Prop where
  formed : IsFormed after
  setting : SameSetting before after
  generation_le : after.focus.ledger.generation ≤
    before.focus.ledger.generation + ticks
  far : HasFarSlot after → HasFarSlot before
  device : SameDevice before after
  supply : frameSupply after = frameSupply before
  permissions? : permissions? after = AddressSpace.permissions? before
  undisturbed : ∀ other, (∀ address, start ≤ address → address < stop →
    Address.pageBase other ≠ Address.pageBase address) →
      Undisturbed before after other

namespace Carries

variable {middle : Hosted AddressSpace}
  {ticks more start between later stop : Nat}

theorem refl (formed : IsFormed state) (start : Nat) :
    Carries state state 0 start start where
  formed := formed
  setting := .refl state
  generation_le := Nat.le_refl _
  far := id
  device := .refl state
  supply := rfl
  permissions? := rfl
  undisturbed _ _ := ⟨id, id⟩

theorem trans (first : Carries before middle ticks start between)
    (second : Carries middle after more later stop)
    (early : start ≤ later) (late : between ≤ stop) :
    Carries before after (ticks + more) start stop where
  formed := second.formed
  setting := first.setting.trans second.setting
  generation_le := by
    have advanced := first.generation_le
    have further := second.generation_le
    omega
  far isFar := first.far (second.far isFar)
  device := first.device.trans second.device
  supply := second.supply.trans first.supply
  permissions? := second.permissions?.trans first.permissions?
  undisturbed other elsewhere := by
    have calm := first.undisturbed other fun address isLate isEarly =>
      elsewhere address isLate (Nat.lt_of_lt_of_le isEarly late)
    have still := second.undisturbed other fun address isLate =>
      elsewhere address (Nat.le_trans early isLate)
    exact ⟨fun isValid => calm.isValid (still.isValid isValid),
      fun accessed => calm.accessed (still.accessed accessed)⟩

theorem weaken (carries : Carries before after ticks start between)
    (enough : ticks ≤ more) (late : between ≤ stop) :
    Carries before after more start stop :=
  { carries with
    generation_le := Nat.le_trans carries.generation_le
      (Nat.add_le_add_left enough _)
    undisturbed := fun other elsewhere => carries.undisturbed other
      fun address isLate isEarly =>
        elsewhere address isLate (Nat.lt_of_lt_of_le isEarly late) }

theorem of_resembles (carries : Carries state before ticks start stop)
    (same : Resembles before after) :
    Carries state after ticks start stop := by
  obtain ⟨focus, host⟩ := after
  obtain ⟨pools, transfers, events⟩ := host
  obtain rfl : focus = before.focus := same.focus
  obtain rfl : pools = before.host.pools := same.pools
  exact { carries with
    formed := { carries.formed with }
    setting := { carries.setting with }
    device := { carries.device with }
    undisturbed := fun other elsewhere =>
      { carries.undisturbed other elsewhere with } }

end Carries

/-- Why a copy may end the run: the clock of the queue has to advance by
`ticks`, which is too much, or a slot is too far. -/
def CopyEnds (state : Hosted AddressSpace) (ticks : Nat) (cause : Fatal) :
    Prop :=
  RunsLate state ticks cause ∨ cause = .overflow ∧ HasFarSlot state

/-- What ends the rest of a copy ends the copy. -/
theorem CopyEnds.of_carries {middle : Hosted AddressSpace}
    {ticks more start stop : Nat} {cause : Fatal}
    (ends : CopyEnds middle more cause)
    (carries : Carries before middle ticks start stop) :
    CopyEnds before (ticks + more) cause := by
  obtain ⟨rfl, policy, positive, late⟩ | ⟨rfl, isFar⟩ := ends
  · rw [carries.setting.config] at policy
    have advanced := carries.generation_le
    exact .inl ⟨rfl, policy, Nat.add_pos_right _ positive, by omega⟩
  · exact .inr ⟨rfl, carries.far isFar⟩

theorem CopyEnds.mono {ticks more : Nat} {cause : Fatal}
    (ends : CopyEnds state ticks cause) (enough : ticks ≤ more) :
    CopyEnds state more cause := by
  obtain ⟨rfl, policy, positive, late⟩ | isFar := ends
  · exact .inl ⟨rfl, policy, Nat.lt_of_lt_of_le positive enough, by omega⟩
  · exact .inr isFar

/-- A page-in that succeeds brings in one page and shows the same memory. -/
theorem PageReturn.carries (back : PageReturn state handle slot page)
    (formed : IsFormed state) (isPaging : state.focus.isPaging = true)
    (known : state.focus.ledger.residenceAt? handle =
      some (.swapped page slot))
    (device : SameDevice state back.after) :
    Carries state back.after (state.focus.ledger.residentCount + 1) page
        (page + 1) ∧
      view? back.after = view? state ∧
      ((pager back.after).entryAt page).isValid = true := by
  obtain ⟨leaver, replaces⟩ := back.exists_replaces formed isPaging known
  have sameView := replaces.view? formed isPaging
  have claimed := claimed_of_swapped formed isPaging known
  have aligned := (entry_of_swapped formed isPaging known).1
  refine ⟨?_, sameView, by rw [replaces.entry]; rfl⟩
  exact {
    formed := replaces.isFormed formed isPaging
    setting := back.setting formed isPaging known
    generation_le := back.generation_le formed isPaging known
    far := by
      rintro ⟨number, isClaimed, isFar⟩
      obtain wasClaimed | near := back.room.isClaimed_or_near
        (formed.landed back.toArrival) isPaging claimed isClaimed
      · exact ⟨number, wasClaimed, isFar⟩
      · exact absurd near (Nat.not_lt.mpr isFar)
    device := device
    supply := back.frameSupply_after formed isPaging known
    permissions? := by
      funext address
      rw [AddressSpace.permissions?, AddressSpace.permissions?, sameView]
    undisturbed := fun other elsewhere => replaces.undisturbed (by
      have apart := elsewhere page (Nat.le_refl _) (Nat.lt_succ_self _)
      rwa [aligned] at apart) }

theorem Unreturned.heldBy {left : Hosted AddressSpace}
    (unreturned : Unreturned state slot left) (formed : IsFormed state) :
    (pager state).HeldBy (pager left).frames ∧ IsServed left := by
  have holds : ∀ {frames : FramePool} {frame : Nat},
      (pager state).frames.contents? frame = none →
      frames.total = (pager state).frames.total → frames.IsConsistent →
      (∀ other, other ≠ frame → frames.contents? other =
        (pager state).frames.contents? other) →
      (pager state).HeldBy frames := by
    intro frames frame fresh total consistent shown
    refine ⟨total, consistent, fun address isValid => shown _ ?_⟩
    rintro rfl
    obtain ⟨contents, lent⟩ := formed.isCopyable.framed address isValid
    cases fresh.symm.trans lent
  cases unreturned with
  | unread takes released =>
      rename_i frame borrowed frames
      have served := isServed_of_allocate takes
      obtain ⟨fresh, shown⟩ :=
        FramePool.contents?_allocate formed.pool takes
      have sameFrames : (pager (withFrames state frames)).frames = frames :=
        pool_withFrames served frames
      refine ⟨?_, IsServed.withFrames served frames⟩
      change (pager state).HeldBy (pager (withFrames state frames)).frames
      rw [sameFrames]
      refine holds fresh ((FramePool.total_of_release released).trans
        (FramePool.total_of_allocate takes))
        ((formed.pool.allocate takes).release released) fun other here => ?_
      rw [FramePool.contents?_of_release released, if_neg here, shown,
        if_neg here]
      rfl
  | refused arrival candidate released =>
      rename_i spare frames
      obtain ⟨fresh, _, shown⟩ := arrival.contents?_frames formed.pool
      have served : IsServed candidate.refused :=
        (formed.landed arrival).pool_lt
      have sameFrames : (pager (withFrames candidate.refused frames)).frames =
          frames := pool_withFrames served frames
      refine ⟨?_, IsServed.withFrames served frames⟩
      rw [sameFrames]
      refine holds fresh ((FramePool.total_of_release released).trans
        ((FramePool.total_of_write arrival.writes).trans
          (FramePool.total_of_allocate arrival.takes)))
        (((formed.pool.allocate arrival.takes).write arrival.writes).release
          released) fun other here => ?_
      rw [FramePool.contents?_of_release released, if_neg here,
        shown other here]
      rfl

/-- Second chances and frames that no page is in do not show. -/
theorem Undoes.carries {spared : List Nat}
    (undoes : Undoes state after spared) (formed : IsFormed state)
    (held : (pager state).HeldBy (pager after).frames)
    (served : IsServed after) (start : Nat) :
    Carries state after state.focus.ledger.residentCount start start ∧
      view? after = view? state := by
  have chances := undoes.chances
  have setting := undoes.setting
  have retains : (pager state).Retains (pager after) := {
    shape := ⟨setting.config, setting.isPaging, setting.maxResident,
      setting.capacity, setting.slots, held.total⟩
    alike := fun address => (entryAt_of_chances chances address).alike
    ledger := chances.ranks.isConsistent
    residentCount := chances.ranks.residentCount
    residenceOf? := chances.ranks.residenceOf?
    swap := undoes.swap
    held := held }
  have sameView : view? after = view? state := retains.view?
  refine ⟨?_, sameView⟩
  exact {
    formed := formed.of_retains retains served
    setting := setting
    generation_le := by
      rw [chances.generation]
      exact Nat.add_le_add_left (chances.length_le formed.ledger) _
    far := by
      rintro ⟨number, isClaimed, isFar⟩
      rw [undoes.swap] at isClaimed
      exact ⟨number, isClaimed, isFar⟩
    device := .of_swap undoes.swap
    supply := by
      rw [frameSupply, setting.pool, undoes.freeCount,
        chances.ranks.residentCount, frameSupply]
    permissions? := by
      funext address
      rw [AddressSpace.permissions?, AddressSpace.permissions?, sameView]
    undisturbed := fun other _ => by
      refine ⟨fun isValid => ?_, fun accessed => ?_⟩
      · exact (entryAt_of_chances chances other).isValid.symm.trans isValid
      · exact accessed_of_get? (chances.entry other)
          (fun _ => accessed_of_afterChances) accessed }

end AddressSpace

end DemandPaging
