import DemandPaging.Proofs.Mapping.Correspondence

/-!
# Pages as they stand

A page that is in memory or in swap has its permissions, and it has its bytes
unless they are in a slot that cannot be read.  `Pager.view?` shows both, so a
page whose view stays is neither lost nor changed, and this holds also where
user code would not see its bytes.
-/

namespace DemandPaging

/-- A page that is in memory or in swap.  The bytes are missing if the slot that
has them cannot be read. -/
structure PageView where
  permissions : Flags
  bytes : Option (List UInt8)

/-- An entry that is changed in its marks at most differs in these at most, also
where there is none. -/
theorem PageTable.sameButMarks_of_get? {before after : PageTable}
    {address : Nat} {change : Entry → Entry}
    (shown : after.get? address = (before.get? address).map change)
    (marks : ∀ entry : Entry, entry.SameButMarks (change entry)) :
    (before.entryAt address).SameButMarks (after.entryAt address) := by
  cases found : before.get? address with
  | none =>
      rw [found] at shown
      rw [entryAt_of_get?_none found, entryAt_of_get?_none shown]
      exact .refl _
  | some entry =>
      rw [found] at shown
      rw [entryAt_of_get? found, entryAt_of_get? shown]
      exact marks entry

/-- The entries say the same of their page, but for marks of references. -/
structure Entry.Alike (before after : Entry) : Prop where
  isValid : after.isValid = before.isValid
  isPagedOut : after.isPagedOut = before.isPagedOut
  address : before.isValid = true → after.address = before.address
  permissions : before.isPresent = true →
    after.flags.permissions = before.flags.permissions

theorem Entry.SameButMarks.alike {before after : Entry}
    (same : before.SameButMarks after) : before.Alike after :=
  ⟨same.isValid, same.isPagedOut, fun _ => same.address,
    fun _ => same.permissions⟩

namespace Entry.Alike

variable {before after : Entry}

theorem of_absent (absent : before.isPresent = false)
    (isAbsent : after.isPresent = false) : before.Alike after := by
  obtain ⟨notValid, notPagedOut⟩ := Bool.or_eq_false_iff.mp absent
  obtain ⟨stillNotValid, stillNotPagedOut⟩ := Bool.or_eq_false_iff.mp isAbsent
  refine ⟨stillNotValid.trans notValid.symm,
    stillNotPagedOut.trans notPagedOut.symm, fun isValid => ?_,
    fun isPresent => ?_⟩
  · cases notValid.symm.trans isValid
  · cases absent.symm.trans isPresent

theorem isPresent (alike : before.Alike after) :
    after.isPresent = before.isPresent := by
  rw [Entry.isPresent, alike.isValid, alike.isPagedOut, Entry.isPresent]

end Entry.Alike

namespace Pager

variable {pager before after : Pager} {address page : Nat}

/-- The page that holds `address`, if it is in memory or in swap. -/
def view? (pager : Pager) (address : Nat) : Option PageView :=
  if (pager.entryAt address).isPresent then
    some ⟨(pager.entryAt address).flags.permissions,
      pager.bytesAt? (Address.pageBase address)⟩
  else
    none

theorem isSome_view? (pager : Pager) (address : Nat) :
    (pager.view? address).isSome = (pager.entryAt address).isPresent := by
  rw [view?]
  split <;> simp_all

theorem bytesAt?_of_not_isPresent
    (absent : (pager.entryAt page).isPresent = false) :
    pager.bytesAt? page = none := by
  obtain ⟨notValid, notPagedOut⟩ := Bool.or_eq_false_iff.mp absent
  have isValid : (pager.entryAt page).isValid = false := notValid
  have isPagedOut : (pager.entryAt page).isPagedOut = false := notPagedOut
  rw [bytesAt?, isValid, isPagedOut, if_neg Bool.false_ne_true,
    if_neg Bool.false_ne_true]

theorem logicalPage?_eq_view? (pager : Pager) (address : Nat) :
    pager.logicalPage? address = (pager.view? address).bind fun view =>
      view.bytes.map fun bytes => ⟨bytes, view.permissions⟩ := by
  rw [logicalPage?, view?]
  by_cases isPresent : (pager.entryAt address).isPresent = true
  · rw [if_pos isPresent]
    rfl
  · rw [if_neg isPresent, bytesAt?_of_not_isPresent
      (by rwa [entryAt_pageBase, ← Bool.not_eq_true])]
    rfl

/-- Marks of references are not part of a view. -/
theorem view?_eq_of_bytesAt?
    (alike : (before.entryAt address).Alike (after.entryAt address))
    (bytes : after.bytesAt? (Address.pageBase address) =
      before.bytesAt? (Address.pageBase address)) :
    after.view? address = before.view? address := by
  rw [view?, view?, alike.isPresent]
  by_cases isPresent : (before.entryAt address).isPresent = true
  · rw [if_pos isPresent, if_pos isPresent, alike.permissions isPresent, bytes]
  · rw [if_neg isPresent, if_neg isPresent]

/-- If nothing but marks of references and frames of others changed, no page
did. -/
theorem view?_eq_of_alike
    (alike : ∀ address,
      (before.entryAt address).Alike (after.entryAt address))
    (residenceOf? : ∀ page,
      after.residenceOf? page = before.residenceOf? page)
    (swap : after.swap = before.swap)
    (owned : ∀ address, (before.entryAt address).isValid = true →
      after.frames.contents? (before.entryAt address).address =
        before.frames.contents? (before.entryAt address).address) :
    after.view? = before.view? := by
  funext address
  refine view?_eq_of_bytesAt? (alike address) ?_
  have here := alike (Address.pageBase address)
  rw [bytesAt?, bytesAt?, here.isValid, here.isPagedOut, residenceOf?, swap]
  by_cases isValid :
      (before.entryAt (Address.pageBase address)).isValid = true
  · rw [if_pos isValid, if_pos isValid, here.address isValid,
      owned _ isValid]
  · rw [if_neg isValid, if_neg isValid]

/-- Every page but the one at `page` keeps its place, and its bytes there. -/
structure Preserves (before after : Pager) (page : Nat) : Prop extends
    before.DiffersAt after page where
  slots : ∀ other slot, other ≠ page →
    before.residenceOf? other = some (.swapped other slot) →
      after.swap.contents? slot = before.swap.contents? slot
  frames : ∀ address, Address.pageBase address ≠ page →
    (before.entryAt address).isValid = true →
      after.frames.contents? (before.entryAt address).address =
        before.frames.contents? (before.entryAt address).address

theorem Preserves.view? (preserves : before.Preserves after page)
    (consistent : before.ledger.IsConsistent)
    (elsewhere : Address.pageBase address ≠ page) :
    after.view? address = before.view? address := by
  have marks := preserves.marks address elsewhere
  refine view?_eq_of_bytesAt? marks.alike ?_
  rw [bytesAt?, bytesAt?, entryAt_pageBase, entryAt_pageBase, marks.isValid,
    marks.isPagedOut, marks.address, preserves.residenceOf? _ elsewhere]
  by_cases isValid : (before.entryAt address).isValid = true
  · rw [if_pos isValid, if_pos isValid,
      preserves.frames address elsewhere isValid]
  · rw [if_neg isValid, if_neg isValid]
    cases known : before.residenceOf? (Address.pageBase address) with
    | none => rfl
    | some residence =>
        obtain rfl | ⟨slot, rfl⟩ := consistent.resident_or_swapped known
        · rfl
        · have kept := preserves.slots _ slot elsewhere known
          simp only [Option.bind_some, Residence.slot?, kept]

/-- A new entry is of no concern to other pages. -/
theorem Rewrites.preserves {entry : Entry}
    (rewrites : before.Rewrites after page entry)
    (frames : after.frames = before.frames) :
    before.Preserves after page where
  toDiffersAt := rewrites.differsAt
  slots _ _ _ _ := by rw [rewrites.swap]
  frames _ _ _ := by rw [frames]

end Pager

namespace AddressSpace

variable {spared : List Nat} {state before after : Hosted AddressSpace}

/-- The page that holds `address`, if it is in memory or in swap. -/
def view? (state : Hosted AddressSpace) : Nat → Option PageView :=
  (pager state).view?

/-- Transfers and events are not part of a view. -/
theorem Resembles.view? (same : Resembles before after) :
    view? after = AddressSpace.view? before := by
  obtain ⟨focus, pools, _, _⟩ := after
  obtain rfl : focus = before.focus := same.focus
  obtain rfl : pools = before.host.pools := same.pools
  rfl

theorem entryAt_of_chances
    (chances : Chances spared before.focus.ledger before.focus.table
      after.focus.ledger after.focus.table) (address : Nat) :
    ((pager before).entryAt address).SameButMarks
      ((pager after).entryAt address) :=
  PageTable.sameButMarks_of_get? (chances.entry address)
    (sameButMarks_afterChances spared address)

/-- Second chances are not part of a view. -/
theorem view?_of_chances
    (chances : Chances spared before.focus.ledger before.focus.table
      after.focus.ledger after.focus.table)
    (pool : after.focus.pool = before.focus.pool)
    (swap : after.focus.swap = before.focus.swap)
    (pools : after.host.pools = before.host.pools) :
    view? after = view? before := by
  refine Pager.view?_eq_of_alike
    (fun address => (entryAt_of_chances chances address).alike)
    chances.ranks.residenceOf? swap fun _ _ => ?_
  have frames : (pager after).frames = (pager before).frames := by
    change after.host.pool after.focus.pool =
      before.host.pool before.focus.pool
    rw [Host.pool, pool, pools, Host.pool]
  rw [frames]

end AddressSpace

end DemandPaging
