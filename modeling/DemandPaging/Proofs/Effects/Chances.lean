import DemandPaging.Proofs.Pager.Refreshing
import DemandPaging.Proofs.Replacement.Choice
import Mathlib.Data.List.Perm.Subperm

/-!
# What second chances leave

A policy that chooses a page to evict changes ledger and table on the way to it
only by the second chances that it gives.  A page that gets one loses its mark
of reference and queues again: the first at the next tick of the clock, the
second at the tick after, and so on.  Every other entry and every other place
stays as it is to the last bit, and an ageing policy gives no chances at all.
-/

namespace DemandPaging

variable {ledger newLedger clocked requeued : Ledger}
  {table newTable : PageTable} {victim : Victim} {spared : List Nat}

/-- What becomes of the entry of the page that holds `address` when the pages
`spared` get a second chance. -/
def afterChances (spared : List Nat) (address : Nat) (entry : Entry) : Entry :=
  if Address.pageBase address ∈ spared then
    entry.remove Policy.accessedFlag
  else
    entry

@[simp]
theorem afterChances_nil (address : Nat) (entry : Entry) :
    afterChances [] address entry = entry :=
  if_neg List.not_mem_nil

theorem sameButMarks_afterChances (spared : List Nat) (address : Nat)
    (entry : Entry) :
    entry.SameButMarks (afterChances spared address entry) := by
  unfold afterChances
  split
  · exact .remove_accessed entry
  · exact .refl entry

/-- A page that got a chance first, and no further one, is one of those that got
one. -/
theorem afterChances_cons {page : Nat} {entry : Entry}
    (aligned : Address.pageBase page = page)
    (found : table.get? page = some entry) (onlyOnce : page ∉ spared)
    (address : Nat) :
    ((table.write page (entry.remove Policy.accessedFlag)).get? address).map
        (afterChances spared address) =
      (table.get? address).map (afterChances (page :: spared) address) := by
  rw [PageTable.get?_write]
  by_cases here : Address.pageBase address = page
  · have samePage : Address.pageNumber address = Address.pageNumber page :=
      PageTable.pageNumber_eq_iff.mpr (here.trans aligned.symm)
    rw [if_pos samePage, table.get?_eq_of_pageNumber_eq samePage, found]
    simp [afterChances, here, onlyOnce]
  · have otherPage : Address.pageNumber address ≠ Address.pageNumber page :=
      fun same => here ((PageTable.pageNumber_eq_iff.mp same).trans aligned)
    have stays : afterChances spared address =
        afterChances (page :: spared) address := by
      funext other
      simp [afterChances, here]
    rw [if_neg otherPage, stays]

/-- Where the page of the place `handle` is. -/
def Ledger.residenceAt? (ledger : Ledger) (handle : Nat) : Option Residence :=
  (ledger.places[handle]?).map Tracked.residence

theorem Ledger.residenceAt?_of_place {handle : Nat} {tracked : Tracked}
    (place : ledger.places[handle]? = some tracked) :
    ledger.residenceAt? handle = some tracked.residence :=
  congrArg (Option.map Tracked.residence) place

/-- The addresses of resident pages begin pages. -/
def Ledger.IsAligned (ledger : Ledger) : Prop :=
  ∀ handle page, ledger.residenceAt? handle = some (.resident page) →
    Address.pageBase page = page

/-- The resident pages `spared` got a second chance, one after the other, and
nothing else happened to ledger and table. -/
structure Chances (spared : List Nat) (ledger : Ledger) (table : PageTable)
    (newLedger : Ledger) (newTable : PageTable) : Prop where
  resident : ∀ page ∈ spared, ∃ handle,
    ledger.residenceAt? handle = some (.resident page)
  marked : ∀ page ∈ spared, ∃ entry, table.get? page = some entry ∧
    entry.flags.accessed = true
  nodup : spared.Nodup
  entry : ∀ address, newTable.get? address =
    (table.get? address).map (afterChances spared address)
  residence : ∀ handle,
    newLedger.residenceAt? handle = ledger.residenceAt? handle
  place : ∀ handle,
    (∀ page ∈ spared,
      ledger.residenceAt? handle ≠ some (.resident page)) →
        newLedger.places[handle]? = ledger.places[handle]?
  queued : ∀ (handle page position : Nat),
    spared[position]? = some page →
      ledger.residenceAt? handle = some (.resident page) →
        newLedger.places[handle]? =
          some ⟨.resident page, ledger.generation + position + 1⟩
  ranks : ledger.Reranks newLedger spared.length
  generation : newLedger.generation = ledger.generation + spared.length

/-- The page at the front of the queue goes to its back, at the next tick of
the clock. -/
structure Requeues (front : ResidentPage) (ledger requeued : Ledger) :
    Prop where
  atFront : requeued.places[front.handle]? =
    some ⟨.resident front.address, ledger.generation + 1⟩
  elsewhere : ∀ other, front.handle ≠ other →
    requeued.places[other]? = ledger.places[other]?
  ranks : ledger.Reranks requeued 1
  generation : requeued.generation = ledger.generation + 1

theorem requeues_of_setRecency {front : ResidentPage} {now : Nat}
    (consistent : ledger.IsConsistent) (member : front ∈ ledger.residents)
    (advanced : ledger.advanceClock = .ok (now, clocked))
    (queues : clocked.setRecency front.handle now = .ok requeued) :
    Requeues front ledger requeued := by
  have place := Ledger.mem_residents_iff.mp member
  obtain ⟨overflow, _⟩ | ⟨_, success, clockRanks⟩ :=
    Ledger.advanceClock_cases consistent
  · cases overflow.symm.trans advanced
  cases success.symm.trans advanced
  obtain ⟨_, _, rfl⟩ := Ledger.advanceClock_eq_ok_iff.mp advanced
  obtain ⟨_, success, queueRanks, clock⟩ := Ledger.setRecency_of_place
    clockRanks.isConsistent place (ledger.generation + 1)
  cases success.symm.trans queues
  obtain ⟨held, heldPlace, rfl⟩ := Ledger.setRecency_eq_ok_iff.mp queues
  cases heldPlace.symm.trans place
  obtain ⟨inside, _⟩ := Array.getElem?_eq_some_iff.mp place
  refine ⟨?_, fun other different => ?_, clockRanks.trans queueRanks, clock⟩
  · rw [Ledger.getElem?_places_put, if_pos ⟨rfl, inside⟩]
  · rw [Ledger.getElem?_places_put, if_neg fun both => different both.1]

namespace Chances

theorem nil (consistent : ledger.IsConsistent) (table : PageTable) :
    Chances [] ledger table ledger table where
  resident _ member := absurd member List.not_mem_nil
  marked _ member := absurd member List.not_mem_nil
  nodup := List.nodup_nil
  entry address := by
    rw [funext (afterChances_nil address), Option.map_id']
  residence _ := rfl
  place _ _ := rfl
  queued _ _ _ impossible := nomatch impossible
  ranks := .refl consistent
  generation := rfl

/-- The page at the front gets a chance, and then others. -/
theorem cons {front : ResidentPage} {entry : Entry}
    (consistent : ledger.IsConsistent)
    (member : front ∈ ledger.residents)
    (aligned : Address.pageBase front.address = front.address)
    (found : table.get? front.address = some entry)
    (marked : entry.flags.accessed = true)
    (requeues : Requeues front ledger requeued)
    (rest : Chances spared requeued (table.write front.address
      (entry.remove Policy.accessedFlag)) newLedger newTable) :
    Chances (front.address :: spared) ledger table newLedger newTable := by
  have place := Ledger.mem_residents_iff.mp member
  have atFront := Ledger.residenceAt?_of_place place
  have sameResidence : ∀ handle,
      requeued.residenceAt? handle = ledger.residenceAt? handle :=
    requeues.ranks.residence
  have notMarked : (entry.remove Policy.accessedFlag).flags.accessed =
      false := by
    simp [Entry.remove, Flags.difference, Policy.accessedFlag]
  -- What was spared is not marked any more, so it is not spared again.
  have onlyOnce : front.address ∉ spared := by
    intro again
    obtain ⟨unmarked, held, isMarked⟩ := rest.marked _ again
    rw [PageTable.get?_write, if_pos rfl, found] at held
    cases held
    cases notMarked.symm.trans isMarked
  exact {
    resident := by
      intro page member
      rcases List.mem_cons.mp member with rfl | member
      · exact ⟨front.handle, atFront⟩
      · obtain ⟨handle, known⟩ := rest.resident page member
        exact ⟨handle, (sameResidence handle).symm.trans known⟩
    marked := by
      intro page member
      rcases List.mem_cons.mp member with rfl | member
      · exact ⟨entry, found, marked⟩
      · obtain ⟨other, held, isMarked⟩ := rest.marked page member
        rw [PageTable.get?_write] at held
        split at held
        · rw [found] at held
          cases held
          cases notMarked.symm.trans isMarked
        · exact ⟨other, held, isMarked⟩
    nodup := List.nodup_cons.mpr ⟨onlyOnce, rest.nodup⟩
    entry := fun address => (rest.entry address).trans
      (afterChances_cons aligned found onlyOnce address)
    residence := fun handle =>
      (rest.residence handle).trans (sameResidence handle)
    place := by
      intro handle unspared
      rw [rest.place handle fun page member => by
        rw [sameResidence]
        exact unspared page (List.mem_cons_of_mem _ member)]
      refine requeues.elsewhere handle ?_
      rintro rfl
      exact unspared _ (List.mem_cons_self ..) atFront
    queued := by
      intro handle page position atPosition known
      cases position with
      | zero =>
          cases atPosition
          obtain ⟨tracked, held, resident⟩ := Option.map_eq_some_iff.mp known
          obtain rfl : handle = front.handle :=
            consistent.handle_unique held place
              (by rw [Tracked.isFree, resident]; rfl) rfl
              (by rw [Tracked.address, resident]; rfl)
          rw [rest.place _ fun other member => ?_, requeues.atFront]
          rw [sameResidence, known]
          rintro ⟨⟩
          exact onlyOnce member
      | succ position =>
          rw [rest.queued handle page position atPosition
            ((sameResidence handle).trans known), requeues.generation,
            Nat.add_right_comm _ 1 position, Nat.add_assoc _ position 1]
    ranks := by
      refine (requeues.ranks.trans rest.ranks).mono ?_
      rw [List.length_cons]
      omega
    generation := by
      rw [rest.generation, requeues.generation, List.length_cons]
      omega }

theorem length_le (chances : Chances spared ledger table newLedger newTable)
    (consistent : ledger.IsConsistent) :
    spared.length ≤ ledger.residentCount := by
  have among : spared ⊆ ledger.residents.map ResidentPage.address := by
    intro page member
    obtain ⟨handle, known⟩ := chances.resident page member
    obtain ⟨tracked, place, resident⟩ := Option.map_eq_some_iff.mp known
    refine List.mem_map.mpr ⟨⟨handle, page, tracked.recency⟩,
      Ledger.mem_residents_iff.mpr ?_, rfl⟩
    rw [place, ← resident]
  calc spared.length
      ≤ (ledger.residents.map ResidentPage.address).length :=
        (List.subperm_of_subset chances.nodup among).length_le
    _ = ledger.residents.length := List.length_map _
    _ = ledger.residentCount := consistent.length_residents

end Chances

theorem mem_residents_of_least {policy : Policy} {front : ResidentPage}
    (least : policy.least ledger = .ok front) :
    front ∈ ledger.residents := by
  obtain ⟨_, refused⟩ | ⟨resident, member, found⟩ :=
    Pager.least_cases policy ledger
  · cases refused.symm.trans least
  · cases found.symm.trans least
    exact member

/-- A sweep gives chances and nothing else. -/
theorem chances_of_sweep {chances : Nat} (consistent : ledger.IsConsistent)
    (aligned : ledger.IsAligned)
    (swept : Policy.sweep chances ledger table =
      .ok (victim, newLedger, newTable)) :
    Chances victim.spared ledger table newLedger newTable := by
  induction chances generalizing ledger table victim with
  | zero =>
      simp only [Policy.sweep, bind_eq_ok_iff] at swept
      obtain ⟨_, _, _, _, same⟩ := swept
      cases same
      exact .nil consistent _
  | succ chances ih =>
      simp only [Policy.sweep, bind_eq_ok_iff] at swept
      obtain ⟨front, least, entry, found, rest⟩ := swept
      by_cases marked : entry.flags.accessed = true
      · rw [if_pos marked] at rest
        simp only [bind_eq_ok_iff, Prod.exists] at rest
        obtain ⟨now, clocked, advanced, requeued, queues, other, sweptLedger,
          sweptTable, sweeping, same⟩ := rest
        cases same
        have member := mem_residents_of_least least
        have requeues :=
          requeues_of_setRecency consistent member advanced queues
        refine .cons consistent member (aligned _ _
          (Ledger.residenceAt?_of_place (Ledger.mem_residents_iff.mp member)))
          (Books.get?_of_queuedEntry found) marked requeues
          (ih requeues.ranks.isConsistent ?_ sweeping)
        intro handle page known
        rw [Ledger.residenceAt?, requeues.ranks.residence] at known
        exact aligned handle page known
      · rw [if_neg marked] at rest
        cases rest
        exact .nil consistent _

variable {policy : Policy}

/-- A policy chooses a resident page. -/
theorem resident_of_select
    (chosen : policy.select ledger table =
      .ok (victim, newLedger, newTable)) :
    ∃ page recency, newLedger.places[victim.handle]? =
      some ⟨.resident page, recency⟩ := by
  obtain ⟨front, sameHandle, picks⟩ := Books.picks_of_select chosen
  refine ⟨front.address, front.recency, ?_⟩
  rw [← sameHandle]
  exact Ledger.mem_residents_iff.mp (mem_residents_of_least picks.least)

theorem spared_eq_nil_of_select
    (chosen : policy.select ledger table = .ok (victim, newLedger, newTable))
    (other : policy ≠ .scfifo) : victim.spared = [] := by
  obtain ⟨_, _, picks⟩ := Books.picks_of_select chosen
  cases spared : victim.spared with
  | nil => rfl
  | cons page pages =>
      refine absurd (picks.spares ?_) other
      rw [spared]
      exact List.cons_ne_nil page pages

/-- On the way to its choice a policy gives chances and does nothing else. -/
theorem chances_of_select (consistent : ledger.IsConsistent)
    (aligned : ledger.IsAligned)
    (chosen : policy.select ledger table =
      .ok (victim, newLedger, newTable)) :
    Chances victim.spared ledger table newLedger newTable := by
  cases policy with
  | noPaging => cases chosen
  | nfua =>
      simp only [Policy.select, bind_eq_ok_iff] at chosen
      obtain ⟨_, _, same⟩ := chosen
      cases same
      exact .nil consistent _
  | lapa =>
      simp only [Policy.select, bind_eq_ok_iff] at chosen
      obtain ⟨_, _, same⟩ := chosen
      cases same
      exact .nil consistent _
  | scfifo => exact chances_of_sweep consistent aligned chosen

end DemandPaging
