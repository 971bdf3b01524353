import DemandPaging.Proofs.Mapping.Enrolment
import DemandPaging.Proofs.Relations
import DemandPaging.Proofs.Replacement.Completion

/-!
# What an eviction leaves for the next one

A swap file that completes its transfers still does so after an eviction, and
the page table may grow as far as before.  With such a file a page that was
mapped is refused for want of a place and for nothing else.
-/

namespace DemandPaging

@[simp]
theorem PageTable.budget_update (table : PageTable) (address : Nat)
    (change : Entry → Entry) :
    (table.update address change).budget = table.budget := by
  rw [update]
  split <;> rfl

namespace Policy

variable {policy : Policy} {ledger chosen : Ledger} {table marked : PageTable}
  {victim : Victim}

theorem budget_of_sweep (chances : Nat)
    (sweeps : sweep chances ledger table = .ok (victim, chosen, marked)) :
    marked.budget = table.budget := by
  induction chances generalizing ledger table victim with
  | zero =>
      simp only [sweep, bind_eq_ok_iff] at sweeps
      obtain ⟨_, _, _, _, ends⟩ := sweeps
      cases ends
      rfl
  | succ chances ih =>
      simp only [sweep, bind_eq_ok_iff] at sweeps
      obtain ⟨front, _, entry, _, rest⟩ := sweeps
      split at rest
      · simp only [bind_eq_ok_iff] at rest
        obtain ⟨_, _, _, _, _, further, ends⟩ := rest
        cases ends
        have same := ih further
        exact same
      · cases rest
        rfl

theorem budget_of_select
    (selects : policy.select ledger table = .ok (victim, chosen, marked)) :
    marked.budget = table.budget := by
  cases policy with
  | noPaging => cases selects
  | scfifo => exact budget_of_sweep _ selects
  | nfua | lapa =>
      simp only [select, bind_eq_ok_iff] at selects
      obtain ⟨_, _, ends⟩ := selects
      cases ends
      rfl

end Policy

namespace AddressSpace

variable {state roomy : Hosted AddressSpace} {page : Nat}

theorem Departure.isReliable_after (departure : Departure state none)
    (reliable : state.focus.swap.IsReliable) :
    departure.after.focus.swap.IsReliable := by
  obtain ⟨_, _, taken⟩ := SwapSpace.claim_eq_some_iff.mp departure.targets
  refine ⟨?_, ?_⟩
  · change departure.target.isMetered = false
    rw [taken]
    exact reliable.unmetered
  · change departure.target.capacity * pageSize ≤ departure.file.size
    rw [SwapFile.size_of_write departure.written, taken,
      SwapSpace.capacity_take]
    exact reliable.capacity_le

theorem Vacancy.means (vacancy : Vacancy state roomy) :
    roomy.focus.table.budget = state.focus.table.budget ∧
      (state.focus.swap.IsReliable → roomy.focus.swap.IsReliable) := by
  cases vacancy with
  | vacant _ => exact ⟨rfl, id⟩
  | vacated _ departure =>
      refine ⟨?_, departure.isReliable_after⟩
      exact (PageTable.budget_update _ _ _).trans
        (Policy.budget_of_select departure.selects)

theorem isFull_of_track : ((track page).run state).Meets (fun _ => True)
    (fun _ _ => True) (fun error _ => state.focus.swap.IsReliable →
      ∃ capacity, error = .tooManyPages capacity) := by
  by_cases reliable : state.focus.swap.IsReliable
  case neg =>
    exact (Action.relates_any (track page) state).mono (fun _ _ _ => trivial)
      fun _ _ _ isReliable => absurd isReliable reliable
  rw [track]
  refine (leaves_lookup page).meets_bind fun found looked sameLooked => ?_
  refine (leaves_orCrash swapOf _ _).meets_bind fun entry there sameThere => ?_
  refine (leaves_crashUnless swapOf _ _).meets_bind
    fun _ checked sameChecked => ?_
  have stillReliable : (swapOf checked).IsReliable := by
    rw [sameChecked, sameThere, sameLooked]
    exact reliable
  rw [Action.run_bind_of_done (run_look _)]
  refine Action.meets_failUnless_bind (fun _ _ => ⟨_, rfl⟩) fun _ => ?_
  refine Action.meets_bind_of (fun _ _ => True)
    (Action.meets_runIf (fun _ => ?_) fun _ => trivial) fun _ roomy _ => ?_
  · exact Action.meets_bind ((completes_evict stillReliable).mono
      (fun _ _ _ => trivial) fun _ _ isFailed => isFailed.elim)
        fun _ _ _ => trivial
  have reserves : (onLedger (Action.read Ledger.reserve)).run roomy =
      .done roomy.focus.ledger.reserve roomy := rfl
  rw [Action.run_bind_of_done reserves]
  refine (leaves_orCrash swapOf _ _).meets_bind fun handle _ _ => ?_
  exact Action.meets_bind (settles_settleResident.mono (fun _ _ _ => trivial)
    fun _ _ isFailed => isFailed.elim) fun _ settled _ => trivial

end AddressSpace

end DemandPaging
