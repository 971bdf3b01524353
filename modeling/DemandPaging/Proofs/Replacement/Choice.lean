import DemandPaging.Proofs.Replacement.Books

/-!
# What a policy does to the books

A choice that succeeds spared pages one after the other and picked a page of
least rank; a tick that succeeds aged every page in memory.  Neither tracks a
page or stops to track one.
-/

namespace DemandPaging

namespace Books

variable {table newTable : PageTable} {ledger newLedger : Ledger}
  {books before after : Books} {policy : Policy} {victim : Victim}
  {move : Move} {moves : List Move} {page : Nat} {entry : Entry}

theorem get?_of_queuedEntry
    (found : Policy.queuedEntry table page = .ok entry) :
    table.get? page = some entry := by
  rw [Policy.queuedEntry, bind_eq_ok_iff] at found
  obtain ⟨held, looked, same⟩ := found
  obtain ⟨_, rfl⟩ := PageTable.lookup_eq_ok_iff.mp looked
  cases held : table.get? page with
  | none => rw [held] at same; cases same
  | some other =>
      rw [held] at same
      cases same
      rfl

theorem of_remove_accessed (found : table.get? page = some entry) :
    of (table.write page (entry.remove Policy.accessedFlag)) ledger =
      (of table ledger).mark page false := by
  rw [of_write found]
  simp [Entry.remove, Flags.difference, Policy.accessedFlag]

theorem isMarked_of (found : table.get? page = some entry) :
    (of table ledger).isMarked page = entry.flags.accessed :=
  congrArg (fun entry : Entry => entry.flags.accessed)
    (PageTable.entryAt_of_get? found)

/-- A sweep spares marked pages, and ends at one that is not marked unless it
used up all its chances. -/
theorem sweeps_of_sweep {chances : Nat}
    (swept : Policy.sweep chances ledger table =
      .ok (victim, newLedger, newTable)) :
    ∃ front : ResidentPage, front.handle = victim.handle ∧
      Sweeps victim.spared (of table ledger) (of newTable newLedger) ∧
      Policy.scfifo.least newLedger = .ok front ∧
      ((of newTable newLedger).isMarked front.address = false ∨
        victim.spared.length = chances) := by
  induction chances generalizing ledger table victim with
  | zero =>
      simp only [Policy.sweep, bind_eq_ok_iff] at swept
      obtain ⟨front, least, entry, found, same⟩ := swept
      cases same
      exact ⟨front, rfl, .nil, least, .inr rfl⟩
  | succ chances ih =>
      simp only [Policy.sweep, bind_eq_ok_iff] at swept
      obtain ⟨front, least, entry, found, rest⟩ := swept
      have held := get?_of_queuedEntry found
      by_cases marked : entry.flags.accessed = true
      · rw [if_pos marked] at rest
        simp only [bind_eq_ok_iff, Prod.exists] at rest
        obtain ⟨now, clocked, advanced, requeued, set, other, sweptLedger,
          sweptTable, sweeping, same⟩ := rest
        cases same
        obtain ⟨last, sameHandle, sweeps, lastLeast, ends⟩ := ih sweeping
        refine ⟨last, sameHandle, ?_, lastLeast, ends.imp_right
          fun length => congrArg Nat.succ length⟩
        refine .cons least ?_ advanced set ?_
        · rw [isMarked_of held]
          exact marked
        · rw [← of_remove_accessed held]
          exact sweeps
      · rw [if_neg marked] at rest
        cases rest
        refine ⟨front, rfl, .nil, least, .inl ?_⟩
        rw [isMarked_of held]
        exact Bool.not_eq_true _ ▸ marked

/-- A policy that chooses a page picks it. -/
theorem picks_of_select
    (chosen : policy.select ledger table = .ok (victim, newLedger, newTable)) :
    ∃ front : ResidentPage, front.handle = victim.handle ∧
      Picks policy (of table ledger) victim.spared front
        (of newTable newLedger) := by
  have ranked : ∀ policy : Policy, policy ≠ .scfifo → ∀ page : ResidentPage,
      policy.least ledger = .ok page →
        Picks policy (of table ledger) [] page (of table ledger) :=
    fun policy other page least => ⟨.nil, fun some => absurd rfl some, least,
      fun same => absurd same other⟩
  cases policy with
  | noPaging => cases chosen
  | nfua =>
      simp only [Policy.select, bind_eq_ok_iff] at chosen
      obtain ⟨page, least, same⟩ := chosen
      cases same
      exact ⟨page, rfl, ranked .nfua nofun page least⟩
  | lapa =>
      simp only [Policy.select, bind_eq_ok_iff] at chosen
      obtain ⟨page, least, same⟩ := chosen
      cases same
      exact ⟨page, rfl, ranked .lapa nofun page least⟩
  | scfifo =>
      obtain ⟨front, sameHandle, sweeps, least, ends⟩ := sweeps_of_sweep chosen
      exact ⟨front, sameHandle, sweeps, fun _ => rfl, least, fun _ => ends⟩

theorem ages_of_agePages {pages : List ResidentPage}
    (aged : Policy.agePages pages ledger table = .ok (newLedger, newTable)) :
    Ages pages (of table ledger) (of newTable newLedger) := by
  induction pages generalizing ledger table with
  | nil =>
      cases aged
      exact .nil
  | cons page pages ih =>
      simp only [Policy.agePages, Policy.agePage, bind_eq_ok_iff,
        Prod.exists] at aged
      obtain ⟨middle, middleTable, ⟨held, looked, agedOne⟩, rest⟩ := aged
      obtain ⟨_, rfl⟩ := PageTable.lookup_eq_ok_iff.mp looked
      cases found : table.get? page.address with
      | none => rw [found] at agedOne; cases agedOne
      | some entry =>
          rw [found] at agedOne
          simp only [bind_eq_ok_iff] at agedOne
          obtain ⟨set, recorded, same⟩ := agedOne
          cases same
          rw [← isMarked_of found] at recorded
          refine .cons recorded ?_
          rw [← of_remove_accessed found]
          exact ih rest

/-- A tick ages the pages in memory, if the policy ages at all. -/
theorem ages_of_onTick {aged : Option Nat}
    (ticked : policy.onTick ledger table = .ok (aged, newLedger, newTable)) :
    if isAging policy then
      Ages ledger.residents (of table ledger) (of newTable newLedger)
    else newLedger = ledger ∧ newTable = table := by
  have ages : ∀ {found : Ledger × PageTable},
      Policy.agePages ledger.residents ledger table = .ok found →
        Ages ledger.residents (of table ledger) (of found.2 found.1) :=
    fun found => ages_of_agePages found
  cases policy with
  | noPaging | scfifo =>
      cases ticked
      exact ⟨rfl, rfl⟩
  | nfua | lapa =>
      simp only [Policy.onTick, bind_eq_ok_iff] at ticked
      obtain ⟨⟨agedLedger, agedTable⟩, success, same⟩ := ticked
      cases same
      exact ages success

end Books

end DemandPaging
