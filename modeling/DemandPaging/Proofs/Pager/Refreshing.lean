import DemandPaging.Proofs.Ledger.Recency
import DemandPaging.Proofs.Pager.Moves

/-!
# What replacement policies change

A policy reads the marks of references in the page table, clears some of them,
and writes recencies.  Nothing of this moves a page or changes what user code
may do with it (`Pager.Refreshes`).  Both loops of the policies, the sweep of
the second-chance queue and the ageing of all resident pages, are chains of
such changes; and the page that a policy chooses is resident.
-/

namespace DemandPaging

/-- The entries differ in the marks of references at most. -/
structure Entry.SameButMarks (before after : Entry) : Prop where
  isValid : after.isValid = before.isValid
  isPagedOut : after.isPagedOut = before.isPagedOut
  address : after.address = before.address
  permissions : after.flags.permissions = before.flags.permissions

namespace Entry.SameButMarks

variable {before middle after : Entry}

theorem refl (entry : Entry) : entry.SameButMarks entry :=
  ⟨rfl, rfl, rfl, rfl⟩

theorem trans (first : before.SameButMarks middle)
    (second : middle.SameButMarks after) : before.SameButMarks after where
  isValid := second.isValid.trans first.isValid
  isPagedOut := second.isPagedOut.trans first.isPagedOut
  address := second.address.trans first.address
  permissions := second.permissions.trans first.permissions

theorem remove_accessed (entry : Entry) :
    entry.SameButMarks (entry.remove Policy.accessedFlag) := by
  refine ⟨?_, ?_, rfl, ?_⟩ <;>
    simp [Entry.isValid, Entry.isPagedOut, Entry.remove, Flags.difference,
      Policy.accessedFlag, Flags.permissions]

theorem insert_reference (entry : Entry) (isWrite : Bool) :
    entry.SameButMarks (entry.insert (PageTable.referenceFlags isWrite)) := by
  refine ⟨?_, ?_, rfl, ?_⟩ <;>
    simp [Entry.isValid, Entry.isPagedOut, Entry.insert, Flags.union,
      PageTable.referenceFlags, Flags.permissions]

end Entry.SameButMarks

namespace Pager

variable {pager : Pager} {table newTable : PageTable}
  {ledger newLedger : Ledger} {ticks more : Nat} {pending : Option Nat}

/-- Only marks of references, recencies and the clock changed, and the clock by
at most `ticks`. -/
structure Refreshes (pager : Pager) (table : PageTable) (ledger : Ledger)
    (ticks : Nat) : Prop where
  marks : ∀ address,
    (pager.entryAt address).SameButMarks (table.entryAt address)
  ranks : pager.ledger.Reranks ledger ticks

namespace Refreshes

theorem refl (consistent : pager.ledger.IsConsistent) :
    pager.Refreshes pager.table pager.ledger 0 where
  marks _ := .refl _
  ranks := .refl consistent

theorem trans (first : pager.Refreshes table ledger ticks)
    (second : ({ pager with table, ledger } : Pager).Refreshes newTable
      newLedger more) :
    pager.Refreshes newTable newLedger (ticks + more) where
  marks address := (first.marks address).trans (second.marks address)
  ranks := first.ranks.trans second.ranks

theorem mono (refreshes : pager.Refreshes table ledger ticks)
    (le : ticks ≤ more) : pager.Refreshes table ledger more :=
  ⟨refreshes.marks, refreshes.ranks.mono le⟩

theorem relabels (refreshes : pager.Refreshes table ledger ticks) :
    pager.Relabels { pager with table, ledger } where
  shape := ⟨rfl, rfl, refreshes.ranks.maxResident, refreshes.ranks.capacity,
    rfl, rfl⟩
  ledger := refreshes.ranks.isConsistent
  swap := rfl
  frames := rfl
  isValid address := (refreshes.marks address).isValid
  isPagedOut address := (refreshes.marks address).isPagedOut
  address address := (refreshes.marks address).address
  residenceOf? := refreshes.ranks.residenceOf?

theorem sound (refreshes : pager.Refreshes table ledger ticks)
    (sound : pager.Sound pending) :
    ({ pager with table, ledger } : Pager).Sound pending :=
  refreshes.relabels.sound sound

/-- Clearing or setting marks of references in one entry. -/
theorem of_write (consistent : pager.ledger.IsConsistent) {address : Nat}
    {entry new : Entry} (found : pager.table.get? address = some entry)
    (same : entry.SameButMarks new) :
    pager.Refreshes (pager.table.write address new) pager.ledger 0 where
  marks other := by
    rw [PageTable.entryAt_write found]
    by_cases samePage : Address.pageBase other = Address.pageBase address
    · have held : pager.entryAt other = entry :=
        (PageTable.entryAt_eq_of_pageBase_eq samePage).trans
          (PageTable.entryAt_of_get? found)
      rw [if_pos samePage, held]
      exact same
    · rw [if_neg samePage]
      exact .refl _
  ranks := .refl consistent

theorem of_ranks (ranks : pager.ledger.Reranks ledger ticks) :
    pager.Refreshes pager.table ledger ticks where
  marks _ := .refl _
  ranks := ranks

end Refreshes

/-- The page of a resident place is in memory, and its entry can be looked
up. -/
theorem Sound.lookup_resident (sound : pager.Sound pending)
    {resident : ResidentPage} (member : resident ∈ pager.ledger.residents) :
    (pager.entryAt resident.address).isValid = true ∧
      resident.address < addressLimit ∧
        pager.table.get? resident.address =
          some (pager.entryAt resident.address) := by
  have known := sound.ledger.residenceOf?_of_resident
    (Ledger.mem_residents_iff.mp member) rfl
  have isPresent : (pager.entryAt resident.address).isPresent = true := by
    rw [Entry.isPresent, (sound.tracked _ _ known).2.2.2.1]
    rfl
  exact ⟨(sound.tracked _ _ known).2.2.2.1, sound.page_lt _ isPresent,
    PageTable.get?_of_isPresent isPresent⟩

theorem least_cases (policy : Policy) (ledger : Ledger) :
    (ledger.residents = [] ∧
        policy.least ledger = .error .nothingResident) ∨
      ∃ resident ∈ ledger.residents, policy.least ledger = .ok resident := by
  unfold Policy.least
  cases chosen : ledger.residents.minOn? fun page =>
      policy.rank page.recency with
  | none =>
      by_cases isEmpty : ledger.residents = []
      · exact .inl ⟨isEmpty, rfl⟩
      · have found := (List.isSome_minOn?_iff
          (f := fun page : ResidentPage => policy.rank page.recency)).mpr
          isEmpty
        rw [chosen] at found
        cases found
  | some resident =>
      exact .inr ⟨resident, List.minOn?_mem chosen, rfl⟩

/-- What a choice of a page leaves: a resident page is chosen, and nothing but
marks, recencies and the clock changed. -/
structure Chooses (pager : Pager) (ticks : Nat) (victim : Victim)
    (ledger : Ledger) (table : PageTable) : Prop where
  refreshes : pager.Refreshes table ledger ticks
  resident : ∃ page recency,
    ledger.places[victim.handle]? = some ⟨.resident page, recency⟩

theorem queuedEntry_of_resident (sound : pager.Sound pending)
    {resident : ResidentPage} (member : resident ∈ pager.ledger.residents) :
    Policy.queuedEntry pager.table resident.address =
      .ok (pager.entryAt resident.address) := by
  obtain ⟨_, inside, held⟩ := sound.lookup_resident member
  rw [Policy.queuedEntry, PageTable.lookup_of_lt inside, held]
  rfl

theorem chooses_of_mem (sound : pager.Sound pending)
    {resident : ResidentPage} (member : resident ∈ pager.ledger.residents) :
    pager.Chooses 0 { handle := resident.handle } pager.ledger
      pager.table where
  refreshes := .refl sound.ledger
  resident := ⟨resident.address, resident.recency,
    Ledger.mem_residents_iff.mp member⟩

/-- A page at the front that is spared loses its mark and queues again, unless
the clock runs out. -/
theorem requeue_cases (sound : pager.Sound pending) {front : ResidentPage}
    (member : front ∈ pager.ledger.residents) :
    (Word.limit ≤ pager.ledger.generation + 1 ∧
        pager.ledger.advanceClock = .error .overflow) ∨
      ∃ clocked requeued,
        pager.ledger.advanceClock =
          .ok (pager.ledger.generation + 1, clocked) ∧
        clocked.setRecency front.handle (pager.ledger.generation + 1) =
          .ok requeued ∧
        requeued.residents ≠ [] ∧
          pager.Refreshes
            (pager.table.write front.address
              ((pager.entryAt front.address).remove Policy.accessedFlag))
            requeued 1 := by
  obtain ⟨_, _, held⟩ := sound.lookup_resident member
  have unmarks := Refreshes.of_write sound.ledger held (.remove_accessed _)
  have place := Ledger.mem_residents_iff.mp member
  obtain ⟨overflow, tooLate⟩ | ⟨clocked, advanced, clockRanks⟩ :=
    Ledger.advanceClock_cases sound.ledger
  · exact .inl ⟨tooLate, overflow⟩
  · obtain ⟨_, clockedPlace⟩ := clockRanks.place place
    obtain ⟨requeued, success, ranks, _⟩ := Ledger.setRecency_of_place
      clockRanks.isConsistent clockedPlace (pager.ledger.generation + 1)
    refine .inr ⟨clocked, requeued, advanced, success, ?_,
      unmarks.trans (Refreshes.of_ranks (clockRanks.trans ranks))⟩
    obtain ⟨recency, stillThere⟩ := (clockRanks.trans ranks).place place
    have stays : (⟨front.handle, front.address, recency⟩ : ResidentPage) ∈
        requeued.residents := Ledger.mem_residents_iff.mpr stillThere
    exact List.ne_nil_of_mem stays

/-- The second-chance sweep finds a resident page as long as there is one and
the clock does not run out. -/
theorem sweep_cases (sound : pager.Sound pending) (chances : Nat)
    (occupied : pager.ledger.residents ≠ []) :
    (Word.limit ≤ pager.ledger.generation + chances ∧
        Policy.sweep chances pager.ledger pager.table =
          .error .overflow) ∨
      ∃ victim ledger table,
        Policy.sweep chances pager.ledger pager.table =
          .ok (victim, ledger, table) ∧
        pager.Chooses chances victim ledger table := by
  induction chances generalizing pager with
  | zero =>
      right
      obtain ⟨isEmpty, _⟩ | ⟨front, member, found⟩ :=
        least_cases .scfifo pager.ledger
      · exact absurd isEmpty occupied
      · refine ⟨_, _, _, ?_, chooses_of_mem sound member⟩
        rw [Policy.sweep, found]
        simp only [bind, Except.bind, queuedEntry_of_resident sound member]
        rfl
  | succ chances ih =>
      obtain ⟨isEmpty, _⟩ | ⟨front, member, found⟩ :=
        least_cases .scfifo pager.ledger
      · exact absurd isEmpty occupied
      · rw [Policy.sweep, found]
        simp only [bind, Except.bind, queuedEntry_of_resident sound member]
        by_cases marked : (pager.entryAt front.address).flags.accessed = true
        · rw [if_pos marked]
          obtain ⟨tooLate, overflow⟩ |
              ⟨clocked, requeued, advanced, success, occupied, refreshes⟩ :=
            requeue_cases sound member
          · left
            rw [overflow]
            exact ⟨by omega, rfl⟩
          · rw [advanced]
            simp only [success]
            have clockLe := refreshes.ranks.generation_le
            obtain ⟨late, overflow⟩ |
                ⟨victim, ledger, table, swept, chooses⟩ :=
              ih (refreshes.sound sound) occupied
            · left
              dsimp only at late overflow
              rw [overflow]
              exact ⟨by omega, rfl⟩
            · right
              dsimp only at swept
              rw [swept]
              refine ⟨_, ledger, table, rfl, ?_, chooses.resident⟩
              exact (refreshes.trans chooses.refreshes).mono (by omega)
        · right
          rw [if_neg marked]
          have chosen := chooses_of_mem sound member
          exact ⟨_, _, _, rfl, chosen.refreshes.mono (Nat.zero_le _),
            chosen.resident⟩

/-- A policy that pages chooses a resident page as long as there is one and the
clock does not run out. -/
theorem select_cases (sound : pager.Sound pending) (policy : Policy) :
    (∃ cause, policy.select pager.ledger pager.table = .error cause ∧
        (pager.ledger.residents = [] ∨ policy.isPaging = false ∨
          cause = .overflow ∧ policy = .scfifo ∧
            Word.limit ≤ pager.ledger.generation +
              pager.ledger.residents.length)) ∨
      ∃ victim ledger table,
        policy.select pager.ledger pager.table =
          .ok (victim, ledger, table) ∧
        pager.Chooses pager.ledger.residents.length victim ledger table := by
  by_cases isEmpty : pager.ledger.residents = []
  · left
    cases chosen : policy.select pager.ledger pager.table with
    | error cause => exact ⟨cause, rfl, .inl isEmpty⟩
    | ok result =>
        exfalso
        cases policy <;>
          simp [Policy.select, Policy.least, Policy.sweep, isEmpty, bind,
            Except.bind, throw, throwThe, MonadExceptOf.throw] at chosen
  · have ranked : ∀ policy : Policy, ∃ resident,
        policy.least pager.ledger = .ok resident ∧
          pager.Chooses 0 { handle := resident.handle } pager.ledger
            pager.table := by
      intro policy
      obtain ⟨none, _⟩ | ⟨resident, member, found⟩ :=
        least_cases policy pager.ledger
      · exact absurd none isEmpty
      · exact ⟨resident, found, chooses_of_mem sound member⟩
    cases policy with
    | noPaging => exact .inl ⟨_, rfl, .inr (.inl rfl)⟩
    | nfua =>
        obtain ⟨resident, found, chooses⟩ := ranked .nfua
        refine .inr ⟨_, _, _, ?_, chooses.refreshes.mono (Nat.zero_le _),
          chooses.resident⟩
        simp only [Policy.select, found, bind, Except.bind]
        rfl
    | lapa =>
        obtain ⟨resident, found, chooses⟩ := ranked .lapa
        refine .inr ⟨_, _, _, ?_, chooses.refreshes.mono (Nat.zero_le _),
          chooses.resident⟩
        simp only [Policy.select, found, bind, Except.bind]
        rfl
    | scfifo =>
        obtain ⟨late, overflow⟩ | swept :=
          sweep_cases sound pager.ledger.residents.length isEmpty
        · exact .inl ⟨_, overflow, .inr (.inr ⟨rfl, rfl, late⟩)⟩
        · exact .inr swept

/-- Ageing pages that are there succeeds. -/
theorem agePages_of_present (consistent : pager.ledger.IsConsistent)
    (pages : List ResidentPage)
    (present : ∀ page ∈ pages,
      page.address < addressLimit ∧
        (pager.entryAt page.address).isPresent = true ∧
          ∃ tracked, pager.ledger.places[page.handle]? = some tracked) :
    ∃ ledger table,
      Policy.agePages pages pager.ledger pager.table = .ok (ledger, table) ∧
        pager.Refreshes table ledger 0 := by
  induction pages generalizing pager with
  | nil => exact ⟨_, _, rfl, .refl consistent⟩
  | cons page pages ih =>
      obtain ⟨inside, isPresent, tracked, place⟩ :=
        present page (List.mem_cons_self ..)
      have held := PageTable.get?_of_isPresent isPresent
      obtain ⟨ranked, success, ranks, _⟩ := Ledger.setRecency_of_place
        consistent place (Policy.aged page.recency
          (pager.entryAt page.address).flags.accessed)
      have refreshes := (Refreshes.of_write consistent held
        (.remove_accessed _)).trans (Refreshes.of_ranks ranks)
      obtain ⟨ledger, table, aged, more⟩ := ih ranks.isConsistent (by
        intro other member
        obtain ⟨otherInside, otherPresent, otherTracked, otherPlace⟩ :=
          present other (List.mem_cons_of_mem _ member)
        refine ⟨otherInside, ?_, ?_⟩
        · exact (refreshes.relabels.isPresent _).trans otherPresent
        · obtain ⟨_, stays⟩ := ranks.place otherPlace
          exact ⟨_, stays⟩)
      refine ⟨ledger, table, ?_, refreshes.trans more⟩
      rw [Policy.agePages, Policy.agePage,
        PageTable.lookup_of_lt inside]
      change pager.table.get? page.address = _ at held
      simp only [bind, Except.bind, held]
      change pager.ledger.setRecency page.handle (Policy.aged page.recency
        (pager.table.entryAt page.address).flags.accessed) = _ at success
      rw [success]
      exact aged

theorem onTick_of_sound (sound : pager.Sound pending) (policy : Policy) :
    ∃ aged ledger table,
      policy.onTick pager.ledger pager.table = .ok (aged, ledger, table) ∧
        pager.Refreshes table ledger 0 := by
  have aging : ∃ ledger table, Policy.agePages pager.ledger.residents
      pager.ledger pager.table = .ok (ledger, table) ∧
        pager.Refreshes table ledger 0 := by
    apply agePages_of_present sound.ledger
    intro resident member
    obtain ⟨isValid, inside, _⟩ := sound.lookup_resident member
    exact ⟨inside, isPresent_of_isValid isValid, _,
      Ledger.mem_residents_iff.mp member⟩
  obtain ⟨ledger, table, success, refreshes⟩ := aging
  cases policy with
  | noPaging => exact ⟨none, _, _, rfl, .refl sound.ledger⟩
  | scfifo => exact ⟨none, _, _, rfl, .refl sound.ledger⟩
  | nfua =>
      refine ⟨some pager.ledger.residents.length, ledger, table, ?_, refreshes⟩
      simp only [Policy.onTick, success, bind, Except.bind]
      rfl
  | lapa =>
      refine ⟨some pager.ledger.residents.length, ledger, table, ?_, refreshes⟩
      simp only [Policy.onTick, success, bind, Except.bind]
      rfl

end Pager

end DemandPaging
