import DemandPaging.Proofs.Effects.Chances
import DemandPaging.Proofs.Effects.Steps

/-!
# Pages that become resident

A page becomes resident at a place that was unused or that held it in swap, and
gets its first recency there.  No other place changes.
-/

namespace DemandPaging

/-- The ledger once the page at `page` is resident at the place `handle` and
has its first recency. -/
def settle (policy : Policy) (ledger : Ledger) (handle page : Nat) :
    Except Fatal Ledger := do
  let marked ← ledger.markResident handle page
  policy.onLoad marked handle

variable {policy : Policy} {ledger settled after : Ledger}
  {handle page other : Nat} {tracked old : Tracked}

theorem getElem?_places_of_onLoad
    (loaded : policy.onLoad ledger handle = .ok after)
    (different : other ≠ handle) :
    after.places[other]? = ledger.places[other]? := by
  have elsewhere : ∀ {before changed : Ledger} {recency : Nat},
      before.setRecency handle recency = .ok changed →
        changed.places[other]? = before.places[other]? := by
    intro before changed recency ranked
    obtain ⟨_, _, rfl⟩ := Ledger.setRecency_eq_ok_iff.mp ranked
    rw [Ledger.getElem?_places_put, if_neg fun both => different both.1.symm]
  cases policy with
  | noPaging =>
      cases loaded
      rfl
  | nfua | lapa => exact elsewhere loaded
  | scfifo =>
      simp only [Policy.onLoad, bind_eq_ok_iff, Prod.exists] at loaded
      obtain ⟨now, clocked, advanced, ranked⟩ := loaded
      obtain ⟨_, _, rfl⟩ := Ledger.advanceClock_eq_ok_iff.mp advanced
      have requeued := elsewhere ranked
      exact requeued

/-- The page at `page` is resident at the place `handle`, which held `old`
before, and nothing else of the ledger changed but its clock. -/
structure Settled (ledger : Ledger) (handle page : Nat) (old : Tracked)
    (settled : Ledger) : Prop where
  place : ledger.places[handle]? = some old
  origin : (old.residence = .free ∧ ledger.find? page = none) ∨
    ∃ slot, old.residence = .swapped page slot
  isConsistent : settled.IsConsistent
  residence : ∀ other, settled.residenceAt? other =
    if other = handle then some (.resident page)
    else ledger.residenceAt? other
  places : ∀ other, other ≠ handle →
    settled.places[other]? = ledger.places[other]?
  room : ledger.residentCount < ledger.maxResident
  residentCount : settled.residentCount = ledger.residentCount + 1
  maxResident : settled.maxResident = ledger.maxResident
  capacity : settled.capacity = ledger.capacity

theorem settled_of_settle (consistent : ledger.IsConsistent)
    (settles : settle policy ledger handle page = .ok settled) :
    ∃ old, Settled ledger handle page old settled := by
  rw [settle, bind_eq_ok_iff] at settles
  obtain ⟨marked, marks, loads⟩ := settles
  obtain ⟨room, old, place, kinds⟩ := Ledger.markResident_eq_ok_iff.mp marks
  have origin : (old.residence = .free ∧ ledger.find? page = none) ∨
      ∃ slot, old.residence = .swapped page slot :=
    kinds.imp (fun unused => ⟨unused.1, unused.2.1⟩)
      fun ⟨slot, swapped, _⟩ => ⟨slot, swapped⟩
  have puts : ledger.Puts handle old
      { old with residence := .resident page } marked := by
    obtain ⟨unused, missing, rfl⟩ | ⟨_, swapped, rfl⟩ := kinds
    · exact Ledger.puts_resident_of_free place unused missing
    · exact Ledger.puts_resident_of_swapped consistent place swapped
  have unchanged : marked.residentCount = ledger.residentCount + 1 ∧
      marked.maxResident = ledger.maxResident := by
    obtain ⟨_, _, rfl⟩ | ⟨_, _, rfl⟩ := kinds <;> exact ⟨rfl, rfl⟩
  have atPlace : marked.places[handle]? =
      some { old with residence := .resident page } :=
    (puts.getElem?_places handle).trans (if_pos rfl)
  obtain ⟨_, _, refused⟩ | ⟨_, loaded, ranks⟩ :=
    policy.onLoad_cases (puts.isConsistent consistent) atPlace
  · cases refused.symm.trans loads
  cases loaded.symm.trans loads
  have sameResidence : ∀ other,
      settled.residenceAt? other = marked.residenceAt? other :=
    ranks.residence
  refine ⟨old, place, origin, ranks.isConsistent, fun other => ?_,
    fun other different => ?_, room, ?_, ?_, ?_⟩
  · rw [sameResidence]
    by_cases here : other = handle
    · rw [if_pos here, here]
      exact Ledger.residenceAt?_of_place atPlace
    · rw [if_neg here, Ledger.residenceAt?, puts.getElem?_places,
        if_neg fun same => here same.symm, Ledger.residenceAt?]
  · rw [getElem?_places_of_onLoad loads different, puts.getElem?_places,
      if_neg fun same => different same.symm]
  · rw [ranks.residentCount, unchanged.1]
  · rw [ranks.maxResident, unchanged.2]
  · rw [ranks.capacity, puts.capacity]

/-- A page can settle where there is room and its place is free for it, unless
the clock has to advance beyond the range of a word. -/
theorem settle_cases (policy : Policy) (consistent : ledger.IsConsistent)
    (room : ledger.residentCount < ledger.maxResident)
    (place : ledger.places[handle]? = some old)
    (origin : (old.residence = .free ∧ ledger.find? page = none) ∨
      ∃ slot, old.residence = .swapped page slot) :
    (policy = .scfifo ∧ Word.limit ≤ ledger.generation + 1 ∧
        settle policy ledger handle page = .error .overflow) ∨
      ∃ settled, settle policy ledger handle page = .ok settled := by
  have marks : ∃ marked, ledger.markResident handle page = .ok marked ∧
      ledger.Puts handle old { old with residence := .resident page } marked ∧
      marked.generation = ledger.generation := by
    obtain ⟨unused, missing⟩ | ⟨_, swapped⟩ := origin
    · exact ⟨_, Ledger.markResident_of_free room place unused missing,
        Ledger.puts_resident_of_free place unused missing, rfl⟩
    · exact ⟨_, Ledger.markResident_of_swapped room place swapped,
        Ledger.puts_resident_of_swapped consistent place swapped, rfl⟩
  obtain ⟨marked, success, puts, clock⟩ := marks
  have atPlace : marked.places[handle]? =
      some { old with residence := .resident page } :=
    (puts.getElem?_places handle).trans (if_pos rfl)
  have sameLoad : settle policy ledger handle page =
      policy.onLoad marked handle := by
    rw [settle, success]
    rfl
  rw [sameLoad, ← clock]
  exact (policy.onLoad_cases (puts.isConsistent consistent) atPlace).imp_right
    fun ⟨settled, loads, _⟩ => ⟨settled, loads⟩

namespace AddressSpace

variable {expected state : Hosted AddressSpace} {fatal : Fatal → Prop}
  {failed : PagingError → Hosted AddressSpace → Prop}

theorem resembles_settleResident (same : Resembles expected state)
    (refused : ∀ cause, settle expected.focus.config.policy
      expected.focus.ledger handle page = .error cause → fatal cause) :
    ((settleResident handle page).run state).Meets fatal
      (fun _ after => ∃ ledger, settle expected.focus.config.policy
          expected.focus.ledger handle page = .ok ledger ∧
        Resembles (withSpace expected fun space => { space with ledger })
          after) failed := by
  rw [settle] at *
  rw [settleResident]
  cases marks : expected.focus.ledger.markResident handle page with
  | error cause =>
      have ended : (Action.change fun ledger : Ledger =>
          ledger.markResident handle page).run state.focus.ledger =
            .fatal cause := by
        rw [same.focus]
        exact Action.run_change_of_error marks
      rw [Action.run_bind_of_fatal (by rw [onLedger, Action.run_zoom, ended])]
      exact refused cause (by rw [marks]; rfl)
  | ok marked =>
      refine Action.meets_bind (resembles_changeLedger same marks)
        fun _ middle marking => ?_
      have sameConfig : middle.focus.config = expected.focus.config := by
        rw [marking.focus]
        rfl
      rw [Action.run_bind_of_done (run_look _), sameConfig]
      cases loads : expected.focus.config.policy.onLoad marked handle with
      | error cause =>
          have ended : (Action.change fun ledger : Ledger =>
              expected.focus.config.policy.onLoad ledger handle).run
                middle.focus.ledger = .fatal cause := by
            rw [marking.focus]
            exact Action.run_change_of_error loads
          rw [onLedger, Action.run_zoom, ended]
          exact refused cause (by rw [marks]; exact loads)
      | ok ledger =>
          exact (resembles_changeLedger marking loads).mono_done
            fun _ _ loaded => ⟨ledger, loads, loaded.focus, loaded.pools⟩

end AddressSpace

end DemandPaging
