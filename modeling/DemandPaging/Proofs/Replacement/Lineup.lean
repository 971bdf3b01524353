import DemandPaging.Proofs.Ledger.Queue
import DemandPaging.Proofs.Pager.Refreshing

/-!
# The line of the pages in memory

A policy picks the page of least rank, and of equal ranks the one at the
earliest place (`Policy.least_eq_ok_iff`).  No two pages in memory are at one
place, so this orders them all, whether or not their recencies differ.

Ordered by recency and place the pages of a ledger stand in line, and the
second-chance policy looks first at the head of the line.
-/

namespace DemandPaging

variable {ledger : Ledger} {page first second : ResidentPage}
  {pages : List ResidentPage} {policy : Policy}

theorem Ledger.pairwise_handle_residents (ledger : Ledger) :
    ledger.residents.Pairwise
      fun first second => first.handle < second.handle := by
  have places : (ledger.places.toList.zipIdx.map Prod.snd).Pairwise
      (· < ·) := by
    rw [List.zipIdx_map_snd, ← List.range_eq_range']
    exact List.pairwise_lt_range
  refine List.pairwise_filterMap.mpr ((List.pairwise_map.mp places).imp ?_)
  rintro ⟨tracked, place⟩ ⟨other, otherPlace⟩ less page chosen otherPage
    otherChosen
  simp only at chosen otherChosen
  split at chosen
  case h_2 => cases chosen
  split at otherChosen
  case h_2 => cases otherChosen
  cases chosen
  cases otherChosen
  exact less

theorem Ledger.eq_of_handle_eq (member : first ∈ ledger.residents)
    (otherMember : second ∈ ledger.residents)
    (same : first.handle = second.handle) : first = second := by
  have place := Ledger.mem_residents_iff.mp member
  rw [same, Ledger.mem_residents_iff.mp otherMember] at place
  obtain ⟨handle, address, recency⟩ := first
  obtain ⟨otherHandle, otherAddress, otherRecency⟩ := second
  cases same
  cases place
  rfl

namespace Policy

/-- The page `first` leaves before `second`: its rank is less, or the ranks
are equal and its place is earlier. -/
def Prefers (policy : Policy) (first second : ResidentPage) : Prop :=
  policy.rank first.recency < policy.rank second.recency ∨
    policy.rank first.recency = policy.rank second.recency ∧
      first.handle < second.handle

theorem Prefers.asymm (prefers : policy.Prefers first second) :
    ¬policy.Prefers second first := by
  unfold Prefers at *
  omega

/-- Of pages listed by their places, the one that is least by rank is
preferred to all others. -/
theorem prefers_of_minOn? (listed : pages.Pairwise
      fun first second => first.handle < second.handle)
    (least : pages.minOn? (fun page => policy.rank page.recency) = some page) :
    ∀ other ∈ pages, other ≠ page → policy.Prefers page other := by
  induction pages generalizing page with
  | nil => cases least
  | cons head tail ih =>
      obtain ⟨ahead, listed⟩ := List.pairwise_cons.mp listed
      rw [List.minOn?_cons, Option.some.injEq] at least
      cases rest : tail.minOn? fun page => policy.rank page.recency with
      | none =>
          have isEmpty : tail = [] := by
            by_contra nonempty
            have isSome := (List.isSome_minOn?_iff
              (f := fun page : ResidentPage => policy.rank page.recency)).mpr
              nonempty
            rw [rest] at isSome
            cases isSome
          rw [rest, Option.elim_none] at least
          subst least isEmpty
          intro other member different
          exact absurd (List.mem_singleton.mp member) different
      | some best =>
          have bestMember := List.minOn?_mem rest
          have preferred := ih listed rest
          rw [rest, Option.elim_some] at least
          intro other member different
          by_cases isLess : policy.rank head.recency ≤ policy.rank best.recency
          · -- The head is at an earlier place than the best of the others.
            rw [minOn, if_pos isLess] at least
            subst least
            have later :=
              (List.mem_cons.mp member).resolve_left different
            have earlier := ahead other later
            by_cases isBest : other = best
            · subst isBest
              unfold Prefers
              omega
            · have prefers := preferred other later isBest
              unfold Prefers at prefers ⊢
              omega
          · rw [minOn, if_neg isLess] at least
            subst least
            rcases List.mem_cons.mp member with rfl | later
            · exact .inl (Nat.lt_of_not_le isLess)
            · exact preferred other later different

/-- A policy picks the page in memory that it prefers to all others. -/
theorem least_eq_ok_iff : policy.least ledger = .ok page ↔
    page ∈ ledger.residents ∧
      ∀ other ∈ ledger.residents, other ≠ page → policy.Prefers page other := by
  have picked : ∀ {page : ResidentPage}, policy.least ledger = .ok page →
      page ∈ ledger.residents ∧ ∀ other ∈ ledger.residents, other ≠ page →
        policy.Prefers page other := by
    intro page least
    unfold Policy.least at least
    split at least
    · rename_i chosen
      cases least
      exact ⟨List.minOn?_mem chosen,
        prefers_of_minOn? ledger.pairwise_handle_residents chosen⟩
    · cases least
  refine ⟨picked, fun ⟨member, preferred⟩ => ?_⟩
  obtain ⟨isEmpty, _⟩ | ⟨best, _, least⟩ := Pager.least_cases policy ledger
  · rw [isEmpty] at member
    cases member
  · obtain ⟨bestMember, bestPreferred⟩ := picked least
    by_cases same : best = page
    · rw [← same]
      exact least
    · exact absurd (preferred best bestMember same)
        (bestPreferred page member (Ne.symm same)).asymm

end Policy

/-- The page `first` stands in line before `second`: it was stamped earlier,
or at the same time and its place is earlier. -/
def ResidentPage.Precedes (first second : ResidentPage) : Prop :=
  first.recency < second.recency ∨
    first.recency = second.recency ∧ first.handle < second.handle

theorem ResidentPage.Precedes.asymm (precedes : first.Precedes second) :
    ¬second.Precedes first := by
  unfold ResidentPage.Precedes at *
  omega

namespace Ledger

/-- The pages in memory in the order of their stamps, and of their places
where the stamps are equal. -/
def lineup (ledger : Ledger) : List ResidentPage :=
  ledger.residents.mergeSort fun first second =>
    first.recency < second.recency ∨
      first.recency = second.recency ∧ first.handle ≤ second.handle

theorem mem_lineup_iff : page ∈ ledger.lineup ↔ page ∈ ledger.residents :=
  List.mem_mergeSort

@[simp]
theorem length_lineup (ledger : Ledger) :
    ledger.lineup.length = ledger.residents.length :=
  List.length_mergeSort _

theorem pairwise_lineup (ledger : Ledger) :
    ledger.lineup.Pairwise ResidentPage.Precedes := by
  have sorted : ledger.lineup.Pairwise fun first second =>
      decide (first.recency < second.recency ∨
        first.recency = second.recency ∧ first.handle ≤ second.handle) =
          true :=
    List.pairwise_mergeSort
      (fun _ _ _ less more => by
        simp only [decide_eq_true_eq] at less more ⊢
        omega)
      (fun _ _ => by
        simp only [Bool.or_eq_true, decide_eq_true_eq]
        omega) ledger.residents
  have nodup : ledger.lineup.Nodup :=
    (List.mergeSort_perm _ _).nodup_iff.mpr ledger.nodup_residents
  refine (sorted.and nodup).imp_of_mem ?_
  rintro first second member otherMember ⟨le, different⟩
  have otherPlace : first.handle ≠ second.handle := fun same => different
    (eq_of_handle_eq (mem_lineup_iff.mp member) (mem_lineup_iff.mp otherMember)
      same)
  rw [decide_eq_true_eq] at le
  unfold ResidentPage.Precedes
  omega

/-- The second-chance policy looks at the page that precedes all others. -/
theorem least_of_pairwise {behind : List ResidentPage}
    (sorted : (page :: behind).Pairwise ResidentPage.Precedes)
    (same : ∀ resident,
      resident ∈ page :: behind ↔ resident ∈ ledger.residents) :
    Policy.scfifo.least ledger = .ok page := by
  refine Policy.least_eq_ok_iff.mpr ⟨(same page).mp (.head _), ?_⟩
  intro other member different
  have later := (List.mem_cons.mp ((same other).mpr member)).resolve_left
    different
  exact List.rel_of_pairwise_cons sorted later

end Ledger

end DemandPaging
