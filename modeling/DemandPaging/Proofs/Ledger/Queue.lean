import DemandPaging.Proofs.Ledger.Turns
import Mathlib.Data.List.Nodup
import Mathlib.Data.List.Sigma
import Mathlib.Data.List.Sort

/-!
# The queue in the ledger

Under second-chance FIFO the recency of a page is a stamp of the clock.  While
all stamps differ and none is ahead of the clock, the pages in memory in the
order of their stamps are a queue: what is stamped anew goes to its back, and
what leaves it does not change the order of the others.
-/

namespace DemandPaging

namespace Ledger

variable {ledger before after : Ledger} {page : Nat}
  {front new : ResidentPage} {pages : List ResidentPage}

/-- The pages in memory, the earliest stamped first. -/
def queue (ledger : Ledger) : List ResidentPage :=
  ledger.residents.mergeSort fun first second =>
    first.recency ≤ second.recency

theorem nodup_residents (ledger : Ledger) : ledger.residents.Nodup := by
  refine List.Nodup.filterMap ?_
    (List.nodup_zipIdx_map_snd ledger.places.toList).of_map
  rintro ⟨⟨residence, recency⟩, handle⟩ ⟨⟨other, otherRecency⟩, otherHandle⟩
    resident chosen otherChosen
  cases residence with
  | free | swapped _ _ => cases chosen
  | resident page =>
      cases other with
      | free | swapped _ _ => cases otherChosen
      | resident otherPage =>
          cases chosen
          cases otherChosen
          rfl

theorem mem_queue_iff : front ∈ ledger.queue ↔ front ∈ ledger.residents :=
  List.mem_mergeSort

theorem pairwise_le_queue (ledger : Ledger) : ledger.queue.Pairwise
    fun first second => first.recency ≤ second.recency := by
  have sorted : ledger.queue.Pairwise fun first second =>
      decide (first.recency ≤ second.recency) = true :=
    List.pairwise_mergeSort (fun _ _ _ => by simpa using Nat.le_trans)
      (fun _ _ => by simpa using Nat.le_total _ _) ledger.residents
  exact sorted.imp of_decide_eq_true

theorem nodup_queue (ledger : Ledger) : ledger.queue.Nodup :=
  (List.mergeSort_perm _ _).nodup_iff.mpr ledger.nodup_residents

/-- All stamps differ, and none is ahead of the clock. -/
structure IsStamped (ledger : Ledger) : Prop where
  isConsistent : ledger.IsConsistent
  distinct : ∀ first ∈ ledger.residents, ∀ second ∈ ledger.residents,
    first.recency = second.recency → first = second
  recency_le : ∀ resident ∈ ledger.residents,
    resident.recency ≤ ledger.generation

theorem IsStamped.pairwise_queue (stamped : ledger.IsStamped) :
    ledger.queue.Pairwise
      fun first second => first.recency < second.recency := by
  refine (ledger.pairwise_le_queue.and ledger.nodup_queue).imp_of_mem ?_
  rintro first second member otherMember ⟨le, different⟩
  refine Nat.lt_of_le_of_ne le fun same => different ?_
  exact stamped.distinct first (mem_queue_iff.mp member) second
    (mem_queue_iff.mp otherMember) same

theorem IsStamped.queue_eq (stamped : ledger.IsStamped)
    (sorted : pages.Pairwise fun first second => first.recency < second.recency)
    (same : ∀ resident, resident ∈ pages ↔ resident ∈ ledger.residents) :
    ledger.queue = pages := by
  have nodup : pages.Nodup := List.Pairwise.imp
    (fun less => ne_of_apply_ne ResidentPage.recency (Nat.ne_of_lt less)) sorted
  have perm : ledger.queue.Perm pages :=
    (List.perm_ext_iff_of_nodup ledger.nodup_queue nodup).mpr fun resident =>
      mem_queue_iff.trans (same resident).symm
  exact perm.eq_of_pairwise
    (fun _ _ _ _ less more => absurd (Nat.lt_trans less more)
      (Nat.lt_irrefl _)) stamped.pairwise_queue sorted

theorem recency_le_of_least (least : Policy.scfifo.least ledger = .ok front) :
    front ∈ ledger.residents ∧ ∀ resident ∈ ledger.residents,
      front.recency ≤ resident.recency := by
  unfold Policy.least at least
  cases chosen : ledger.residents.minOn? fun page =>
      Policy.scfifo.rank page.recency with
  | none => rw [chosen] at least; cases least
  | some page =>
      rw [chosen] at least
      cases least
      refine ⟨List.minOn?_mem chosen, fun resident member => ?_⟩
      have le := List.apply_get_minOn?_le_of_mem
        (f := fun page : ResidentPage => Policy.scfifo.rank page.recency) member
      simp only [chosen, Option.get_some] at le
      exact le

theorem IsStamped.queue_of_least (stamped : ledger.IsStamped)
    (least : Policy.scfifo.least ledger = .ok front) :
    ∃ behind, ledger.queue = front :: behind := by
  obtain ⟨member, le⟩ := recency_le_of_least least
  have sorted := stamped.pairwise_queue
  rw [← mem_queue_iff] at member
  cases queued : ledger.queue with
  | nil =>
      rw [queued] at member
      cases member
  | cons first behind =>
      rw [queued] at member sorted
      rcases List.mem_cons.mp member with rfl | later
      · exact ⟨behind, rfl⟩
      · have less := List.rel_of_pairwise_cons sorted later
        have isFirst : first ∈ ledger.residents := by
          rw [← mem_queue_iff, queued]
          exact .head _
        exact absurd less (Nat.not_lt.mpr (le first isFirst))

/-- What leaves memory leaves the queue. -/
theorem Turns.queue_of_none (turns : before.Turns page none after)
    (stamped : before.IsStamped)
    (sameClock : after.generation = before.generation) :
    after.IsStamped ∧ after.queue =
      before.queue.filter fun resident => resident.address ≠ page := by
  have still : ∀ resident ∈ after.residents, resident ∈ before.residents :=
    fun resident member =>
      (((turns.mem_residents resident).mp member).resolve_left nofun).1
  have stampedAfter : after.IsStamped := by
    refine ⟨turns.isConsistent, fun first member second otherMember =>
      stamped.distinct first (still first member) second
        (still second otherMember), fun resident member => ?_⟩
    rw [sameClock]
    exact stamped.recency_le resident (still resident member)
  refine ⟨stampedAfter, stampedAfter.queue_eq
    (stamped.pairwise_queue.filter _) fun resident => ?_⟩
  simp [turns.mem_residents, mem_queue_iff]

/-- What is stamped anew is at the back. -/
theorem Turns.queue_of_some (turns : before.Turns page (some new) after)
    (stamped : before.IsStamped)
    (stamp : new.recency = before.generation + 1)
    (clock : after.generation = before.generation + 1) :
    after.IsStamped ∧ after.queue =
      (before.queue.filter fun resident => resident.address ≠ page) ++
        [new] := by
  have old : ∀ resident ∈ after.residents, resident = new ∨
      resident ∈ before.residents ∧ resident.recency < new.recency := by
    intro resident member
    rcases (turns.mem_residents resident).mp member with arrived | ⟨old, _⟩
    · exact .inl (Option.some.inj arrived).symm
    · refine .inr ⟨old, ?_⟩
      have := stamped.recency_le resident old
      omega
  have stampedAfter : after.IsStamped := by
    refine ⟨turns.isConsistent, fun first member second otherMember same => ?_,
      fun resident member => ?_⟩
    · rcases old first member with rfl | ⟨isOld, less⟩
      · rcases old second otherMember with rfl | ⟨_, less⟩
        · rfl
        · omega
      · rcases old second otherMember with rfl | ⟨otherOld, _⟩
        · omega
        · exact stamped.distinct first isOld second otherOld same
    · rcases old resident member with rfl | ⟨_, less⟩ <;> omega
  refine ⟨stampedAfter, stampedAfter.queue_eq (List.pairwise_append.mpr
    ⟨stamped.pairwise_queue.filter _, List.pairwise_singleton _ _, ?_⟩)
      fun resident => ?_⟩
  · intro first member second isNew
    rw [List.mem_singleton.mp isNew, stamp]
    have isOld := mem_queue_iff.mp (List.mem_of_mem_filter member)
    exact Nat.lt_succ_of_le (stamped.recency_le first isOld)
  · rw [List.mem_append, List.mem_singleton, turns.mem_residents, or_comm]
    refine or_congr ?_ ?_
    · rw [Option.some.injEq, eq_comm]
    · simp [mem_queue_iff]

end Ledger

end DemandPaging
