import DemandPaging.Proofs.Ledger.Queue
import DemandPaging.Proofs.Replacement.Remembered
import DemandPaging.Proofs.Replacement.Residency

/-!
# What a history says of a page

The moves made so far, the latest first, tell of each page whether it is in
memory, whether it has a reference that no tick has seen, and, where pages age,
which recency it has.  A reference is unseen until a tick finds the page in
memory; that the page was in swap in between takes nothing away from it.

Under the policies that age pages the books say the same (`Recalls`), move for
move.
-/

namespace DemandPaging

namespace Books

variable {policy : Policy} {books before after : Books} {move : Move}
  {moves past : List Move} {page : Nat}

/-- Is the page in memory? -/
def isInMemory (page : Nat) : (past : List Move) → Bool
  | [] => false
  | .enlist other _ :: past | .load other :: past =>
    other == page || isInMemory page past
  | .evict _ other :: past | .forget other :: past =>
    other != page && isInMemory page past
  | .refer _ :: past | .refuse _ _ :: past | .age :: past =>
    isInMemory page past

/-- Has the page a reference that no tick has seen?  One that is mapped with its
mark set has. -/
def isUnseen (page : Nat) : (past : List Move) → Bool
  | [] => false
  | .refer other :: past => other == page || isUnseen page past
  | .enlist other isMarked :: past =>
    if other = page then isMarked else isUnseen page past
  | .forget other :: past => other != page && isUnseen page past
  | .age :: past => !isInMemory page past && isUnseen page past
  | .evict _ _ :: past | .refuse _ _ :: past | .load _ :: past =>
    isUnseen page past

/-- The recency of the page, if it is in memory. -/
def recencyOf (policy : Policy) (page : Nat) : (past : List Move) → Nat
  | [] => 0
  | .enlist other _ :: past | .load other :: past =>
    if other = page then policy.firstRecency else recencyOf policy page past
  | .age :: past =>
    if isInMemory page past then
      Policy.aged (recencyOf policy page past) (isUnseen page past)
    else recencyOf policy page past
  | .refer _ :: past | .evict _ _ :: past | .refuse _ _ :: past
  | .forget _ :: past => recencyOf policy page past

theorem recencyOf_lt (policy : Policy) (page : Nat) (past : List Move) :
    recencyOf policy page past < Word.limit := by
  have first : policy.firstRecency < Word.limit := by
    cases policy <;> decide
  induction past with
  | nil => exact Nat.zero_lt_of_lt first
  | cons move past ih =>
      cases move with
      | refer _ | evict _ _ | refuse _ _ | forget _ => exact ih
      | enlist _ _ | load _ =>
          rw [recencyOf]
          split
          · exact first
          · exact ih
      | age =>
          rw [recencyOf]
          split
          · exact Policy.aged_lt ih
          · exact ih

/-- The ledger has the pages in memory that the history tells of, and their
recencies. -/
structure Holds (policy : Policy) (ledger : Ledger) (past : List Move) :
    Prop where
  mem_iff : ∀ page, isInMemory page past = true ↔
    ∃ resident ∈ ledger.residents, resident.address = page
  recency_eq : ∀ resident ∈ ledger.residents,
    resident.recency = recencyOf policy resident.address past

/-- The books say of all pages what the history says. -/
structure Recalls (policy : Policy) (books : Books) (past : List Move) :
    Prop extends Holds policy books.ledger past, books.IsKept where
  isMarked : ∀ page, books.ledger.find? page ≠ none →
    books.isMarked page = isUnseen page past

variable {ledger next : Ledger} {arrived : ResidentPage}

/-- A page leaves memory. -/
theorem Holds.leave (holds : Holds policy ledger past)
    (turns : ledger.Turns page none next)
    (inMemory : ∀ other, isInMemory other (move :: past) =
      (page != other && isInMemory other past))
    (recency : ∀ other, recencyOf policy other (move :: past) =
      recencyOf policy other past) : Holds policy next (move :: past) where
  mem_iff other := by
    rw [inMemory, Bool.and_eq_true, bne_iff_ne, holds.mem_iff]
    simp only [turns.mem_residents, reduceCtorEq, false_or]
    constructor
    · rintro ⟨elsewhere, resident, member, rfl⟩
      exact ⟨resident, ⟨member, elsewhere.symm⟩, rfl⟩
    · rintro ⟨resident, ⟨member, elsewhere⟩, rfl⟩
      exact ⟨elsewhere.symm, resident, member, rfl⟩
  recency_eq resident member := by
    rw [recency]
    rcases (turns.mem_residents resident).mp member with arrives | ⟨old, _⟩
    · cases arrives
    · exact holds.recency_eq resident old

/-- A page comes into memory. -/
theorem Holds.land (holds : Holds policy ledger past)
    (aging : isAging policy = true)
    (lands : ledger.Lands policy page arrived next)
    (inMemory : ∀ other, isInMemory other (move :: past) =
      (page == other || isInMemory other past))
    (recency : ∀ other, recencyOf policy other (move :: past) =
      if page = other then policy.firstRecency
      else recencyOf policy other past) : Holds policy next (move :: past) where
  mem_iff other := by
    rw [inMemory, Bool.or_eq_true, beq_iff_eq, holds.mem_iff]
    simp only [lands.turns.mem_residents, Option.some.injEq]
    constructor
    · rintro (rfl | ⟨resident, member, rfl⟩)
      · exact ⟨arrived, .inl rfl, lands.address⟩
      · exact ⟨resident, .inr ⟨member, lands.absent resident member⟩, rfl⟩
    · rintro ⟨resident, rfl | ⟨member, _⟩, rfl⟩
      · exact .inl lands.address.symm
      · exact .inr ⟨resident, member, rfl⟩
  recency_eq resident member := by
    rw [recency]
    rcases (lands.turns.mem_residents resident).mp member with
      arrives | ⟨old, elsewhere⟩
    · cases arrives
      rw [if_pos lands.address.symm]
      refine lands.first ?_
      cases policy with
      | nfua => exact .inl rfl
      | lapa => exact .inr rfl
      | noPaging | scfifo => cases aging
    · rw [if_neg elsewhere.symm]
      exact holds.recency_eq resident old

/-- What concerns no page in memory is no news. -/
theorem Holds.stay (holds : Holds policy ledger past)
    (inMemory : ∀ other, isInMemory other (move :: past) =
      isInMemory other past)
    (recency : ∀ other, recencyOf policy other (move :: past) =
      recencyOf policy other past) : Holds policy ledger (move :: past) where
  mem_iff other := by
    rw [inMemory]
    exact holds.mem_iff other
  recency_eq resident member := by
    rw [recency]
    exact holds.recency_eq resident member

/-- Pages that age get the recencies that they are due, and lose their marks;
the others stay as they are. -/
structure Ripens (before : Books) (pages : List ResidentPage) (after : Books) :
    Prop where
  mem_residents : ∀ resident : ResidentPage,
    resident ∈ after.ledger.residents ↔
      (∃ page ∈ pages, resident = { page with
        recency := Policy.aged page.recency (before.isMarked page.address) }) ∨
      resident ∈ before.ledger.residents ∧
        ∀ page ∈ pages, resident.address ≠ page.address
  isMarked : ∀ address, Address.pageBase address = address →
    after.isMarked address = (before.isMarked address &&
      pages.all fun page => page.address != address)

theorem Ages.ripens {pages : List ResidentPage}
    (ages : Ages pages before after)
    (consistent : before.ledger.IsConsistent)
    (members : ∀ page ∈ pages, page ∈ before.ledger.residents)
    (aligned : ∀ page ∈ pages, Address.pageBase page.address = page.address)
    (distinct : pages.Pairwise fun first second =>
      first.address ≠ second.address) : Ripens before pages after := by
  induction ages with
  | nil => exact ⟨by simp, by simp⟩
  | @cons books after page pages ledger aged rest ih =>
      obtain ⟨others, distinct⟩ := List.pairwise_cons.mp distinct
      obtain ⟨turns, _⟩ := Ledger.turns_of_setRecency consistent
        (members page (.head _)) aged
      have pageAligned := aligned page (.head _)
      have otherAligned : ∀ other ∈ pages,
          Address.pageBase other.address = other.address :=
        fun other member => aligned other (.tail _ member)
      have ripens := ih turns.isConsistent
        (fun other member => (turns.mem_residents other).mpr
          (.inr ⟨members other (.tail _ member), (others other member).symm⟩))
        otherAligned distinct
      have sameMark : ∀ other ∈ pages,
          (books.mark page.address false).isMarked other.address =
            books.isMarked other.address := by
        intro other member
        rw [isMarked_mark, pageAligned, otherAligned other member,
          if_neg (others other member).symm]
      refine ⟨fun resident => ?_, fun address isBase => ?_⟩
      · rw [ripens.mem_residents, turns.mem_residents]
        constructor
        · rintro (⟨other, member, rfl⟩ | ⟨arrives | ⟨old, elsewhere⟩, apart⟩)
          · refine .inl ⟨other, .tail _ member, ?_⟩
            rw [← sameMark other member]
          · exact .inl ⟨page, .head _, (Option.some.inj arrives).symm⟩
          · exact .inr ⟨old, List.forall_mem_cons.mpr ⟨elsewhere, apart⟩⟩
        · rintro (⟨other, member, rfl⟩ | ⟨old, apart⟩)
          · rcases List.mem_cons.mp member with rfl | member
            · exact .inr ⟨.inl rfl, others⟩
            · refine .inl ⟨other, member, ?_⟩
              rw [← sameMark other member]
          · obtain ⟨elsewhere, apart⟩ := List.forall_mem_cons.mp apart
            exact .inr ⟨.inr ⟨old, elsewhere⟩, apart⟩
      · rw [ripens.isMarked address isBase, List.all_cons]
        dsimp only
        rw [isMarked_mark, pageAligned, isBase]
        by_cases here : address = page.address
        · simp [here]
        · rw [if_neg here, bne_iff_ne.mpr (Ne.symm here), Bool.true_and]

theorem pairwise_residents {ledger : Ledger}
    (consistent : ledger.IsConsistent) :
    ledger.residents.Pairwise fun first second =>
      first.address ≠ second.address := by
  refine List.Pairwise.imp_of_mem ?_ ledger.nodup_residents
  intro first second member otherMember different same
  exact different (consistent.eq_of_address_eq member otherMember same)

theorem Recalls.age (recalls : Recalls policy before past)
    (ages : Ages before.ledger.residents before after) :
    Recalls policy after (.age :: past) := by
  have ripens := ages.ripens recalls.isConsistent (fun _ member => member)
    (fun resident => recalls.aligned_of_mem)
    (pairwise_residents recalls.isConsistent)
  have members : ∀ resident, resident ∈ after.ledger.residents ↔
      ∃ page ∈ before.ledger.residents, resident = { page with
        recency :=
          Policy.aged page.recency (before.isMarked page.address) } := by
    intro resident
    rw [ripens.mem_residents]
    refine or_iff_left fun ⟨old, apart⟩ => ?_
    exact apart resident old rfl
  refine ⟨⟨fun page => ?_, fun resident member => ?_⟩,
    ages.isKept recalls.toIsKept, fun page known => ?_⟩
  · rw [isInMemory, recalls.mem_iff]
    constructor
    · rintro ⟨resident, member, rfl⟩
      exact ⟨_, (members _).mpr ⟨resident, member, rfl⟩, rfl⟩
    · rintro ⟨resident, member, rfl⟩
      obtain ⟨page, old, rfl⟩ := (members resident).mp member
      exact ⟨page, old, rfl⟩
  · obtain ⟨page, old, rfl⟩ := (members resident).mp member
    have here : isInMemory page.address past = true :=
      (recalls.mem_iff _).mpr ⟨page, old, rfl⟩
    rw [recencyOf, if_pos here, recalls.recency_eq page old,
      recalls.isMarked _ (recalls.find?_of_mem old)]
  · rw [ages.find?] at known
    rw [ripens.isMarked page (recalls.aligned page known),
      recalls.isMarked page known, isUnseen, Bool.and_comm]
    congr 1
    rw [Bool.eq_iff_iff, Bool.not_eq_true', ← Bool.not_eq_true,
      recalls.mem_iff, List.all_eq_true]
    simp

theorem Picks.of_isAging {spared : List Nat} {front : ResidentPage}
    (picks : Picks policy before spared front after)
    (aging : isAging policy = true) : after = before := by
  have none : spared = [] := by
    by_contra some
    rw [picks.spares some] at aging
    cases aging
  have sweeps := picks.sweeps
  rw [none] at sweeps
  cases sweeps
  rfl

theorem Step.recalls (step : Step policy move before after)
    (aging : isAging policy = true) (recalls : Recalls policy before past) :
    Recalls policy after (move :: past) := by
  have kept := step.isKept recalls.toIsKept
  cases step with
  | @refer _ page aligned =>
      refine ⟨recalls.stay (fun _ => rfl) fun _ => rfl, kept,
        fun other known => ?_⟩
      rw [isMarked_mark, aligned, recalls.aligned other known, isUnseen,
        recalls.isMarked other known]
      by_cases same : other = page
      · simp [same]
      · simp [same, Ne.symm same]
  | @evict _ middle spared front slot ledger picks moved =>
      obtain rfl := picks.of_isAging aging
      obtain ⟨turns, _⟩ := Ledger.turns_of_markSwapped recalls.isConsistent moved
      have sameIndex : ∀ other, ledger.find? other = middle.ledger.find? other :=
        fun other => Step.find? (.evict picks moved) trivial
      exact ⟨recalls.leave turns (fun _ => rfl) fun _ => rfl, kept,
        fun other known => recalls.isMarked other (sameIndex other ▸ known)⟩
  | refuse picks =>
      obtain rfl := picks.of_isAging aging
      exact ⟨recalls.stay (fun _ => rfl) fun _ => rfl, kept, recalls.isMarked⟩
  | @enlist _ page handle settled ledger aligned untracked settles loaded =>
      obtain ⟨landed, lands⟩ := Ledger.lands_of_markResident
        recalls.isConsistent settles loaded
      refine ⟨recalls.land aging lands (fun _ => rfl) fun _ => rfl, kept,
        fun other known => ?_⟩
      rw [isUnseen]
      by_cases same : other = page
      · rw [if_pos same.symm, same]
      · rw [if_neg (Ne.symm same)]
        have sameIndex : ledger.find? other = before.ledger.find? other :=
          Step.find? (.enlist aligned untracked settles loaded) (Ne.symm same)
        exact recalls.isMarked other (sameIndex ▸ known)
  | @load _ page handle settled ledger tracked settles loaded =>
      obtain ⟨landed, lands⟩ := Ledger.lands_of_markResident
        recalls.isConsistent settles loaded
      have sameIndex : ∀ other,
          ledger.find? other = before.ledger.find? other := fun other =>
        Step.find? (.load tracked settles loaded) trivial
      exact ⟨recalls.land aging lands (fun _ => rfl) fun _ => rfl, kept,
        fun other known => recalls.isMarked other (sameIndex other ▸ known)⟩
  | @forget _ page handle released ledger found releases =>
      obtain ⟨turns, _, missing, others⟩ := Ledger.turns_of_release
        recalls.isConsistent found releases
      have aligned : Address.pageBase page = page := by
        refine recalls.aligned page ?_
        rw [found]
        exact Option.some_ne_none _
      refine ⟨recalls.leave turns (fun _ => rfl) fun _ => rfl, kept,
        fun other tracked => ?_⟩
      have elsewhere : other ≠ page := by
        rintro rfl
        exact tracked missing
      have wasTracked : before.ledger.find? other ≠ none :=
        others other elsewhere ▸ tracked
      dsimp only
      rw [isMarked_mark, aligned, recalls.aligned other wasTracked,
        if_neg elsewhere, isUnseen, bne_iff_ne.mpr elsewhere.symm,
        Bool.true_and]
      exact recalls.isMarked other wasTracked
  | age _ ages => exact recalls.age ages

theorem Steps.recalls (steps : Steps policy moves before after)
    (aging : isAging policy = true) (recalls : Recalls policy before past) :
    Recalls policy after (moves.reverse ++ past) := by
  induction steps generalizing past with
  | nil => exact recalls
  | cons step _ ih =>
      rw [List.reverse_cons, List.append_assoc, List.singleton_append]
      exact ih (step.recalls aging recalls)
  | @wipe moves books after page isMarked aligned untracked _ ih =>
      refine ih ⟨recalls.toHolds, recalls.toIsKept.mark isMarked,
        fun other known => ?_⟩
      have elsewhere : other ≠ page := by
        rintro rfl
        exact known untracked
      rw [isMarked_mark, aligned, recalls.aligned other known,
        if_neg elsewhere]
      exact recalls.isMarked other known

end Books

end DemandPaging
