import DemandPaging.Proofs.Replacement.History
import DemandPaging.Proofs.Replacement.Requests

/-!
# What a run says of the references to a page

Which requests refer to a page, and after which no tick has to see a reference
to it any more, shows in the log of a run: a copy that was done refers to all
its pages, or to those up to the end of the string that it copied, and one that
failed to those before the page that it stopped at.  The moves of a request say
the same (`isUnseen_of_makes`, `isUnseen_of_breaks`).
-/

namespace DemandPaging

namespace Books

variable {moves past : List Move} {page : Nat} {pages : List Nat}

/-- The move refers to or brings into memory only such pages, and is no tick. -/
def Move.StaysAmong (among : Nat → Prop) : Move → Prop
  | refer page | enlist page _ | load page => among page
  | evict _ _ | refuse _ _ | forget _ => True
  | age => False

theorem Move.StaysAmong.mono {among beyond : Nat → Prop} {move : Move}
    (stays : move.StaysAmong among) (within : ∀ page, among page → beyond page) :
    move.StaysAmong beyond := by
  cases move with
  | refer page | enlist page _ | load page => exact within page stays
  | evict _ _ | refuse _ _ | forget _ => trivial
  | age => exact stays.elim

/-- The move makes no difference to the references of the page. -/
def Move.Spares (page : Nat) : Move → Prop
  | evict _ _ | refuse _ _ | load _ => True
  | refer other | enlist other _ | forget other => other ≠ page
  | age => False

theorem isUnseen_of_spares (spares : ∀ move ∈ moves, move.Spares page) :
    isUnseen page (moves.reverse ++ past) = isUnseen page past := by
  induction moves generalizing past with
  | nil => rfl
  | cons move moves ih =>
      obtain ⟨first, spares⟩ := List.forall_mem_cons.mp spares
      rw [List.reverse_cons, List.append_assoc, List.singleton_append,
        ih spares]
      cases move with
      | evict _ _ | refuse _ _ | load _ => rfl
      | age => exact first.elim
      | refer other | forget other => simp [isUnseen, show other ≠ page from first]
      | enlist other isMarked => rw [isUnseen, if_neg first]

theorem Brings.of_mem {last move : Move} (brings : Brings last moves)
    (member : move ∈ moves) :
    move = last ∨ ∃ spared other, move = .evict spared other := by
  obtain rfl | ⟨spared, other, rfl⟩ := brings
  · exact .inl (List.mem_singleton.mp member)
  · simp only [List.mem_cons, List.not_mem_nil, or_false] at member
    obtain rfl | rfl := member
    · exact .inr ⟨spared, other, rfl⟩
    · exact .inl rfl

theorem Balks.of_mem {move : Move} (balks : Balks moves)
    (member : move ∈ moves) : ∃ spared other, move = .refuse spared other := by
  obtain rfl | ⟨spared, other, rfl⟩ := balks
  · cases member
  · exact ⟨spared, other, List.mem_singleton.mp member⟩

theorem Misses.of_mem {move : Move} (misses : Misses page moves)
    (member : move ∈ moves) : move = .load page ∨
      (∃ spared other, move = .evict spared other) ∨
        ∃ spared other, move = .refuse spared other := by
  obtain balks | brings := misses
  · exact .inr (.inr (balks.of_mem member))
  · exact (brings.of_mem member).imp_right .inl

theorem Uses.of_mem {move : Move} (uses : Uses page moves)
    (member : move ∈ moves) : move = .refer page ∨ move = .load page ∨
      ∃ spared other, move = .evict spared other := by
  obtain ⟨fetched, brings, rfl⟩ := uses
  obtain isFetched | isLast := List.mem_append.mp member
  · obtain rfl | brings := brings
    · cases isFetched
    · exact .inr (brings.of_mem isFetched)
  · exact .inl (List.mem_singleton.mp isLast)

theorem Each.exists_of_mem {part : Nat → List Move → Prop} {move : Move}
    (each : Each part pages moves) (member : move ∈ moves) :
    ∃ page ∈ pages, ∃ its, part page its ∧ move ∈ its := by
  induction pages generalizing moves with
  | nil =>
      obtain rfl : moves = [] := each
      cases member
  | cons page pages ih =>
      obtain ⟨first, rest, isPart, each, rfl⟩ := each
      obtain isFirst | isRest := List.mem_append.mp member
      · exact ⟨page, .head _, first, isPart, isFirst⟩
      · obtain ⟨other, inPages, found⟩ := ih each isRest
        exact ⟨other, .tail _ inPages, found⟩

theorem Uses.isUnseen {used : Nat} (uses : Uses used moves) :
    isUnseen page (moves.reverse ++ past) =
      (used == page || isUnseen page past) := by
  obtain ⟨fetched, brings, rfl⟩ := uses
  have spares : ∀ move ∈ fetched, move.Spares page := by
    intro move member
    obtain rfl | brings := brings
    · cases member
    · obtain rfl | ⟨_, _, rfl⟩ := brings.of_mem member
      · trivial
      · trivial
  rw [List.reverse_append, List.append_assoc, List.reverse_singleton,
    List.singleton_append, Books.isUnseen, isUnseen_of_spares spares]

theorem isUnseen_of_uses (each : Each Uses pages moves) :
    isUnseen page (moves.reverse ++ past) = true ↔
      page ∈ pages ∨ isUnseen page past = true := by
  induction pages generalizing moves past with
  | nil =>
      obtain rfl : moves = [] := each
      simp
  | cons used pages ih =>
      obtain ⟨first, rest, uses, each, rfl⟩ := each
      rw [List.reverse_append, List.append_assoc, ih each, uses.isUnseen,
        Bool.or_eq_true, beq_iff_eq, List.mem_cons, ← or_assoc,
        or_comm (a := page ∈ pages), eq_comm]

theorem staysAmong_of_uses (each : Each Uses pages moves) {move : Move}
    (member : move ∈ moves) : move.StaysAmong (· ∈ pages) := by
  obtain ⟨used, inPages, its, uses, isIts⟩ := each.exists_of_mem member
  obtain rfl | rfl | ⟨_, _, rfl⟩ := uses.of_mem isIts
  · exact inPages
  · exact inPages
  · trivial

theorem isUnseen_of_admits {isMarked : Bool}
    (each : Each (Admits isMarked) pages moves) :
    isUnseen page (moves.reverse ++ past) =
      if page ∈ pages then isMarked else isUnseen page past := by
  induction pages generalizing moves past with
  | nil =>
      obtain rfl : moves = [] := each
      rfl
  | cons admitted pages ih =>
      obtain ⟨first, rest, admits, each, rfl⟩ := each
      have enlists : isUnseen page (first.reverse ++ past) =
          if admitted = page then isMarked else isUnseen page past := by
        obtain rfl | ⟨_, _, rfl⟩ := admits <;> rfl
      rw [List.reverse_append, List.append_assoc, ih each, enlists]
      simp only [List.mem_cons, @eq_comm _ page admitted]
      by_cases isLater : page ∈ pages
      · simp [isLater]
      · simp [isLater]

/-- A page that is in memory in the end, and that no move refers to or brings
in, was there all the time; its recency is as before unless a tick passed. -/
theorem recencyOf_of_staysAmong {policy : Policy}
    (elsewhere : ∀ move ∈ moves, move.StaysAmong (· ≠ page))
    (inMemory : isInMemory page (moves.reverse ++ past) = true) :
    isInMemory page past = true ∧
      recencyOf policy page (moves.reverse ++ past) =
        recencyOf policy page past := by
  induction moves generalizing past with
  | nil => exact ⟨inMemory, rfl⟩
  | cons move moves ih =>
      obtain ⟨first, elsewhere⟩ := List.forall_mem_cons.mp elsewhere
      rw [List.reverse_cons, List.append_assoc, List.singleton_append] at *
      obtain ⟨isThere, same⟩ := ih elsewhere inMemory
      rw [same]
      cases move with
      | age => exact first.elim
      | refer _ | refuse _ _ => exact ⟨isThere, rfl⟩
      | evict _ _ | forget _ =>
          exact ⟨(Bool.and_eq_true_iff.mp isThere).2, rfl⟩
      | enlist other _ | load other =>
          have within := (Bool.or_eq_true_iff.mp isThere).resolve_left
            fun here => first (beq_iff_eq.mp here)
          exact ⟨within, if_neg first⟩

end Books

namespace AddressSpace

open Books (Admits Balks Each Move Recalls Uses isAging isInMemory
  isUnseen pagesFrom recencyOf)

variable {state after : Hosted AddressSpace} {size page : Nat}
  {request : Request} {reply : Reply} {error : PagingError}
  {moves history : List Move}

/-- The page is in memory. -/
def HasResident (state : Hosted AddressSpace) (page : Nat) : Prop :=
  ∃ resident ∈ state.focus.ledger.residents, resident.address = page

instance (state : Hosted AddressSpace) (page : Nat) :
    Decidable (HasResident state page) := by
  unfold HasResident
  infer_instance

theorem Falters.staysAmong {passed ahead : List Run}
    (falters : Falters passed ahead moves) {move : Move}
    (member : move ∈ moves) :
    move.StaysAmong (· ∈ runPages (passed ++ ahead)) := by
  obtain ⟨first, rest, uses, rfl, ends⟩ := falters
  rw [runPages, List.map_append]
  obtain isFirst | isRest := List.mem_append.mp member
  · exact (Books.staysAmong_of_uses uses isFirst).mono fun _ =>
      List.mem_append_left _
  cases ahead with
  | nil =>
      obtain rfl : rest = [] := ends
      cases isRest
  | cons stopped ahead =>
      obtain rfl | ⟨_, _, rfl⟩ | ⟨_, _, rfl⟩ :=
        Books.Misses.of_mem ends isRest
      · exact List.mem_append_right _ (.head _)
      · trivial
      · trivial

namespace Request

/-- The pages that memory grows by. -/
def addedPages (size larger : Nat) : List Nat :=
  pagesFrom (Address.pageCeil size) (grownPages size larger)

/-- A request that is done with a reply refers to the page.  A page that is
mapped with its mark set begins with a reference. -/
def Refers (state : Hosted AddressSpace) (size page : Nat) :
    Request → Reply → Prop
  | grow larger permissions, _ =>
    permissions.accessed = true ∧ page ∈ addedPages size larger
  | touch address _, _ =>
    isThere state address = true ∧ Address.pageBase address = page
  | copyOut address bytes, _ => page ∈ copiedPages address bytes.length
  | copyIn address buffer, _ => page ∈ copiedPages address buffer.size
  | copyInString address _, .string length _ =>
    page ∈ copiedPages address (length + 1)
  | _, _ => False

/-- A copy that fails refers to the pages before the one that it stopped at. -/
def RefersFailing (state : Hosted AddressSpace) (page : Nat)
    (request : Request) (error : PagingError) (after : Hosted AddressSpace) :
    Prop :=
  ∃ passed ahead, request.StopsBehind state error after passed ahead ∧
    page ∈ runPages passed

/-- No earlier reference to the page counts after the request: the page is
mapped anew, or a tick found it in memory. -/
def Settles (state : Hosted AddressSpace) (size page : Nat) :
    Request → Prop
  | grow larger _ => page ∈ addedPages size larger
  | tick => HasResident state page
  | _ => False

/-- The request maps the page, brings it in or refers to it, if it is done. -/
def Names (size page : Nat) : Request → Prop
  | grow larger _ => page ∈ addedPages size larger
  | pageIn address | resolveFault address _ | touch address _ =>
    Address.pageBase address = page
  | copyOut address bytes => page ∈ copiedPages address bytes.length
  | copyIn address buffer | copyInString address buffer =>
    page ∈ copiedPages address buffer.size
  | shrink _ | evict | tick | clearUser _ => False

/-- Every page between the old end of memory and the new one is added. -/
theorem mem_addedPages {larger : Nat}
    (aligned : Address.isPageAligned page = true)
    (beyond : Address.pageCeil size ≤ page)
    (below : page < Address.pageCeil (max size larger)) :
    page ∈ addedPages size larger := by
  rcases Nat.le_total larger size with shrinks | grows
  · rw [Nat.max_eq_left shrinks] at below
    omega
  rw [Nat.max_eq_right grows] at below
  have ends := pageCeil_add_grownPages grows
  have begins := Address.isPageAligned_pageCeil size
  rw [Address.isPageAligned_iff] at aligned begins
  simp only [pageSize] at *
  refine Books.mem_pagesFrom.mpr
    ⟨(page - Address.pageCeil size) / 4096, ?_, ?_⟩
  · omega
  · simp only [pageSize]
    omega

/-- The moves of a request that is done say of a page in user memory what the
log says. -/
theorem isUnseen_of_makes {policy : Policy}
    (recalls : Recalls policy (booksOf state) history)
    (aging : isAging state.focus.config.policy = true)
    (made : request.Makes state size reply moves)
    (inside : page < Address.pageCeil (request.sizeAfter size)) :
    isUnseen page (moves.reverse ++ history) = true ↔
      request.Refers state size page reply ∨
        ¬request.Settles state size page ∧ isUnseen page history = true := by
  cases request with
  | grow larger permissions =>
      have admits : Each (Admits permissions.accessed) (addedPages size larger)
        moves := made
      rw [Books.isUnseen_of_admits admits]
      simp only [Refers, Settles]
      by_cases isAdded : page ∈ addedPages size larger
      · simp [isAdded]
      · simp [isAdded]
  | shrink smaller =>
      obtain rfl : moves = _ := made
      rw [Books.isUnseen_of_spares fun move member => ?_]
      · simp [Refers, Settles]
      obtain ⟨gone, isGone, rfl⟩ := List.mem_map.mp member
      obtain ⟨index, _, rfl⟩ := Books.mem_pagesFrom.mp isGone
      have below : Address.pageCeil (min size smaller) ≤
        Address.pageCeil smaller := Address.pageCeil_mono (Nat.min_le_right _ _)
      have inside : page < Address.pageCeil (min size smaller) := inside
      exact Nat.ne_of_gt (by omega)
  | pageIn address | resolveFault address _ =>
      have made : Fetches (isThere state address) (Address.pageBase address)
        moves := made
      rw [Books.isUnseen_of_spares fun move member => ?_]
      · simp [Refers, Settles]
      rw [Fetches] at made
      split at made
      · subst made
        cases member
      · obtain rfl | ⟨_, _, rfl⟩ := made.of_mem member
        · trivial
        · trivial
  | evict =>
      obtain ⟨spared, other, rfl⟩ := made
      simp [Refers, Settles, isUnseen]
  | tick =>
      obtain rfl : moves = [.age] := Eq.trans made (if_pos aging)
      simp only [Refers, Settles, HasResident, false_or]
      rw [List.reverse_singleton, List.singleton_append, isUnseen,
        Bool.and_eq_true, Bool.not_eq_true', ← Bool.not_eq_true,
        recalls.mem_iff]
      exact Iff.rfl
  | touch address isWrite =>
      have made : moves = if isThere state address then
        [.refer (Address.pageBase address)] else [] := made
      subst made
      cases found : isThere state address with
      | true => simp [Refers, Settles, isUnseen, found]
      | false => simp [Refers, Settles, found]
  | clearUser _ =>
      obtain rfl : moves = [] := made
      simp [Refers, Settles]
  | copyOut address bytes | copyIn address buffer =>
      rw [Books.isUnseen_of_uses made]
      simp [Refers, Settles]
  | copyInString address buffer =>
      cases reply with
      | string length _ =>
          rw [Books.isUnseen_of_uses made.2]
          simp [Refers, Settles]
      | done | size _ | resolved _ | evicted _ | aged _ | filled _ =>
          exact made.elim

theorem StopsBehind.refersFailing_iff {passed ahead : List Run}
    (stops : request.StopsBehind state error after passed ahead) :
    request.RefersFailing state page error after ↔
      page ∈ runPages passed := by
  constructor
  · rintro ⟨others, _, also, member⟩
    rwa [stops.unique also] at member
  · exact fun member => ⟨passed, ahead, stops, member⟩

/-- And so do those of a request that fails. -/
theorem isUnseen_of_breaks
    (broken : request.Breaks state size error after moves)
    (inside : page < Address.pageCeil size) :
    isUnseen page (moves.reverse ++ history) = true ↔
      request.RefersFailing state page error after ∨
        isUnseen page history = true := by
  have unpassed : (∀ passed ahead,
      ¬request.StopsBehind state error after passed ahead) →
        ¬request.RefersFailing state page error after := by
    rintro never ⟨passed, ahead, stops, _⟩
    exact never passed ahead stops
  cases request with
  | grow larger permissions =>
      rw [or_iff_right (unpassed fun _ _ ⟨_, _, impossible, _⟩ => impossible)]
      obtain ⟨fewer, _, added, balked, admits, balks, rfl⟩ := broken
      have outside : ∀ count,
          page ∉ pagesFrom (Address.pageCeil size) count := by
        intro count member
        obtain ⟨index, _, rfl⟩ := Books.mem_pagesFrom.mp member
        omega
      rw [Nat.zero_mul, Nat.add_zero] at admits
      rw [List.reverse_append, List.append_assoc,
        Books.isUnseen_of_spares fun move member => ?_, List.reverse_append,
        List.append_assoc, Books.isUnseen_of_spares fun move member => ?_,
        Books.isUnseen_of_admits admits, if_neg (outside fewer)]
      · obtain ⟨_, _, rfl⟩ := balks.of_mem member
        trivial
      · obtain ⟨other, isGone, rfl⟩ := List.mem_map.mp member
        rintro rfl
        exact outside _ isGone
  | pageIn _ | resolveFault _ _ =>
      rw [or_iff_right (unpassed fun _ _ ⟨_, _, impossible, _⟩ => impossible),
        Books.isUnseen_of_spares fun move member => ?_]
      obtain ⟨_, _, rfl⟩ := Books.Balks.of_mem broken member
      trivial
  | evict =>
      rw [or_iff_right (unpassed fun _ _ ⟨_, _, impossible, _⟩ => impossible)]
      obtain ⟨_, _, rfl⟩ := broken
      rfl
  | shrink _ | tick | touch _ _ | clearUser _ => exact broken.elim
  | copyOut _ _ | copyIn _ _ | copyInString _ _ =>
      obtain ⟨passed, ahead, stops, first, rest, uses, rfl, ends⟩ := broken
      rw [stops.refersFailing_iff, List.reverse_append, List.append_assoc,
        Books.isUnseen_of_spares fun move member => ?_,
        Books.isUnseen_of_uses uses]
      cases ahead with
      | nil =>
          obtain rfl : rest = [] := ends
          cases member
      | cons stopped ahead =>
          obtain rfl | ⟨_, _, rfl⟩ | ⟨_, _, rfl⟩ :=
            Books.Misses.of_mem ends member
          · trivial
          · trivial
          · trivial

theorem Refers.names (refers : request.Refers state size page reply)
    (made : request.Makes state size reply moves) :
    request.Names size page := by
  cases request with
  | grow _ _ => exact refers.2
  | touch _ _ => exact refers.2
  | copyOut _ _ | copyIn _ _ => exact refers
  | copyInString address buffer =>
      cases reply with
      | string length _ =>
          obtain ⟨index, less, same⟩ := mem_copiedPages.mp refers
          have fits : length < buffer.size := made.1
          exact mem_copiedPages.mpr ⟨index, by omega, same⟩
      | done | size _ | resolved _ | evicted _ | aged _ | filled _ =>
          exact refers.elim
  | shrink _ | pageIn _ | resolveFault _ _ | evict | tick | clearUser _ =>
      exact refers.elim

theorem StopsBehind.names {passed ahead : List Run}
    (stops : request.StopsBehind state error after passed ahead)
    (member : page ∈ runPages (passed ++ ahead)) : request.Names size page := by
  rw [← stops.1] at member
  obtain ⟨_, _, passes, _⟩ := stops
  cases request with
  | copyOut _ _ | copyIn _ _ | copyInString _ _ => exact member
  | grow _ _ | shrink _ | pageIn _ | resolveFault _ _ | evict | tick
  | touch _ _ | clearUser _ => exact passes.elim

theorem RefersFailing.names
    (refers : request.RefersFailing state page error after) :
    request.Names size page := by
  obtain ⟨passed, ahead, stops, member⟩ := refers
  refine stops.names ?_
  rw [runPages, List.map_append]
  exact List.mem_append_left _ member

/-- Except in a tick the moves of a request concern the pages that it names,
and others only leave. -/
theorem staysAmong_of_makes (made : request.Makes state size reply moves)
    (isNoTick : request ≠ .tick) {move : Move} (member : move ∈ moves) :
    move.StaysAmong (request.Names size) := by
  cases request with
  | grow larger permissions =>
      obtain ⟨added, isAdded, its, admits, isIts⟩ :=
        Books.Each.exists_of_mem made member
      obtain rfl | ⟨_, _, rfl⟩ := Books.Brings.of_mem admits isIts
      · exact isAdded
      · trivial
  | shrink smaller =>
      obtain rfl : moves = _ := made
      obtain ⟨_, _, rfl⟩ := List.mem_map.mp member
      trivial
  | pageIn address | resolveFault address _ =>
      have made : Fetches (isThere state address) (Address.pageBase address)
        moves := made
      rw [Fetches] at made
      split at made
      · subst made
        cases member
      · obtain rfl | ⟨_, _, rfl⟩ := made.of_mem member
        · rfl
        · trivial
  | evict =>
      obtain ⟨_, _, rfl⟩ := made
      obtain rfl := List.mem_singleton.mp member
      trivial
  | tick => exact absurd rfl isNoTick
  | touch address _ =>
      have made : moves = if isThere state address then
        [.refer (Address.pageBase address)] else [] := made
      rw [made] at member
      split at member
      · obtain rfl := List.mem_singleton.mp member
        rfl
      · cases member
  | clearUser _ =>
      obtain rfl : moves = [] := made
      cases member
  | copyOut _ _ | copyIn _ _ => exact Books.staysAmong_of_uses made member
  | copyInString address buffer =>
      cases reply with
      | string length _ =>
          obtain ⟨less, each⟩ := made
          refine (Books.staysAmong_of_uses each member).mono fun page among => ?_
          obtain ⟨index, inside, isBase⟩ := mem_copiedPages.mp among
          exact mem_copiedPages.mpr ⟨index, by omega, isBase⟩
      | done | size _ | resolved _ | evicted _ | aged _ | filled _ =>
          exact made.elim

theorem staysAmong_of_breaks
    (broken : request.Breaks state size error after moves)
    {move : Move} (member : move ∈ moves) :
    move.StaysAmong (request.Names size) := by
  cases request with
  | grow larger permissions =>
      obtain ⟨fewer, less, added, balked, admits, balks, rfl⟩ := broken
      rw [Nat.zero_mul, Nat.add_zero] at admits
      obtain isAdded | isGone := List.mem_append.mp member
      · obtain isAdded | isBalked := List.mem_append.mp isAdded
        · obtain ⟨page, inPages, its, brings, isIts⟩ :=
            admits.exists_of_mem isAdded
          obtain rfl | ⟨_, _, rfl⟩ := Books.Brings.of_mem brings isIts
          · obtain ⟨index, early, rfl⟩ := Books.mem_pagesFrom.mp inPages
            exact Books.mem_pagesFrom.mpr
              ⟨index, Nat.lt_trans early less, rfl⟩
          · trivial
        · obtain ⟨_, _, rfl⟩ := balks.of_mem isBalked
          trivial
      · obtain ⟨_, _, rfl⟩ := List.mem_map.mp isGone
        trivial
  | pageIn _ | resolveFault _ _ =>
      obtain ⟨_, _, rfl⟩ := Books.Balks.of_mem broken member
      trivial
  | evict =>
      obtain ⟨_, _, rfl⟩ := broken
      obtain rfl := List.mem_singleton.mp member
      trivial
  | shrink _ | tick | touch _ _ | clearUser _ => exact broken.elim
  | copyOut _ _ | copyIn _ _ | copyInString _ _ =>
      obtain ⟨passed, ahead, stops, falters⟩ := broken
      exact (falters.staysAmong member).mono fun _ => stops.names

end Request

namespace Episode

/-- What happened was a reference to the page. -/
def Refers (page : Nat) : Episode → Prop
  | done before size request reply _ => request.Refers before size page reply
  | failed before _ request error after =>
    request.RefersFailing before page error after
  | tornDown .. | forked .. | unforked .. => False

/-- No reference to the page from before counts any more. -/
def Settles (page : Nat) : Episode → Prop
  | done before size request _ _ => request.Settles before size page
  | failed .. | tornDown .. | forked .. | unforked .. => False

/-- The request names the page. -/
def Names (page : Nat) : Episode → Prop
  | done _ size request _ _ | failed _ size request _ _ =>
    request.Names size page
  | tornDown .. | forked .. | unforked .. => False

/-- A page that was not in memory was brought in, by itself or for a fault. -/
def Loads (page : Nat) : Episode → Prop
  | done before _ (.pageIn address) _ _
  | done before _ (.resolveFault address _) _ _ =>
    Address.pageBase address = page ∧ isThere before address = false
  | _ => False

def isTick : Episode → Bool
  | done _ _ .tick _ _ => true
  | _ => false

theorem isTick_eq_false (notTick : request ≠ .tick) :
    (done state size request reply after).isTick = false := by
  cases request with
  | tick => exact absurd rfl notTick
  | grow _ _ | shrink _ | pageIn _ | resolveFault _ _ | evict | touch _ _
  | clearUser _ | copyOut _ _ | copyIn _ _ | copyInString _ _ => rfl

end Episode

variable {past : List Episode} {episode : Episode}

/-- The page has a reference that was made when it was mapped or later, and since
then no tick found the page in memory. -/
def WasReferred (page : Nat) (past : List Episode) : Prop :=
  ∃ later referring earlier, past = later ++ referring :: earlier ∧
    referring.Refers page ∧ ∀ episode ∈ later, ¬episode.Settles page

theorem wasReferred_cons : WasReferred page (episode :: past) ↔
    episode.Refers page ∨ ¬episode.Settles page ∧ WasReferred page past := by
  constructor
  · rintro ⟨later, referring, earlier, same, refers, since⟩
    cases later with
    | nil =>
        obtain ⟨rfl, rfl⟩ := List.cons.inj same
        exact .inl refers
    | cons _ later =>
        obtain ⟨rfl, rfl⟩ := List.cons.inj same
        obtain ⟨unsettled, since⟩ := List.forall_mem_cons.mp since
        exact .inr ⟨unsettled, later, referring, earlier, rfl, refers, since⟩
  · rintro (refers | ⟨unsettled, later, referring, earlier, rfl, refers, since⟩)
    · exact ⟨[], episode, past, rfl, refers, List.forall_mem_nil _⟩
    · exact ⟨episode :: later, referring, earlier, rfl, refers,
        List.forall_mem_cons.mpr ⟨unsettled, since⟩⟩

theorem not_wasReferred_cons (unreferring : ¬episode.Refers page)
    (unreferred : ¬WasReferred page past) : ¬WasReferred page (episode :: past) :=
  fun referred => (wasReferred_cons.mp referred).elim unreferring
    fun still => unreferred still.2

theorem not_wasReferred_nil : ¬WasReferred page [] := by
  rintro ⟨later, _, _, same, _⟩
  cases later <;> cases same

end AddressSpace

end DemandPaging
