import DemandPaging.Proofs.AddressSpace.Tidy
import DemandPaging.Proofs.Replacement.Completion
import DemandPaging.Proofs.Replacement.Referrals

/-!
# Runs under the policies that age pages

Over a whole run, failed transfers and the pages of others notwithstanding, a
tick moves into the highest bit of the recency of each page in memory whether the
page has a reference that no tick has seen (`ages_by_references`).  A reference
that was made before the page was in swap is still such a one, and so is the mark
that a page is mapped with (`ages_by_earlier_marks`).
-/

namespace DemandPaging

namespace AddressSpace

open Books (Move Recalls isAging isInMemory isUnseen recencyOf)

variable {state after : Hosted AddressSpace} {size : Nat}
  {past : List Episode} {history moves : List Move}

/-- The space is coherent, its policy ages pages, and its books are those that
some history leads to, which says of the references to pages what the log
says. -/
structure Remembers (past : List Episode) (size : Nat)
    (state : Hosted AddressSpace) (history : List Move) : Prop where
  coherent : IsCoherent size state
  isPaging : state.focus.isPaging = true
  aging : isAging state.focus.config.policy = true
  recalls : Recalls state.focus.config.policy (booksOf state) history
  isUnseen_iff : ∀ page, Address.isPageAligned page = true →
    page < Address.pageCeil size →
      (isUnseen page history = true ↔ WasReferred page past)

namespace Remembers

theorem begin (coherent : IsCoherent 0 state)
    (isPaging : state.focus.isPaging = true)
    (aging : isAging state.focus.config.policy = true) :
    Remembers [] 0 state [] := by
  have noResident := coherent.not_mem_residents
  refine ⟨coherent, isPaging, aging, ⟨⟨fun page => ?_,
    fun resident member => absurd member (noResident resident)⟩,
    coherent.isKept, fun page tracked =>
      absurd (coherent.find?_eq_none (Nat.zero_le page)) tracked⟩,
    fun page _ below => absurd below (Nat.not_lt_zero page)⟩
  refine iff_of_false Bool.false_ne_true ?_
  rintro ⟨resident, member, _⟩
  exact noResident resident member

theorem sustain (remembers : Remembers past size state history) {host : Host}
    (sustains : Sustains state host) :
    Remembers past size ⟨state.focus, host⟩ history where
  coherent := remembers.coherent.sustain sustains
  isPaging := remembers.isPaging
  aging := remembers.aging
  recalls := remembers.recalls
  isUnseen_iff := remembers.isUnseen_iff

theorem recalls_of_follows (remembers : Remembers past size state history)
    (follows : Follows state moves after) :
    Recalls after.focus.config.policy (booksOf after)
      (moves.reverse ++ history) := by
  rw [follows.config]
  exact follows.steps.recalls remembers.aging remembers.recalls

/-- The next episode shows in the log as in the history. -/
theorem next (remembers : Remembers past size state history) {sizeAfter : Nat}
    {episode : Episode} (follows : Follows state moves after)
    (coherent : IsCoherent sizeAfter after)
    (isUnseen_iff : ∀ page, page < Address.pageCeil sizeAfter →
      (isUnseen page (moves.reverse ++ history) = true ↔
        episode.Refers page ∨
          ¬episode.Settles page ∧ isUnseen page history = true))
    (settles : ∀ page, Address.isPageAligned page = true →
      page < Address.pageCeil sizeAfter →
        page < Address.pageCeil size ∨ episode.Settles page) :
    Remembers (episode :: past) sizeAfter after (moves.reverse ++ history) where
  coherent := coherent
  isPaging := follows.isPaging.trans remembers.isPaging
  aging := by
    rw [follows.config]
    exact remembers.aging
  recalls := remembers.recalls_of_follows follows
  isUnseen_iff page aligned below := by
    rw [isUnseen_iff page below, wasReferred_cons]
    refine or_congr_right ?_
    obtain inside | settled := settles page aligned below
    · rw [remembers.isUnseen_iff page aligned inside]
    · simp [settled]

theorem done (remembers : Remembers past size state history)
    {request : Request} {reply : Reply}
    (ran : (request.action size).run state = .done reply after) :
    ∃ moves, request.Makes state size reply moves ∧
      Remembers (.done state size request reply after :: past)
        (request.sizeAfter size) after (moves.reverse ++ history) := by
  obtain ⟨coherent, moves, made, follows⟩ :=
    remembers.coherent.follows_of_done remembers.isPaging ran
  refine ⟨moves, made, remembers.next follows coherent (fun page below =>
    Request.isUnseen_of_makes remembers.recalls remembers.aging made below)
      fun page aligned below => ?_⟩
  rcases Nat.lt_or_ge page (Address.pageCeil size) with inside | beyond
  · exact .inl inside
  · cases request with
    | grow larger _ => exact .inr (Request.mem_addedPages aligned beyond below)
    | shrink smaller =>
        exact .inl (Nat.lt_of_lt_of_le below
          (Address.pageCeil_mono (Nat.min_le_left size smaller)))
    | pageIn _ | resolveFault _ _ | evict | tick | touch _ _ | clearUser _
    | copyOut _ _ | copyIn _ _ | copyInString _ _ => exact .inl below

theorem failed (remembers : Remembers past size state history)
    {request : Request} {error : PagingError}
    (ran : (request.action size).run state = .failed error after) :
    ∃ moves, request.Breaks state size error after moves ∧
      Remembers (.failed state size request error after :: past) size after
        (moves.reverse ++ history) := by
  obtain ⟨coherent, moves, broken, follows⟩ :=
    remembers.coherent.follows_of_failed remembers.isPaging ran
  refine ⟨moves, broken, remembers.next follows coherent
    (fun page below => ?_) fun _ _ below => .inl below⟩
  rw [Request.isUnseen_of_breaks broken below]
  simp [Episode.Refers, Episode.Settles]

/-- A tick keeps in the recency of a page whether it has a reference that no
tick has seen. -/
theorem ripens (remembers : Remembers past size state history) {reply : Reply}
    (ran : (Request.tick.action size).run state = .done reply after)
    {resident : ResidentPage}
    (member : resident ∈ state.focus.ledger.residents) :
    ∃ ripe ∈ after.focus.ledger.residents, ∃ wasReferred : Bool,
      ripe.address = resident.address ∧
      ripe.recency = Policy.aged resident.recency wasReferred ∧
      ripe.recency.testBit 63 = wasReferred ∧
      (wasReferred = true ↔ WasReferred resident.address past) := by
  obtain ⟨moves, made, ticked⟩ := remembers.done ran
  obtain rfl : moves = [.age] := Eq.trans made (if_pos remembers.aging)
  have recalls := remembers.recalls
  have inMemory : isInMemory resident.address history = true :=
    (recalls.mem_iff _).mpr ⟨resident, member, rfl⟩
  obtain ⟨ripe, ripeMember, same⟩ :=
    (ticked.recalls.mem_iff resident.address).mp inMemory
  have recency : resident.recency =
      recencyOf state.focus.config.policy resident.address history :=
    recalls.recency_eq resident member
  have samePolicy : after.focus.config.policy = state.focus.config.policy := by
    obtain ⟨_, _, _, follows⟩ :=
      remembers.coherent.follows_of_done remembers.isPaging ran
    exact congrArg Config.policy follows.config
  have ripened : ripe.recency =
      Policy.aged resident.recency (isUnseen resident.address history) := by
    rw [ticked.recalls.recency_eq ripe ripeMember, same, samePolicy, recency,
      List.reverse_singleton, List.singleton_append, recencyOf, if_pos inMemory]
  refine ⟨ripe, ripeMember, isUnseen resident.address history, same, ripened, ?_,
    remembers.isUnseen_iff _ ?_ ?_⟩
  · rw [ripened, recency]
    exact (Policy.testBit_aged (Books.recencyOf_lt _ _ _) 63).trans (if_pos rfl)
  · exact Address.pageBase_eq_self_iff.mp (recalls.aligned_of_mem member)
  · by_contra beyond
    have found := recalls.isConsistent.find?_of_mem_residents member
    rw [show (booksOf state).ledger.find? resident.address = none from
      remembers.coherent.find?_eq_none (Nat.le_of_not_lt beyond)] at found
    cases found

end Remembers

theorem Runs.remembers (runs : Runs Episode.IsRequest past size state)
    (isPaging : state.focus.isPaging = true)
    (aging : isAging state.focus.config.policy = true) :
    ∃ history, Remembers past size state history := by
  induction runs with
  | new isNew => exact ⟨[], .begin isNew.isCoherent isPaging aging⟩
  | sustained _ sustains ih =>
      obtain ⟨history, remembers⟩ := ih isPaging aging
      exact ⟨history, remembers.sustain sustains⟩
  | done runs _ ran ih =>
      obtain ⟨samePaging, sameConfig⟩ :=
        runs.isCoherent.sameShape_of_done ran
      obtain ⟨history, remembers⟩ :=
        ih (samePaging ▸ isPaging) (sameConfig ▸ aging)
      obtain ⟨_, _, after⟩ := remembers.done ran
      exact ⟨_, after⟩
  | failed runs _ ran ih =>
      obtain ⟨samePaging, sameConfig⟩ :=
        runs.isCoherent.sameShape_of_failed ran
      obtain ⟨history, remembers⟩ :=
        ih (samePaging ▸ isPaging) (sameConfig ▸ aging)
      obtain ⟨_, _, after⟩ := remembers.failed ran
      exact ⟨_, after⟩
  | tornDown _ impossible _ _ => exact impossible.elim
  | forked _ _ _ impossible _ _ _ => exact impossible.elim
  | unforked _ _ impossible _ _ => exact impossible.elim

/-- The page, if it is in memory, has this recency. -/
def HasRecency (state : Hosted AddressSpace) (page recency : Nat) : Prop :=
  ∀ resident ∈ state.focus.ledger.residents, resident.address = page →
    resident.recency = recency

/-- A page that no move concerns keeps its recency. -/
theorem Remembers.hasRecency_of_staysAmong {pastAfter : List Episode}
    {page sizeAfter recency : Nat}
    (remembers : Remembers past size state history)
    (remembersAfter : Remembers pastAfter sizeAfter after
      (moves.reverse ++ history))
    (sameConfig : after.focus.config = state.focus.config)
    (elsewhere : ∀ move ∈ moves, move.StaysAmong (· ≠ page))
    (has : HasRecency state page recency) : HasRecency after page recency := by
  rintro resident member rfl
  have inMemory : isInMemory resident.address (moves.reverse ++ history) =
    true := (remembersAfter.recalls.mem_iff _).mpr ⟨resident, member, rfl⟩
  obtain ⟨wasThere, sameRecency⟩ :=
    Books.recencyOf_of_staysAmong elsewhere inMemory
  obtain ⟨old, oldMember, same⟩ :=
    (remembers.recalls.mem_iff _).mp wasThere
  rw [remembersAfter.recalls.recency_eq resident member, sameConfig,
    sameRecency, ← same, ← remembers.recalls.recency_eq old oldMember]
  exact has old oldMember same

/-- A tick makes of the recency of a page without a reference half of it. -/
theorem Remembers.hasRecency_of_tick {page recency : Nat}
    (remembers : Remembers past size state history)
    (unreferred : ¬WasReferred page past) {reply : Reply}
    (ran : (Request.tick.action size).run state = .done reply after)
    (has : HasRecency state page recency) :
    HasRecency after page (recency >>> 1) := by
  intro resident member here
  obtain ⟨moves, made, ticked⟩ := remembers.done ran
  obtain rfl : moves = [.age] := Eq.trans made (if_pos remembers.aging)
  have inMemory : isInMemory page history = true :=
    (ticked.recalls.mem_iff page).mpr ⟨resident, member, here⟩
  obtain ⟨old, oldMember, same⟩ :=
    (remembers.recalls.mem_iff page).mp inMemory
  obtain ⟨ripe, ripeMember, wasReferred, ripeHere, aged, _, isReferred⟩ :=
    remembers.ripens ran oldMember
  rw [same] at ripeHere isReferred
  obtain rfl : ripe = resident :=
    ticked.recalls.isConsistent.eq_of_address_eq ripeMember member
      (ripeHere.trans here.symm)
  have unseen : wasReferred = false :=
    Bool.eq_false_iff.mpr fun referred => unreferred (isReferred.mp referred)
  rw [aged, unseen, has old oldMember same, Nat.shiftRight_one]
  exact Nat.add_zero _

/-- What is loaded comes in by a move. -/
theorem Episode.Loads.brings {page : Nat} {request : Request} {reply : Reply}
    (loads : (Episode.done state size request reply after).Loads page)
    (made : request.Makes state size reply moves) :
    Books.Brings (.load page) moves ∧
      ¬request.Refers state size page reply := by
  cases request with
  | pageIn address | resolveFault address _ =>
      obtain ⟨rfl, notThere⟩ := loads
      have made : Fetches (isThere state address) (Address.pageBase address)
        moves := made
      rw [notThere] at made
      exact ⟨made, id⟩
  | grow _ _ | shrink _ | evict | tick | touch _ _ | clearUser _
  | copyOut _ _ | copyIn _ _ | copyInString _ _ => exact loads.elim

/-- A page that was loaded has the first recency. -/
theorem Remembers.hasRecency_of_brings {page : Nat}
    (remembers : Remembers past size state (moves.reverse ++ history))
    (brings : Books.Brings (.load page) moves) :
    HasRecency state page state.focus.config.policy.firstRecency := by
  rintro resident member rfl
  rw [remembers.recalls.recency_eq resident member]
  obtain rfl | ⟨_, _, rfl⟩ := brings
  · exact if_pos rfl
  · exact if_pos rfl

/-- A page that came back without a reference, and that no request names, ages
with zeros. -/
theorem Runs.recency_of_left_alone
    (runs : Runs Episode.IsRequest past size state)
    (isPaging : state.focus.isPaging = true)
    (aging : isAging state.focus.config.policy = true) {page : Nat}
    {later earlier : List Episode} {load : Episode}
    (split : past = later ++ load :: earlier) (loads : load.Loads page)
    (unreferred : ¬WasReferred page earlier)
    (unnamed : ∀ episode ∈ later, ¬episode.Names page) :
    ¬WasReferred page past ∧
      HasRecency state page (state.focus.config.policy.firstRecency >>>
        later.countP Episode.isTick) := by
  induction runs generalizing later with
  | new _ => cases later <;> cases split
  | sustained _ _ ih => exact ih isPaging aging split unnamed
  | @done past size state after request reply runs _ ran ih =>
      obtain ⟨samePaging, sameConfig⟩ :=
        runs.isCoherent.sameShape_of_done ran
      obtain ⟨history, remembers⟩ :=
        runs.remembers (samePaging ▸ isPaging) (sameConfig ▸ aging)
      obtain ⟨moves, made, remembersAfter⟩ := remembers.done ran
      cases later with
      | nil =>
          obtain ⟨rfl, rfl⟩ := List.cons.inj split
          obtain ⟨brings, unreferring⟩ := loads.brings made
          exact ⟨not_wasReferred_cons unreferring unreferred,
            remembersAfter.hasRecency_of_brings brings⟩
      | cons episode later =>
          obtain ⟨rfl, rfl⟩ := List.cons.inj split
          obtain ⟨notNamed, unnamed⟩ := List.forall_mem_cons.mp unnamed
          obtain ⟨unreferred, has⟩ := ih (samePaging ▸ isPaging)
            (sameConfig ▸ aging) rfl unnamed
          have unreferring : ¬(Episode.done state size request reply
              after).Refers page := fun refers =>
            notNamed (Request.Refers.names refers made)
          refine ⟨not_wasReferred_cons unreferring unreferred, ?_⟩
          rw [sameConfig]
          by_cases isTick : request = .tick
          · subst isTick
            rw [List.countP_cons_of_pos rfl, Nat.shiftRight_add]
            exact remembers.hasRecency_of_tick unreferred ran has
          · have elsewhere : ∀ move ∈ moves, move.StaysAmong (· ≠ page) :=
              fun move inMoves =>
                (Request.staysAmong_of_makes made isTick inMoves).mono
                  fun _ named same => notNamed (same ▸ named)
            rw [List.countP_cons_of_neg fun ticks => Bool.false_ne_true
              ((Episode.isTick_eq_false isTick).symm.trans ticks)]
            exact remembers.hasRecency_of_staysAmong remembersAfter sameConfig
              elsewhere has
  | @failed past size state after request error runs _ ran ih =>
      obtain ⟨samePaging, sameConfig⟩ :=
        runs.isCoherent.sameShape_of_failed ran
      obtain ⟨history, remembers⟩ :=
        runs.remembers (samePaging ▸ isPaging) (sameConfig ▸ aging)
      obtain ⟨moves, broken, remembersAfter⟩ := remembers.failed ran
      cases later with
      | nil =>
          obtain ⟨rfl, rfl⟩ := List.cons.inj split
          exact loads.elim
      | cons episode later =>
          obtain ⟨rfl, rfl⟩ := List.cons.inj split
          obtain ⟨notNamed, unnamed⟩ := List.forall_mem_cons.mp unnamed
          obtain ⟨unreferred, has⟩ := ih (samePaging ▸ isPaging)
            (sameConfig ▸ aging) rfl unnamed
          have elsewhere : ∀ move ∈ moves, move.StaysAmong (· ≠ page) :=
            fun move inMoves =>
              (Request.staysAmong_of_breaks broken inMoves).mono
                fun _ named same => notNamed (same ▸ named)
          refine ⟨not_wasReferred_cons (fun refers => notNamed refers.names)
            unreferred, ?_⟩
          rw [sameConfig, List.countP_cons_of_neg Bool.false_ne_true]
          exact remembers.hasRecency_of_staysAmong remembersAfter sameConfig
            elsewhere has
  | tornDown _ impossible _ _ => exact impossible.elim
  | forked _ _ _ impossible _ _ _ => exact impossible.elim
  | unforked _ _ impossible _ _ => exact impossible.elim

/-- A new space under NFUA, with room for one page in memory and one in swap,
and a swap device that works. -/
def agingSpace : AddressSpace :=
  freshSpace ⟨1, 1, .nfua⟩ false

/-- A host with four frames. -/
def agingHost : Host where
  pools := #[FramePool.new 4]
  events := #[.spaceMade ⟨1, 1, .nfua⟩ true]

theorem isNew_aging : IsNew ⟨agingSpace, agingHost⟩ := by
  have consistent : ((⟨#[FramePool.new 4], {}, #[]⟩ : Host).pool 0).IsConsistent :=
    FramePool.isConsistent_new 4
  exact isNew_fresh rfl (by decide) (by decide) false consistent (by decide)
    (by decide)

theorem isTidy_aging : IsTidy 0 ⟨agingSpace, agingHost⟩ :=
  isNew_aging.isTidy

/-- The first page of the space was mapped and then referenced. -/
structure FirstTouched (grown touched : Hosted AddressSpace) : Prop where
  grows : (Request.grow pageSize {}).Does 0 ⟨agingSpace, agingHost⟩ grown
  touches : (Request.touch 0 false).Does pageSize grown touched
  isPaging : touched.focus.isPaging = true
  aging : isAging touched.focus.config.policy = true
  residentCount : touched.focus.ledger.residentCount = 1
  freeSlots : touched.focus.swap.freeSlots ≠ 0
  isReliable : touched.focus.swap.IsReliable

theorem exists_firstTouched : ∃ grown touched, FirstTouched grown touched := by
  have computed : ((Request.grow pageSize {}).action 0).leadsTo
      (((Request.touch 0 false).action pageSize).leadsTo fun touched =>
        decide (touched.focus.isPaging = true ∧
          isAging touched.focus.config.policy = true ∧
          touched.focus.ledger.residentCount = 1 ∧
          touched.focus.swap.freeSlots ≠ 0 ∧
          touched.focus.swap.isMetered = false ∧
          touched.focus.swap.capacity * pageSize ≤
            touched.focus.swap.file.size))
      ⟨agingSpace, agingHost⟩ = true := by
    decide +kernel
  obtain ⟨_, grown, grows, computed⟩ := Action.exists_of_leadsTo computed
  obtain ⟨_, touched, touches, computed⟩ := Action.exists_of_leadsTo computed
  obtain ⟨isPaging, aging, count, slots, unmetered, capacity⟩ :=
    of_decide_eq_true computed
  exact ⟨grown, touched, ⟨_, grows⟩, ⟨_, touches⟩, isPaging, aging, count,
    slots, unmetered, capacity⟩

theorem FirstTouched.isTidy {grown touched : Hosted AddressSpace}
    (first : FirstTouched grown touched) : IsTidy pageSize touched := by
  have meetsGrow := isTidy_aging.meets_request (.grow pageSize {})
    ⟨by decide, rfl⟩
  obtain ⟨_, grows⟩ := first.grows
  rw [grows] at meetsGrow
  have meetsTouch := meetsGrow.1.tidy.meets_request (.touch 0 false)
    (by decide : 0 < addressLimit)
  obtain ⟨_, touches⟩ := first.touches
  have touched : ((Request.touch 0 false).action
    (Request.sizeAfter 0 (.grow pageSize {}))).run grown = _ := touches
  rw [touched] at meetsTouch
  exact meetsTouch.1.tidy

/-- Is there a page in memory at the address whose recency has its highest bit
set? -/
def isRipe (state : Hosted AddressSpace) (address : Nat) : Bool :=
  state.focus.ledger.residents.any fun resident =>
    resident.address == address && resident.recency.testBit 63

theorem isRipe_iff {address : Nat} : isRipe state address = true ↔
    ∃ resident ∈ state.focus.ledger.residents,
      resident.address = address ∧ resident.recency.testBit 63 = true := by
  simp [isRipe]

/-- A new space under LAPA, with room for one page in memory and one in swap. -/
def lapaSpace : AddressSpace :=
  freshSpace ⟨1, 1, .lapa⟩ false

/-- A host for it. -/
def lapaHost : Host where
  pools := #[FramePool.new 4]
  events := #[.spaceMade ⟨1, 1, .lapa⟩ true]

theorem isNew_lapa : IsNew ⟨lapaSpace, lapaHost⟩ := by
  have consistent : ((⟨#[FramePool.new 4], {}, #[]⟩ : Host).pool 0).IsConsistent :=
    FramePool.isConsistent_new 4
  exact isNew_fresh rfl (by decide) (by decide) false consistent (by decide)
    (by decide)

/-- The page of a new space is evicted and comes back, and a tick passes.  Then
it is referenced, evicted and brought back again. -/
structure TwiceLoaded
    (grown evicted loaded ticked touched left back : Hosted AddressSpace) :
    Prop where
  grows : (Request.grow pageSize {}).Does 0 ⟨lapaSpace, lapaHost⟩ grown
  evicts : Request.evict.Does pageSize grown evicted
  notThere : isThere evicted 0 = false
  loads : (Request.pageIn 0).Does pageSize evicted loaded
  ticks : Request.tick.Does pageSize loaded ticked
  isThere : isThere ticked 0 = true
  resident : HasResident ticked 0
  touches : (Request.touch 0 false).Does pageSize ticked touched
  leaves : Request.evict.Does pageSize touched left
  comesBack : (Request.pageIn 0).Does pageSize left back
  isBack : HasResident back 0
  isPaging : ticked.focus.isPaging = true ∧ back.focus.isPaging = true
  policy : ticked.focus.config.policy = .lapa ∧
    back.focus.config.policy = .lapa

theorem exists_twiceLoaded : ∃ grown evicted loaded ticked touched left back,
    TwiceLoaded grown evicted loaded ticked touched left back := by
  have computed : ((Request.grow pageSize {}).action 0).leadsTo
      ((Request.evict.action pageSize).leadsTo fun evicted =>
        !AddressSpace.isThere evicted 0 &&
          ((Request.pageIn 0).action pageSize).leadsTo
            ((Request.tick.action pageSize).leadsTo fun ticked =>
              decide (AddressSpace.isThere ticked 0 = true ∧
                HasResident ticked 0 ∧ ticked.focus.isPaging = true ∧
                  ticked.focus.config.policy = .lapa) &&
              ((Request.touch 0 false).action pageSize).leadsTo
                ((Request.evict.action pageSize).leadsTo
                  (((Request.pageIn 0).action pageSize).leadsTo fun back =>
                    decide (HasResident back 0 ∧ back.focus.isPaging = true ∧
                      back.focus.config.policy = .lapa)))
                ticked)
            evicted)
      ⟨lapaSpace, lapaHost⟩ = true := by
    decide +kernel
  obtain ⟨_, grown, grows, computed⟩ := Action.exists_of_leadsTo computed
  obtain ⟨_, evicted, evicts, computed⟩ := Action.exists_of_leadsTo computed
  obtain ⟨notThere, computed⟩ := Bool.and_eq_true_iff.mp computed
  obtain ⟨_, loaded, loads, computed⟩ := Action.exists_of_leadsTo computed
  obtain ⟨_, ticked, ticks, computed⟩ := Action.exists_of_leadsTo computed
  obtain ⟨holds, computed⟩ := Bool.and_eq_true_iff.mp computed
  obtain ⟨isThere, resident, paging, policy⟩ := of_decide_eq_true holds
  obtain ⟨_, touched, touches, computed⟩ := Action.exists_of_leadsTo computed
  obtain ⟨_, left, leaves, computed⟩ := Action.exists_of_leadsTo computed
  obtain ⟨_, back, comesBack, computed⟩ := Action.exists_of_leadsTo computed
  obtain ⟨isBack, backPaging, backPolicy⟩ := of_decide_eq_true computed
  exact ⟨grown, evicted, loaded, ticked, touched, left, back, ⟨_, grows⟩,
    ⟨_, evicts⟩, Bool.not_eq_true' _ ▸ notThere, ⟨_, loads⟩, ⟨_, ticks⟩,
    isThere, resident, ⟨_, touches⟩, ⟨_, leaves⟩, ⟨_, comesBack⟩, isBack,
    ⟨paging, backPaging⟩, ⟨policy, backPolicy⟩⟩

/-- A tick, which is always done, moves into the highest bit of the recency of
each page in memory whether the page has a reference that no tick has seen.  A
page that comes back from swap without one, and is not used, ages from its first
recency with zeros. -/
theorem ages_by_references (runs : Runs Episode.IsRequest past size state)
    (isPaging : state.focus.isPaging = true)
    (aging : isAging state.focus.config.policy = true) :
    (∃ pages after,
      (Request.tick.action size).run state = .done (.aged pages) after ∧
      ∀ resident ∈ state.focus.ledger.residents,
        ∃ ripe ∈ after.focus.ledger.residents, ∃ wasReferred : Bool,
          ripe.address = resident.address ∧
          ripe.recency = Policy.aged resident.recency wasReferred ∧
          ripe.recency.testBit 63 = wasReferred ∧
          (wasReferred = true ↔ WasReferred resident.address past)) ∧
    ∀ page later load earlier, past = later ++ load :: earlier →
      load.Loads page → ¬WasReferred page earlier →
      (∀ episode ∈ later, ¬episode.Names page) →
        ∀ resident ∈ state.focus.ledger.residents, resident.address = page →
          resident.recency = state.focus.config.policy.firstRecency >>>
            later.countP Episode.isTick := by
  obtain ⟨history, remembers⟩ := runs.remembers isPaging aging
  refine ⟨?_, ?_⟩
  · obtain ⟨pages, after, ticks⟩ := exists_run_tick remembers.coherent
    have ran : (Request.tick.action size).run state =
        .done (.aged pages) after := by
      rw [Request.action, Action.run_map, ticks]
      rfl
    exact ⟨pages, after, ran, fun resident => remembers.ripens ran⟩
  · intro page later load earlier split loads unreferred unnamed
    exact (runs.recency_of_left_alone isPaging aging split loads unreferred
      unnamed).2

/-- A page that came back without a reference has half of its first recency after
a tick.  With one it comes back and the next tick finds it. -/
theorem ages_by_references_of_twice_loaded : ∃ past more ticked back after,
    Runs Episode.IsRequest past pageSize ticked ∧
    past.map Episode.request? = [some .tick, some (.pageIn 0), some .evict,
      some (.grow pageSize {})] ∧
    (∃ resident ∈ ticked.focus.ledger.residents, resident.address = 0 ∧
      resident.recency = Policy.lapa.firstRecency >>> 1) ∧
    Runs Episode.IsRequest (more ++ past) pageSize back ∧
    more.map Episode.request? =
      [some (.pageIn 0), some .evict, some (.touch 0 false)] ∧
    Request.tick.Does pageSize back after ∧
    ∃ ripe ∈ after.focus.ledger.residents,
      ripe.address = 0 ∧ ripe.recency.testBit 63 = true := by
  obtain ⟨grown, evicted, loaded, ticked, touched, left, back, twice⟩ :=
    exists_twiceLoaded
  obtain ⟨_, grows⟩ := twice.grows
  obtain ⟨_, evicts⟩ := twice.evicts
  obtain ⟨_, loads⟩ := twice.loads
  obtain ⟨_, ticks⟩ := twice.ticks
  obtain ⟨_, touches⟩ := twice.touches
  obtain ⟨_, leaves⟩ := twice.leaves
  obtain ⟨_, comesBack⟩ := twice.comesBack
  have runs : Runs Episode.IsRequest _ pageSize ticked :=
    ((((Runs.new isNew_lapa).done trivial grows).done trivial evicts).done
      trivial loads).done trivial ticks
  have further : Runs Episode.IsRequest _ pageSize back :=
    ((runs.done trivial touches).done trivial leaves).done trivial comesBack
  obtain ⟨_, ages⟩ := ages_by_references runs twice.isPaging.1
    (twice.policy.1 ▸ rfl)
  obtain ⟨⟨_, after, ran, ripens⟩, _⟩ :=
    ages_by_references further twice.isPaging.2 (twice.policy.2 ▸ rfl)
  obtain ⟨resident, member, here⟩ := twice.resident
  obtain ⟨standing, isThere, atZero⟩ := twice.isBack
  obtain ⟨ripe, ripeMember, wasReferred, same, _, bit, isReferred⟩ :=
    ripens standing isThere
  refine ⟨_, [_, _, _], ticked, back, after, runs, rfl,
    ⟨resident, member, here, ?_⟩, further, rfl, ⟨_, ran⟩, ripe, ripeMember,
    same.trans atZero, ?_⟩
  · have shifted := ages 0 [_] _ _ rfl ⟨rfl, twice.notThere⟩ ?_ ?_ resident
      member here
    · rw [shifted, twice.policy.1]
      rfl
    · -- Neither the mapping nor the eviction was a reference.
      rw [wasReferred_cons, wasReferred_cons]
      rintro (isEvict | ⟨_, isGrow | ⟨_, nothing⟩⟩)
      · exact isEvict
      · exact Bool.false_ne_true isGrow.1
      · exact not_wasReferred_nil nothing
    · exact List.forall_mem_cons.mpr ⟨id, List.forall_mem_nil _⟩
  · rw [bit, isReferred, atZero]
    refine ⟨[_, _], _, _, rfl, ⟨twice.isThere, rfl⟩, ?_⟩
    exact List.forall_mem_cons.mpr ⟨id,
      List.forall_mem_cons.mpr ⟨id, List.forall_mem_nil _⟩⟩

/-- A page ages by a reference from before it was in swap, and by the mark that
it was mapped with. -/
theorem ages_by_earlier_marks :
    IsNew ⟨agingSpace, agingHost⟩ ∧
    (∃ grown touched evicted loaded ticked,
      (Request.grow pageSize {}).Does 0 ⟨agingSpace, agingHost⟩ grown ∧
      (Request.touch 0 false).Does pageSize grown touched ∧
      Request.evict.Does pageSize touched evicted ∧
      isThere evicted 0 = false ∧
      (Request.pageIn 0).Does pageSize evicted loaded ∧
      Request.tick.Does pageSize loaded ticked ∧
      ∃ ripe ∈ ticked.focus.ledger.residents,
        ripe.address = 0 ∧ ripe.recency.testBit 63 = true) ∧
    ∃ grown ticked,
      (Request.grow pageSize { accessed := true }).Does 0
        ⟨agingSpace, agingHost⟩ grown ∧
      Request.tick.Does pageSize grown ticked ∧
      ∃ ripe ∈ ticked.focus.ledger.residents,
        ripe.address = 0 ∧ ripe.recency.testBit 63 = true := by
  refine ⟨isNew_aging, ?_, ?_⟩
  · have evaluated : ((Request.grow pageSize {}).action 0).leadsTo
        (((Request.touch 0 false).action pageSize).leadsTo
          ((Request.evict.action pageSize).leadsTo fun evicted =>
            !isThere evicted 0 &&
              ((Request.pageIn 0).action pageSize).leadsTo
                ((Request.tick.action pageSize).leadsTo (isRipe · 0)) evicted))
        ⟨agingSpace, agingHost⟩ = true := by
      decide +kernel
    obtain ⟨_, grown, grows, leads⟩ := Action.exists_of_leadsTo evaluated
    obtain ⟨_, touched, touches, leads⟩ := Action.exists_of_leadsTo leads
    obtain ⟨_, evicted, evicts, leads⟩ := Action.exists_of_leadsTo leads
    obtain ⟨notThere, leads⟩ := Bool.and_eq_true_iff.mp leads
    obtain ⟨_, loaded, loads, leads⟩ := Action.exists_of_leadsTo leads
    obtain ⟨_, ticked, ticks, ripe⟩ := Action.exists_of_leadsTo leads
    exact ⟨grown, touched, evicted, loaded, ticked, ⟨_, grows⟩, ⟨_, touches⟩,
      ⟨_, evicts⟩, Bool.not_eq_true' _ ▸ notThere, ⟨_, loads⟩, ⟨_, ticks⟩,
      isRipe_iff.mp ripe⟩
  · have evaluated :
        ((Request.grow pageSize { accessed := true }).action 0).leadsTo
          ((Request.tick.action pageSize).leadsTo (isRipe · 0))
          ⟨agingSpace, agingHost⟩ = true := by
      decide +kernel
    obtain ⟨_, grown, grows, leads⟩ := Action.exists_of_leadsTo evaluated
    obtain ⟨_, ticked, ticks, ripe⟩ := Action.exists_of_leadsTo leads
    exact ⟨grown, ticked, ⟨_, grows⟩, ⟨_, ticks⟩, isRipe_iff.mp ripe⟩

end AddressSpace

end DemandPaging
