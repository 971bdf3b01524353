import DemandPaging.Proofs.Replacement.Books
import DemandPaging.Proofs.Replacement.Remembered
import DemandPaging.Proofs.Replacement.Sweep

/-!
# Stretches without loads and evictions

Between loads and evictions pages are referenced and the aging policies tick.
A tick moves the mark of every page in memory from its entry to its recency and
touches nothing else (`AgesAll`), so after any such stretch the ledger is the
one at its beginning but for recencies, and these remember the marks that the
ticks found (`Stretch.Keeps`).  The victim of an aging policy is then the page
whose marks are least.
-/

namespace DemandPaging

open Books (isAging)

variable {ledger newLedger : Ledger} {table newTable : PageTable}
  {page : ResidentPage} {pages : List ResidentPage} {entry : Entry}
  {policy : Policy} {earlier later : Nat → List Bool} {address handle : Nat}

/-- What a place holds after ticks that found the pages in memory marked as
`marks` says. -/
def Tracked.agedBy (marks : Nat → List Bool) (tracked : Tracked) : Tracked :=
  match tracked.residence with
  | .resident address =>
    { tracked with
      recency := Policy.remembered tracked.recency (marks address) }
  | .free | .swapped _ _ => tracked

/-- The page as it is after ticks that found it marked as `marks` says. -/
def ResidentPage.agedBy (marks : Nat → List Bool) (page : ResidentPage) :
    ResidentPage :=
  { page with recency := Policy.remembered page.recency (marks page.address) }

namespace Ledger

/-- The ledger after ticks that found the pages in memory marked as `marks`
says. -/
def agedBy (ledger : Ledger) (marks : Nat → List Bool) : Ledger :=
  { ledger with places := ledger.places.map (Tracked.agedBy marks) }

theorem agedBy_nil (ledger : Ledger) : ledger.agedBy (fun _ => []) = ledger := by
  have same : Tracked.agedBy (fun _ => []) = id := by
    funext ⟨residence, recency⟩
    cases residence <;> rfl
  rw [agedBy, same, Array.map_id]

theorem agedBy_agedBy (ledger : Ledger) (earlier later : Nat → List Bool) :
    (ledger.agedBy earlier).agedBy later =
      ledger.agedBy fun address => later address ++ earlier address := by
  have same : Tracked.agedBy later ∘ Tracked.agedBy earlier =
      Tracked.agedBy fun address => later address ++ earlier address := by
    funext ⟨residence, recency⟩
    cases residence with
    | resident page =>
        exact congrArg (Tracked.mk _) (Policy.remembered_append ..).symm
    | free | swapped _ _ => rfl
  rw [agedBy, agedBy, agedBy, Array.map_map, same]

theorem residents_agedBy (ledger : Ledger) (marks : Nat → List Bool) :
    (ledger.agedBy marks).residents =
      ledger.residents.map (ResidentPage.agedBy marks) := by
  rw [residents, residents, agedBy, Array.toList_map, List.zipIdx_map,
    List.filterMap_map, List.map_filterMap]
  refine List.filterMap_congr ?_
  rintro ⟨⟨residence, recency⟩, handle⟩ _
  cases residence <;> rfl

end Ledger

theorem Ledger.setRecency_of_mem (member : page ∈ ledger.residents)
    (recency : Nat) : ledger.setRecency page.handle recency =
      .ok (ledger.put page.handle ⟨.resident page.address, recency⟩) :=
  setRecency_eq_ok_iff.mpr ⟨_, mem_residents_iff.mp member, rfl⟩

/-- The pages `pages` aged.  Their marks are in their recencies and no longer in
their entries, and nothing else of ledger and table is different. -/
structure AgesAll (pages : List ResidentPage) (ledger : Ledger)
    (table : PageTable) (newLedger : Ledger) (newTable : PageTable) :
    Prop where
  aged : ∀ page ∈ pages, newLedger.places[page.handle]? =
    some ⟨.resident page.address,
      Policy.aged page.recency (table.isReferenced page.address)⟩
  elsewhere : ∀ handle, (∀ page ∈ pages, page.handle ≠ handle) →
    newLedger.places[handle]? = ledger.places[handle]?
  ledger : newLedger = { ledger with places := newLedger.places }
  entry : ∀ address, newTable.get? address =
    (table.get? address).map fun entry =>
      if Address.pageBase address ∈ pages.map ResidentPage.address then
        { entry with flags := { entry.flags with accessed := false } }
      else entry
  budget : newTable.budget = table.budget

namespace AgesAll

theorem nil (ledger : Ledger) (table : PageTable) :
    AgesAll [] ledger table ledger table where
  aged _ impossible := nomatch impossible
  elsewhere _ _ := rfl
  ledger := rfl
  entry address := by simp
  budget := rfl

/-- One page ages, and then others. -/
theorem cons (member : page ∈ ledger.residents)
    (aligned : Address.pageBase page.address = page.address)
    (found : table.get? page.address = some entry)
    (apart : ∀ other ∈ pages, other.address ≠ page.address ∧
      other.handle ≠ page.handle)
    (others_aligned : ∀ other ∈ pages,
      Address.pageBase other.address = other.address)
    (others : AgesAll pages
      (ledger.put page.handle ⟨.resident page.address,
        Policy.aged page.recency entry.flags.accessed⟩)
      (table.write page.address (entry.remove Policy.accessedFlag))
      newLedger newTable) :
    AgesAll (page :: pages) ledger table newLedger newTable := by
  have placed := Ledger.mem_residents_iff.mp member
  obtain ⟨inside, _⟩ := Array.getElem?_eq_some_iff.mp placed
  constructor
  · intro other isOne
    rcases List.mem_cons.mp isOne with rfl | isOther
    · rw [others.elsewhere _ fun third isThird => (apart third isThird).2,
        Ledger.getElem?_places_put, if_pos ⟨rfl, inside⟩,
        PageTable.isReferenced_of_get? found]
    · rw [others.aged other isOther, PageTable.isReferenced_write_remove found,
        others_aligned other isOther, aligned,
        bne_iff_ne.mpr (apart other isOther).1, Bool.and_true]
  · intro handle different
    rw [others.elsewhere handle fun other isOther =>
        different other (.tail _ isOther), Ledger.getElem?_places_put,
      if_neg fun both => different page (.head _) both.1]
  · rw [others.ledger]
    rfl
  · intro address
    have onlyOnce : page.address ∉ pages.map ResidentPage.address := by
      intro again
      obtain ⟨other, isOther, same⟩ := List.mem_map.mp again
      exact (apart other isOther).1 same
    have cleared := afterChances_cons aligned found onlyOnce address
    rw [afterChances_eq, afterChances_eq] at cleared
    exact (others.entry address).trans cleared
  · exact others.budget

end AgesAll

/-- Pages in memory that are mapped age, each at its own address. -/
theorem agePages_of_mapped
    (members : ∀ page ∈ pages, page ∈ ledger.residents)
    (mapped : ∀ page ∈ pages, page.IsMappedIn table)
    (apart : pages.Pairwise fun first second =>
      second.address ≠ first.address ∧ second.handle ≠ first.handle) :
    ∃ newLedger newTable,
      Policy.agePages pages ledger table = .ok (newLedger, newTable) ∧
        AgesAll pages ledger table newLedger newTable := by
  induction pages generalizing ledger table with
  | nil => exact ⟨ledger, table, rfl, .nil ledger table⟩
  | cons page pages ih =>
      obtain ⟨others, apart⟩ := List.pairwise_cons.mp apart
      have isMapped := mapped page (.head _)
      obtain ⟨entry, found⟩ := isMapped.hasEntry
      have member := members page (.head _)
      have stay : ∀ tracked, ∀ other ∈ pages,
          other ∈ (ledger.put page.handle tracked).residents := by
        intro tracked other isOther
        rw [Ledger.mem_residents_iff, Ledger.getElem?_places_put,
          if_neg fun both => (others other isOther).2 both.1.symm]
        exact Ledger.mem_residents_iff.mp (members other (.tail _ isOther))
      obtain ⟨newLedger, newTable, success, ages⟩ := ih
        (stay ⟨.resident page.address,
          Policy.aged page.recency entry.flags.accessed⟩)
        (fun other isOther => (mapped other (.tail _ isOther)).write page.address
          (entry.remove Policy.accessedFlag)) apart
      refine ⟨newLedger, newTable, ?_, .cons member isMapped.aligned found
        others (fun other isOther => (mapped other (.tail _ isOther)).aligned)
        ages⟩
      rw [Policy.agePages, Policy.agePage,
        PageTable.lookup_of_lt isMapped.lt_limit, found]
      simp only [bind, Except.bind, Ledger.setRecency_of_mem member, pure,
        Except.pure]
      exact success

theorem Ledger.pairwise_apart
    (apart : (ledger.residents.map ResidentPage.address).Nodup) :
    ledger.residents.Pairwise fun first second =>
      second.address ≠ first.address ∧ second.handle ≠ first.handle :=
  ((List.pairwise_map.mp apart).imp Ne.symm).and
    (ledger.pairwise_handle_residents.imp fun less => Nat.ne_of_gt less)

/-- A tick of an aging policy ages the pages in memory. -/
theorem onTick_of_mapped (aging : isAging policy = true)
    (mapped : ∀ page ∈ ledger.residents, page.IsMappedIn table)
    (apart : (ledger.residents.map ResidentPage.address).Nodup) :
    ∃ newLedger newTable,
      policy.onTick ledger table =
        .ok (some ledger.residents.length, newLedger, newTable) ∧
      AgesAll ledger.residents ledger table newLedger newTable := by
  obtain ⟨newLedger, newTable, success, ages⟩ :=
    agePages_of_mapped (fun _ => id) mapped (Ledger.pairwise_apart apart)
  refine ⟨newLedger, newTable, ?_, ages⟩
  cases policy with
  | noPaging | scfifo => cases aging
  | nfua | lapa =>
      simp only [Policy.onTick, success, bind, Except.bind, pure, Except.pure]

/-- Where all pages in memory aged, the ledger remembers their marks and is as
before apart from that. -/
theorem AgesAll.eq_agedBy
    (ages : AgesAll ledger.residents ledger table newLedger newTable) :
    newLedger = ledger.agedBy fun address => [table.isReferenced address] := by
  have same : newLedger.places = ledger.places.map
      (Tracked.agedBy fun address => [table.isReferenced address]) := by
    refine Array.ext_getElem? fun handle => ?_
    rw [Array.getElem?_map]
    cases placed : ledger.places[handle]? with
    | none =>
        rw [ages.elsewhere handle, placed]
        · rfl
        · rintro page member rfl
          cases placed.symm.trans (Ledger.mem_residents_iff.mp member)
    | some tracked =>
        obtain ⟨residence, recency⟩ := tracked
        cases residence with
        | resident address =>
            have member : (⟨handle, address, recency⟩ : ResidentPage) ∈
                ledger.residents := Ledger.mem_residents_iff.mpr placed
            exact ages.aged _ member
        | free | swapped _ _ =>
            rw [ages.elsewhere handle, placed]
            · rfl
            · rintro page member rfl
              cases placed.symm.trans (Ledger.mem_residents_iff.mp member)
  rw [ages.ledger, same]
  rfl

/-- What happens between loads and evictions: a reference to user memory, or a
tick. -/
inductive Beat where
  | touch (address : Nat) (isWrite : Bool)
  | tick (policy : Policy)

namespace Beat

/-- References are to user memory, and ticks are of policies that age pages. -/
def Admissible : Beat → Prop
  | touch address _ => address < addressLimit
  | tick policy => isAging policy = true

def isTick : Beat → Bool
  | touch _ _ => false
  | tick _ => true

end Beat

/-- Ledger and page table in a stretch without loads and evictions. -/
structure Stretch where
  ledger : Ledger
  table : PageTable
  /-- The page tables just before the ticks so far, the last one first. -/
  found : List PageTable := []

namespace Stretch

/-- The marks of the page at `address` just before the ticks so far, the last one
first. -/
def marks (stretch : Stretch) (address : Nat) : List Bool :=
  stretch.found.map fun table => table.isReferenced address

def beat (stretch : Stretch) : Beat → Except Fatal Stretch
  | .touch address isWrite => do
    let table ← stretch.table.touch address isWrite
    return { stretch with table }
  | .tick policy => do
    let (_, ledger, table) ← policy.onTick stretch.ledger stretch.table
    return { ledger, table, found := stretch.table :: stretch.found }

/-- One beat after the other. -/
def run (stretch : Stretch) (beats : List Beat) : Except Fatal Stretch :=
  beats.foldlM beat stretch

end Stretch

theorem ResidentPage.IsMappedIn.update (mapped : page.IsMappedIn table)
    (address : Nat) (change : Entry → Entry) :
    page.IsMappedIn (table.update address change) := by
  refine ⟨mapped.aligned, mapped.lt_limit, ?_⟩
  obtain ⟨entry, found⟩ := mapped.hasEntry
  rw [PageTable.get?_update]
  split
  · rename_i same
    rw [← table.get?_eq_of_pageNumber_eq same, found]
    exact ⟨change entry, rfl⟩
  · exact ⟨entry, found⟩

theorem ResidentPage.IsMappedIn.of_agesAll (mapped : page.IsMappedIn table)
    (ages : AgesAll pages ledger table newLedger newTable) :
    page.IsMappedIn newTable := by
  obtain ⟨entry, found⟩ := mapped.hasEntry
  refine ⟨mapped.aligned, mapped.lt_limit, ?_⟩
  rw [ages.entry, found]
  exact ⟨_, rfl⟩

/-- Since the ledger was `ledger` its recencies have come to remember what the
ticks found, and nothing else of it is different.  Its pages are mapped. -/
structure Keeps (ledger : Ledger) (stretch : Stretch) : Prop where
  recalls : stretch.ledger = ledger.agedBy stretch.marks
  mapped : ∀ page ∈ ledger.residents, page.IsMappedIn stretch.table

namespace Keeps

variable {stretch : Stretch} (keeps : Keeps ledger stretch)

theorem start (mapped : ∀ page ∈ ledger.residents, page.IsMappedIn table) :
    Keeps ledger { ledger, table } :=
  ⟨ledger.agedBy_nil.symm, mapped⟩

include keeps

theorem residents : stretch.ledger.residents =
    ledger.residents.map (ResidentPage.agedBy stretch.marks) := by
  rw [keeps.recalls, Ledger.residents_agedBy]

theorem touch (inside : address < addressLimit) (isWrite : Bool) :
    ∃ table, stretch.beat (.touch address isWrite) =
        .ok { stretch with table } ∧ Keeps ledger { stretch with table } := by
  obtain ⟨change, touches⟩ : ∃ change,
      stretch.table.touch address isWrite =
        .ok (stretch.table.update address change) := by
    rw [PageTable.touch, PageTable.checkAddress, if_pos inside]
    exact ⟨_, rfl⟩
  refine ⟨stretch.table.update address change, ?_, keeps.recalls,
    fun page member => (keeps.mapped page member).update address change⟩
  simp only [Stretch.beat, touches, bind, Except.bind, pure, Except.pure]

/-- A tick is done, and the recencies remember what it found. -/
theorem tick (apart : (ledger.residents.map ResidentPage.address).Nodup)
    (aging : isAging policy = true) :
    ∃ newLedger newTable,
      policy.onTick stretch.ledger stretch.table =
        .ok (some ledger.residents.length, newLedger, newTable) ∧
      AgesAll stretch.ledger.residents stretch.ledger stretch.table newLedger
        newTable ∧
      Keeps ledger ⟨newLedger, newTable, stretch.table :: stretch.found⟩ := by
  have sameAddresses : stretch.ledger.residents.map ResidentPage.address =
      ledger.residents.map ResidentPage.address := by
    rw [keeps.residents, List.map_map]
    rfl
  have mapped : ∀ page ∈ stretch.ledger.residents,
      page.IsMappedIn stretch.table := by
    intro page member
    rw [keeps.residents] at member
    obtain ⟨origin, isOne, rfl⟩ := List.mem_map.mp member
    exact { keeps.mapped origin isOne with }
  obtain ⟨newLedger, newTable, ticks, ages⟩ :=
    onTick_of_mapped aging mapped (sameAddresses ▸ apart)
  rw [show stretch.ledger.residents.length = ledger.residents.length by
    rw [keeps.residents, List.length_map]] at ticks
  refine ⟨newLedger, newTable, ticks, ages, ?_, fun page member =>
    (keeps.mapped page member).of_agesAll ages⟩
  change newLedger = ledger.agedBy fun address =>
    stretch.table.isReferenced address :: stretch.marks address
  rw [ages.eq_agedBy, keeps.recalls, Ledger.agedBy_agedBy]
  rfl

theorem beat (apart : (ledger.residents.map ResidentPage.address).Nodup)
    {beat : Beat} (admissible : beat.Admissible) :
    ∃ next, stretch.beat beat = .ok next ∧ Keeps ledger next ∧
      next.found.length = stretch.found.length + beat.isTick.toNat := by
  cases beat with
  | touch address isWrite =>
      obtain ⟨table, touches, kept⟩ := keeps.touch admissible isWrite
      exact ⟨_, touches, kept, rfl⟩
  | tick policy =>
      obtain ⟨newLedger, newTable, ticks, _, kept⟩ :=
        keeps.tick apart admissible
      refine ⟨_, ?_, kept, rfl⟩
      simp only [Stretch.beat, ticks, bind, Except.bind, pure, Except.pure]

/-- A stretch is done to its end. -/
theorem run (apart : (ledger.residents.map ResidentPage.address).Nodup)
    {beats : List Beat} (admissible : ∀ beat ∈ beats, beat.Admissible) :
    ∃ last, stretch.run beats = .ok last ∧ Keeps ledger last ∧
      last.found.length =
        stretch.found.length + beats.countP Beat.isTick := by
  induction beats generalizing stretch with
  | nil => exact ⟨stretch, rfl, keeps, rfl⟩
  | cons beat beats ih =>
      obtain ⟨next, beats_next, kept, ticked⟩ :=
        keeps.beat apart (admissible beat (.head _))
      obtain ⟨last, rest, keptLast, length⟩ := ih kept
        fun other member => admissible other (.tail _ member)
      refine ⟨last, ?_, keptLast, ?_⟩
      · rw [Stretch.run, List.foldlM_cons, beats_next]
        exact rest
      · rw [length, ticked, List.countP_cons]
        cases beat.isTick <;> simp
        omega

end Keeps

/-- The policy takes the page `victim`, and changes nothing.  The page comes
before every other page in memory. -/
structure Takes (policy : Policy) (ledger : Ledger) (table : PageTable)
    (victim : ResidentPage)
    (comesBefore : ResidentPage → ResidentPage → Prop) : Prop where
  member : victim ∈ ledger.residents
  selects : policy.select ledger table =
    .ok ({ handle := victim.handle }, ledger, table)
  first : ∀ other ∈ ledger.residents, other ≠ victim →
    comesBefore victim other

theorem exists_takes (aging : isAging policy = true)
    (occupied : ledger.residents ≠ []) (table : PageTable) :
    ∃ victim, Takes policy ledger table victim policy.Prefers := by
  obtain ⟨isEmpty, _⟩ | ⟨victim, member, least⟩ :=
    Pager.least_cases policy ledger
  · exact absurd isEmpty occupied
  · refine ⟨victim, member, ?_, (Policy.least_eq_ok_iff.mp least).2⟩
    cases policy with
    | noPaging | scfifo => cases aging
    | nfua | lapa =>
        simp only [Policy.select, least, bind, Except.bind, pure, Except.pure]

/-- Of two pages whose recencies began alike the one whose last 64 marks are less
comes before the other. -/
theorem ResidentPage.precedes_agedBy_iff {first second : ResidentPage}
    {marks : Nat → List Bool} (bounded : first.recency < Word.limit)
    (alike : second.recency = first.recency)
    (length :
      (marks first.address).length = (marks second.address).length) :
    (first.agedBy marks).Precedes (second.agedBy marks) ↔
      (marks first.address).take 64 < (marks second.address).take 64 ∨
        (marks first.address).take 64 = (marks second.address).take 64 ∧
          first.handle < second.handle := by
  rw [Precedes, agedBy, agedBy, alike,
    Policy.remembered_lt_iff bounded length,
    Policy.remembered_eq_iff bounded length]

namespace Keeps

variable {stretch : Stretch} (keeps : Keeps ledger stretch)
include keeps

theorem mem_residents (member : page ∈ ledger.residents) :
    page.agedBy stretch.marks ∈ stretch.ledger.residents := by
  rw [keeps.residents]
  exact List.mem_map_of_mem member

theorem recency_lt
    (words : ∀ page ∈ ledger.residents, page.recency < Word.limit)
    (member : page ∈ stretch.ledger.residents) : page.recency < Word.limit := by
  rw [keeps.residents] at member
  obtain ⟨origin, isOne, rfl⟩ := List.mem_map.mp member
  exact Policy.remembered_lt (words origin isOne) _

/-- The page that comes before all others has the least marks of those whose
recencies began alike. -/
theorem marks_least {victim first second : ResidentPage}
    (words : ∀ page ∈ ledger.residents, page.recency < Word.limit)
    (isVictim : victim ∈ stretch.ledger.residents)
    (least : ∀ other ∈ stretch.ledger.residents, other ≠ victim →
      victim.Precedes other)
    (isFirst : first ∈ ledger.residents)
    (same : first.handle = victim.handle)
    (isSecond : second ∈ ledger.residents) (different : second ≠ first)
    (alike : second.recency = first.recency) :
    (stretch.marks first.address).take 64 <
        (stretch.marks second.address).take 64 ∨
      (stretch.marks first.address).take 64 =
          (stretch.marks second.address).take 64 ∧
        first.handle < second.handle := by
  obtain rfl : victim = first.agedBy stretch.marks :=
    Ledger.eq_of_handle_eq isVictim (keeps.mem_residents isFirst) same.symm
  have apart : second.agedBy stretch.marks ≠ first.agedBy stretch.marks := by
    intro equal
    have sameHandle := congrArg ResidentPage.handle equal
    exact different (Ledger.eq_of_handle_eq isSecond isFirst sameHandle)
  have length : ∀ address,
      (stretch.marks address).length = stretch.found.length :=
    fun address => List.length_map _
  exact (ResidentPage.precedes_agedBy_iff (words first isFirst) alike
    ((length _).trans (length _).symm)).mp
      (least _ (keeps.mem_residents isSecond) apart)

end Keeps

/-- In a stretch without loads and evictions the recency of every page comes to
be what the first one leaves after as many ticks, below the marks that the last
64 ticks found.  Every tick ages all pages in memory and does nothing else.  NFUA
takes the page of least recency, which is the one with the least history among
those that began alike, and LAPA counts the set bits first; of equals the page
at the earliest place is taken. -/
theorem aging_records_references
    (mapped : ∀ page ∈ ledger.residents, page.IsMappedIn table)
    (apart : (ledger.residents.map ResidentPage.address).Nodup)
    (words : ∀ page ∈ ledger.residents, page.recency < Word.limit)
    {beats : List Beat} (admissible : ∀ beat ∈ beats, beat.Admissible) :
    ∃ stretch, Stretch.run { ledger, table } beats = .ok stretch ∧
      stretch.found.length = beats.countP Beat.isTick ∧
      (∀ page ∈ ledger.residents, ∃ recency < Word.limit,
        ⟨page.handle, page.address, recency⟩ ∈ stretch.ledger.residents ∧
        ∀ bit, recency.testBit bit = true ↔
          (page.recency >>> beats.countP Beat.isTick).testBit bit = true ∨
            ∃ age < 64, bit = 63 - age ∧
              (stretch.marks page.address)[age]? = some true) ∧
      (∀ policy, isAging policy = true → ∃ newLedger newTable,
        policy.onTick stretch.ledger stretch.table =
          .ok (some ledger.residents.length, newLedger, newTable) ∧
        AgesAll stretch.ledger.residents stretch.ledger stretch.table
          newLedger newTable) ∧
      (ledger.residents ≠ [] →
        (∃ victim, Takes .nfua stretch.ledger stretch.table victim
            (fun page other => page.recency < other.recency ∨
              page.recency = other.recency ∧ page.handle < other.handle) ∧
          ∀ first ∈ ledger.residents, first.handle = victim.handle →
            ∀ second ∈ ledger.residents, second ≠ first →
              second.recency = first.recency →
                (stretch.marks first.address).take 64 <
                    (stretch.marks second.address).take 64 ∨
                  (stretch.marks first.address).take 64 =
                      (stretch.marks second.address).take 64 ∧
                    first.handle < second.handle) ∧
        ∃ victim, Takes .lapa stretch.ledger stretch.table victim
          fun page other =>
            Policy.setBits page.recency < Policy.setBits other.recency ∨
              Policy.setBits page.recency = Policy.setBits other.recency ∧
                (page.recency < other.recency ∨
                  page.recency = other.recency ∧
                    page.handle < other.handle)) := by
  obtain ⟨stretch, ran, keeps, ticks⟩ :=
    (Keeps.start mapped).run apart admissible
  rw [List.length_nil, Nat.zero_add] at ticks
  have bounded {page : ResidentPage}
      (member : page ∈ stretch.ledger.residents) : page.recency < Word.limit :=
    keeps.recency_lt words member
  refine ⟨stretch, ran, ticks, fun page member => ?_, fun policy aging => ?_,
    fun occupied => ?_⟩
  · have stays := keeps.mem_residents member
    have length : (stretch.marks page.address).length =
        beats.countP Beat.isTick := (List.length_map _).trans ticks
    refine ⟨_, bounded stays, stays, fun bit => ?_⟩
    rw [← length]
    exact Policy.testBit_remembered (words page member) bit
  · obtain ⟨newLedger, newTable, ticked, ages, _⟩ := keeps.tick apart aging
    exact ⟨newLedger, newTable, ticked, ages⟩
  · have stillOccupied : stretch.ledger.residents ≠ [] := by
      rw [keeps.residents]
      exact fun isEmpty => occupied (List.map_eq_nil_iff.mp isEmpty)
    obtain ⟨least, takes⟩ :
        ∃ page, Takes .nfua stretch.ledger stretch.table page
          Policy.nfua.Prefers := exists_takes rfl stillOccupied stretch.table
    obtain ⟨fewest, takesFewest⟩ :
        ∃ page, Takes .lapa stretch.ledger stretch.table page
          Policy.lapa.Prefers := exists_takes rfl stillOccupied stretch.table
    refine ⟨⟨least, { takes with first := takes.first }, ?_⟩, fewest, ?_⟩
    · intro first isFirst same second isSecond different alike
      exact keeps.marks_least words takes.member takes.first isFirst same
        isSecond different alike
    · exact { takesFewest with
        first := fun other member different =>
          (Policy.prefers_lapa_iff (bounded takesFewest.member)
            (bounded member)).mp
              (takesFewest.first other member different) }

/-- A page that is referenced between two ticks has the highest bit of its
recency set after the second one, and both ticks have shifted what was there. -/
theorem aging_records_references_between_ticks :
    ∃ stretch,
      Stretch.run { ledger := tiedLedger, table := tiedTable }
        [.tick .nfua, .touch 0x0 true, .tick .lapa] = .ok stretch ∧
      ⟨1, 0x0, 2 ^ 63 + 1⟩ ∈ stretch.ledger.residents ∧
      ∃ victim, Takes .nfua stretch.ledger stretch.table victim
        fun page other => page.recency < other.recency ∨
          page.recency = other.recency ∧ page.handle < other.handle := by
  obtain ⟨stretch, ran, ticks, recalls, _, choices⟩ :=
    @aging_records_references tiedLedger tiedTable (by decide +kernel)
      (by decide +kernel) (by decide +kernel)
      [.tick .nfua, .touch 0x0 true, .tick .lapa] (by
        simp [Beat.Admissible, isAging, addressLimit])
  have found : stretch.marks 0x0 = [true, false] := by
    have computed : (Stretch.run { ledger := tiedLedger, table := tiedTable }
        [.tick .nfua, .touch 0x0 true, .tick .lapa]).map
          (fun stretch => stretch.marks 0x0) = .ok [true, false] := by
      decide +kernel
    rw [ran] at computed
    exact Except.ok.inj computed
  obtain ⟨recency, bounded, member, bits⟩ :=
    recalls ⟨1, 0x0, 4⟩ (by decide +kernel)
  have remembers : recency = 2 ^ 63 + 1 := by
    refine Nat.eq_of_testBit_eq fun bit => ?_
    rcases Nat.lt_or_ge bit 64 with low | high
    · rw [found] at bits
      rw [Bool.eq_iff_iff, bits]
      revert bit
      decide +kernel
    · have reach : 2 ^ 64 ≤ 2 ^ bit := Nat.pow_le_pow_right (by decide) high
      have small : 2 ^ 63 + 1 < 2 ^ 64 := by decide
      rw [Nat.testBit_lt_two_pow (bounded.trans_le reach),
        Nat.testBit_lt_two_pow (small.trans_le reach)]
  refine ⟨stretch, ran, remembers ▸ member, ?_⟩
  exact (choices (by decide +kernel)).1.imp fun _ => And.left

end DemandPaging
