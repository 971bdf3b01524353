import DemandPaging.Log.Console
import Mathlib.Data.List.Basic

/-!
# What of a record reaches its line

A record is written in pieces, and each piece by itself is cut at the end of
the line.  The line is therefore not always a beginning of the record: where a
wide character was cut off, a later piece may still find room for a narrower one
(`log_appends_beginnings`).
-/

namespace DemandPaging

namespace Line

variable {room : Nat} {text line : List Char} {piece : List Char}
  {pieces : List (List Char)}

/-- `line` is the longest beginning of `text` that takes at most `room`
bytes. -/
structure IsLongest (room : Nat) (text line : List Char) : Prop where
  isBeginning : line <+: text
  byteCount_le : byteCount line ≤ room
  longest : ∀ other, other <+: text → byteCount other ≤ room → other <+: line

theorem isLongest_fitting (room : Nat) (text : List Char) :
    IsLongest room text (fitting room text) where
  isBeginning := fitting_isPrefix room text
  byteCount_le := byteCount_fitting_le room text
  longest := by
    induction text generalizing room with
    | nil =>
        intro other isBeginning _
        rw [List.prefix_nil.mp isBeginning]
        exact List.nil_prefix
    | cons character rest ih =>
        intro other isBeginning fits
        cases other with
        | nil => exact List.nil_prefix
        | cons first others =>
            obtain ⟨rfl, follows⟩ := List.cons_prefix_cons.mp isBeginning
            rw [byteCount_cons] at fits
            rw [fitting, if_pos (by omega)]
            apply List.cons_prefix_cons.mpr
            exact ⟨rfl, ih _ others follows (by omega)⟩

theorem isLongest_iff :
    IsLongest room text line ↔ line = fitting room text := by
  constructor
  · intro isLongest
    have fits := isLongest_fitting room text
    have here := fits.longest line isLongest.isBeginning isLongest.byteCount_le
    have there := isLongest.longest _ fits.isBeginning fits.byteCount_le
    exact here.eq_of_length_le there.length_le
  · rintro rfl
    exact isLongest_fitting room text

theorem fitting_append_of_le (fits : byteCount piece ≤ room) :
    fitting room (piece ++ text) =
      piece ++ fitting (room - byteCount piece) text := by
  induction piece generalizing room with
  | nil => rfl
  | cons character rest ih =>
      rw [byteCount_cons] at fits
      rw [List.cons_append, fitting, if_pos (by omega), ih (by omega),
        byteCount_cons, Nat.sub_sub, List.cons_append]

theorem fitting_append_of_lt (exceeds : room < byteCount piece) :
    fitting room (piece ++ text) = fitting room piece := by
  induction piece generalizing room with
  | nil => simp at exceeds
  | cons character rest ih =>
      rw [byteCount_cons] at exceeds
      rw [List.cons_append, fitting, fitting]
      split
      · rw [ih (by omega)]
      · rfl

theorem fitting_eq_nil_iff :
    fitting room text = [] ↔
      ∀ character ∈ text.head?, room < character.utf8Size := by
  cases text with
  | nil => simp [fitting]
  | cons character rest => simp [fitting]

/-- Each piece leaves its longest beginning that fits in the room that the
pieces before it have left. -/
inductive Fills : Nat → List (List Char) → Line → Prop where
  | nil (room : Nat) : Fills room [] []
  | cons {room : Nat} {piece first : List Char} {pieces : List (List Char)}
      {line : Line} (isLongest : IsLongest room piece first)
      (rest : Fills (room - byteCount first) pieces line) :
      Fills room (piece :: pieces) (first ++ line)

/-- What the pieces leave in a given room. -/
def fill : Nat → List (List Char) → Line
  | _, [] => []
  | room, piece :: pieces =>
    fitting room piece ++
      fill (room - byteCount (fitting room piece)) pieces

theorem fills_fill (room : Nat) (pieces : List (List Char)) :
    Fills room pieces (fill room pieces) := by
  induction pieces generalizing room with
  | nil => exact .nil room
  | cons piece pieces ih => exact .cons (isLongest_fitting room piece) (ih _)

theorem foldl_append (line : Line) (pieces : List (List Char)) :
    pieces.foldl append line =
      line ++ fill (limit - byteCount line) pieces := by
  induction pieces generalizing line with
  | nil => simp [fill]
  | cons piece pieces ih =>
      rw [List.foldl_cons, ih, append, fill, byteCount_append, Nat.sub_add_eq,
        List.append_assoc]

theorem ofPieces_eq_fill (pieces : List (List Char)) :
    ofPieces pieces = fill limit pieces := by
  simp [ofPieces, foldl_append]

namespace Fills

theorem sublist (fills : Fills room pieces line) :
    line.Sublist pieces.flatten := by
  induction fills with
  | nil => exact List.Sublist.refl []
  | cons isLongest _ ih =>
      rw [List.flatten_cons]
      exact isLongest.isBeginning.sublist.append ih

theorem byteCount_le (fills : Fills room pieces line) :
    byteCount line ≤ room := by
  induction fills with
  | nil => exact Nat.zero_le _
  | cons isLongest _ ih =>
      have first := isLongest.byteCount_le
      rw [byteCount_append]
      omega

end Fills

theorem fill_eq_nil_iff :
    fill room pieces = [] ↔
      ∀ piece ∈ pieces, ∀ character ∈ piece.head?,
        room < character.utf8Size := by
  induction pieces generalizing room with
  | nil => simp [fill]
  | cons piece pieces ih =>
      rw [fill, List.append_eq_nil_iff, List.forall_mem_cons,
        ← fitting_eq_nil_iff]
      constructor
      · rintro ⟨nothing, rest⟩
        rw [nothing] at rest
        exact ⟨nothing, ih.mp rest⟩
      · rintro ⟨nothing, rest⟩
        rw [nothing]
        exact ⟨rfl, ih.mpr rest⟩

/-- Wherever the pieces up to some place do not fit, each later one is empty or
begins with a character too wide for the room that the cut has left. -/
def CutsCleanly (room : Nat) (pieces : List (List Char)) : Prop :=
  ∀ before after, pieces = before ++ after →
    room < byteCount before.flatten →
      ∀ piece ∈ after, ∀ character ∈ piece.head?,
        room < byteCount (fitting room before.flatten) + character.utf8Size

theorem cutsCleanly_nil (room : Nat) : CutsCleanly room [] := by
  intro before after whole exceeds
  obtain ⟨rfl, rfl⟩ := List.append_eq_nil_iff.mp whole.symm
  simp at exceeds

theorem cutsCleanly_cons_of_le (fits : byteCount piece ≤ room) :
    CutsCleanly room (piece :: pieces) ↔
      CutsCleanly (room - byteCount piece) pieces := by
  constructor
  · intro clean before after whole exceeds later isLater character begins
    have first := clean (piece :: before) after (by rw [whole]; rfl)
    rw [List.flatten_cons, byteCount_append, fitting_append_of_le fits,
      byteCount_append] at first
    have beyond := first (by omega) later isLater character begins
    omega
  · intro clean before after whole exceeds later isLater character begins
    cases before with
    | nil => simp at exceeds
    | cons first before =>
        obtain ⟨rfl, behind⟩ := List.cons_eq_cons.mp whole
        rw [List.flatten_cons, byteCount_append] at exceeds
        rw [List.flatten_cons, fitting_append_of_le fits, byteCount_append]
        have beyond := clean before after behind (by omega) later isLater
          character begins
        omega

theorem cutsCleanly_cons_of_lt (exceeds : room < byteCount piece) :
    CutsCleanly room (piece :: pieces) ↔
      ∀ later ∈ pieces, ∀ character ∈ later.head?,
        room - byteCount (fitting room piece) < character.utf8Size := by
  have fits := byteCount_fitting_le room piece
  constructor
  · intro clean later isLater character begins
    have beyond := clean [piece] pieces rfl (by simpa using exceeds) later
      isLater character begins
    rw [List.flatten_singleton] at beyond
    omega
  · intro wide before after whole exceeding later isLater character begins
    cases before with
    | nil => simp at exceeding
    | cons first before =>
        obtain ⟨rfl, behind⟩ := List.cons_eq_cons.mp whole
        have isPiece : later ∈ pieces := by
          rw [behind]
          exact List.mem_append_right before isLater
        rw [List.flatten_cons, fitting_append_of_lt exceeds]
        have beyond := wide later isPiece character begins
        omega

/-- The pieces leave a beginning of their text just where they are cut
cleanly. -/
theorem fill_eq_fitting_iff :
    fill room pieces = fitting room pieces.flatten ↔
      CutsCleanly room pieces := by
  induction pieces generalizing room with
  | nil => simp [fill, fitting, cutsCleanly_nil]
  | cons piece pieces ih =>
      rw [List.flatten_cons]
      by_cases fits : byteCount piece ≤ room
      · rw [cutsCleanly_cons_of_le fits, fitting_append_of_le fits, fill,
          fitting_eq_self fits, List.append_cancel_left_eq, ih]
      · have exceeds : room < byteCount piece := by omega
        rw [cutsCleanly_cons_of_lt exceeds, fitting_append_of_lt exceeds, fill,
          List.append_right_eq_self, fill_eq_nil_iff]

@[simp]
theorem byteCount_replicate (count : Nat) (character : Char) :
    byteCount (List.replicate count character) =
      count * character.utf8Size := by
  induction count with
  | zero => simp
  | succ count ih =>
      rw [List.replicate_succ, byteCount_cons, ih, Nat.succ_mul, Nat.add_comm]

theorem byteCount_fitting_of_narrow
    (narrow : ∀ character ∈ text, character.utf8Size = 1)
    (enough : room ≤ byteCount text) :
    byteCount (fitting room text) = room := by
  induction text generalizing room with
  | nil =>
      have none : room = 0 := Nat.le_zero.mp enough
      rw [none, fitting, byteCount_nil]
  | cons character rest ih =>
      have width := narrow character List.mem_cons_self
      rw [byteCount_cons, width] at enough
      rw [fitting, width]
      split
      · have restNarrow : ∀ other ∈ rest, other.utf8Size = 1 :=
          fun other isOther => narrow other (List.mem_cons_of_mem _ isOther)
        rw [byteCount_cons, width, ih restNarrow (by omega)]
        omega
      · rw [byteCount_nil]
        omega

theorem cutsCleanly_of_narrow
    (narrow : ∀ character ∈ pieces.flatten, character.utf8Size = 1) :
    CutsCleanly room pieces := by
  intro before after whole exceeds later _ character _
  have beforeNarrow : ∀ other ∈ before.flatten, other.utf8Size = 1 := by
    intro other isOther
    apply narrow
    rw [whole, List.flatten_append]
    exact List.mem_append_left _ isOther
  have wide := character.utf8Size_pos
  rw [byteCount_fitting_of_narrow beforeNarrow (by omega)]
  omega

/-- A record reads as its level, padded, and its target in brackets, and its
message behind them. -/
theorem fullText_eq (level : Level) (target : String) (parts : List String) :
    fullText level target parts =
      '[' :: level.name.toList.rightpad levelWidth ' ' ++
        ' ' :: target.toList ++ "] ".toList ++ parts.flatMap String.toList := by
  simp [fullText, piecesOf, List.rightpad, List.flatMap_def,
    String.length_toList]

end Line

namespace Console

open Line (CutsCleanly Fills IsLongest fullText piecesOf)

/-- The line of a record takes from each piece the longest beginning that fits
in the room left by the pieces before.  So it keeps to its limit and to the
order of the text, but it is the longest beginning of the text that fits only if
nothing behind the first cut fits any more.  In a text of narrow characters
nothing does. -/
theorem log_appends_beginnings (console : Console) {threshold : Option Level}
    {level : Level} (passes : level.passes threshold = true)
    (target : String) (parts : List String) :
    ∃ line : Line,
      (console.log threshold level target parts).lines =
        console.lines.drop (if limit ≤ console.lines.length then 1 else 0) ++
          [line] ∧
      fullText level target parts =
        '[' :: level.name.toList.rightpad Line.levelWidth ' ' ++
          ' ' :: target.toList ++ "] ".toList ++
            parts.flatMap String.toList ∧
      Fills Line.limit (piecesOf level target parts) line ∧
      Line.byteCount line ≤ Line.limit ∧
      line.Sublist (fullText level target parts) ∧
      (IsLongest Line.limit (fullText level target parts) line ↔
        CutsCleanly Line.limit (piecesOf level target parts)) ∧
      ((∀ character ∈ fullText level target parts, character.utf8Size = 1) →
        IsLongest Line.limit (fullText level target parts) line) := by
  have fills := Line.fills_fill Line.limit (piecesOf level target parts)
  have clean : IsLongest Line.limit (fullText level target parts)
      (Line.fill Line.limit (piecesOf level target parts)) ↔
        CutsCleanly Line.limit (piecesOf level target parts) := by
    rw [Line.isLongest_iff]
    exact Line.fill_eq_fitting_iff
  refine ⟨_, ?_, Line.fullText_eq level target parts, fills,
    fills.byteCount_le, fills.sublist, clean, fun narrow => ?_⟩
  · rw [log, if_pos passes, push, Line.ofRecord, Line.ofPieces_eq_fill]
    split <;> rfl
  · exact clean.mpr (Line.cutsCleanly_of_narrow narrow)

/-- A wide letter does not fit behind 159 bytes, and the narrow one after it
does: the line is no beginning of its record. -/
theorem log_appends_beginnings_of_late_letter :
    Level.error.passes (some .error) = true ∧
    ∃ line : Line,
      (({} : Console).log (some .error) .error "t"
        [String.ofList (List.replicate 149 'y'), "é", "a"]).lines = [line] ∧
      Line.byteCount line ≤ Line.limit ∧
      ¬IsLongest Line.limit (fullText .error "t"
        [String.ofList (List.replicate 149 'y'), "é", "a"]) line := by
  obtain ⟨letters, areLetters⟩ : ∃ letters, letters = List.replicate 149 'y' :=
    ⟨_, rfl⟩
  have count : Line.byteCount letters = 149 := by
    rw [areLetters, Line.byteCount_replicate]
    rfl
  rw [← areLetters]
  obtain ⟨line, appended, _, _, bounded, _, clean, _⟩ :=
    log_appends_beginnings {}
      (rfl : Level.error.passes (some .error) = true) "t"
      [String.ofList letters, "é", "a"]
  refine ⟨rfl, line, appended, bounded, fun isLongest => ?_⟩
  -- What stands before the wide letter.
  have narrow : Line.byteCount (fullText .error "t" [String.ofList letters]) =
      159 := by
    have begins : fullText .error "t" [String.ofList letters] =
        ['[', 'E', 'R', 'R', 'O', 'R', ' ', 't', ']', ' '] ++ letters := by
      have width : "ERROR".length = 5 := by decide
      simp [fullText, piecesOf, Level.name, Line.levelWidth, width]
    rw [begins, Line.byteCount_append, count]
    rfl
  have flat : (piecesOf .error "t" [String.ofList letters, "é"]).flatten =
      fullText .error "t" [String.ofList letters] ++ ['é'] := by
    simp [fullText, piecesOf]
  have fits : Line.fitting Line.limit
      (piecesOf .error "t" [String.ofList letters, "é"]).flatten =
        fullText .error "t" [String.ofList letters] := by
    rw [flat, Line.fitting_append_of_le (by rw [narrow]; decide), narrow,
      List.append_right_eq_self]
    decide
  have beyond := clean.mp isLongest
    (piecesOf .error "t" [String.ofList letters, "é"]) [['a']]
    (by simp [piecesOf])
    (by rw [flat, Line.byteCount_append, narrow]; decide)
    ['a'] List.mem_cons_self 'a' rfl
  rw [fits, narrow] at beyond
  exact absurd beyond (by decide)

end Console

end DemandPaging
