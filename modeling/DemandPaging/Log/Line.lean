import DemandPaging.Log.Level

/-!
# Log lines

A line holds a bounded number of bytes in UTF-8.  A record reaches it in
pieces, and each piece is cut by itself: its characters are appended up to the
first that does not fit, and the next piece is tried in the room that is left.
-/

namespace DemandPaging

/-- The characters of a log line. -/
abbrev Line := List Char

namespace Line

/-- The most bytes in a line. -/
def limit : Nat := 160

/-- The bytes that a text takes in UTF-8. -/
def byteCount : List Char → Nat
  | [] => 0
  | character :: rest => character.utf8Size + byteCount rest

/-- The longest beginning of a text that takes at most `room` bytes. -/
def fitting (room : Nat) : List Char → List Char
  | [] => []
  | character :: rest =>
    if character.utf8Size ≤ room then
      character :: fitting (room - character.utf8Size) rest
    else
      []

/-- The line with as much of a piece appended as fits. -/
def append (line : Line) (piece : List Char) : Line :=
  line ++ fitting (limit - byteCount line) piece

/-- The line that pieces leave, written one after the other. -/
def ofPieces (pieces : List (List Char)) : Line :=
  pieces.foldl append []

/-- The width to which the name of a level is padded. -/
def levelWidth : Nat := 5

/-- The pieces in which a record is written: a bracket, the level and each
space that pads it, a space, the target, a bracket, the parts of the message. -/
def piecesOf (level : Level) (target : String) (parts : List String) :
    List (List Char) :=
  let padding := List.replicate (levelWidth - level.name.length) [' ']
  [['['], level.name.toList] ++ padding ++
    [[' '], target.toList, "] ".toList] ++ parts.map String.toList

/-- The line of a record. -/
def ofRecord (level : Level) (target : String) (parts : List String) : Line :=
  ofPieces (piecesOf level target parts)

/-- The text of a record that no limit cuts. -/
def fullText (level : Level) (target : String) (parts : List String) :
    List Char :=
  (piecesOf level target parts).flatten

/-- Does the text `needle` occur in a line? -/
def contains (needle : List Char) : Line → Bool
  | [] => needle.isEmpty
  | character :: rest =>
    needle.isPrefixOf (character :: rest) || contains needle rest

@[simp]
theorem byteCount_nil : byteCount [] = 0 := rfl

@[simp]
theorem byteCount_cons (character : Char) (text : List Char) :
    byteCount (character :: text) = character.utf8Size + byteCount text := rfl

@[simp]
theorem byteCount_append (first second : List Char) :
    byteCount (first ++ second) = byteCount first + byteCount second := by
  induction first with
  | nil => exact (Nat.zero_add _).symm
  | cons character rest ih =>
      rw [List.cons_append, byteCount_cons, byteCount_cons, ih, Nat.add_assoc]

theorem fitting_isPrefix (room : Nat) (text : List Char) :
    fitting room text <+: text := by
  induction text generalizing room with
  | nil => exact List.prefix_rfl
  | cons character rest ih =>
      rw [fitting]
      split
      · exact List.cons_prefix_cons.mpr ⟨rfl, ih _⟩
      · exact List.nil_prefix

theorem byteCount_fitting_le (room : Nat) (text : List Char) :
    byteCount (fitting room text) ≤ room := by
  induction text generalizing room with
  | nil => exact Nat.zero_le _
  | cons character rest ih =>
      rw [fitting]
      split
      · rename_i fits
        have := ih (room - character.utf8Size)
        rw [byteCount_cons]
        omega
      · exact Nat.zero_le _

theorem fitting_eq_self {room : Nat} {text : List Char}
    (fits : byteCount text ≤ room) : fitting room text = text := by
  induction text generalizing room with
  | nil => rfl
  | cons character rest ih =>
      rw [byteCount_cons] at fits
      rw [fitting, if_pos (by omega), ih (by omega)]

end Line

end DemandPaging
