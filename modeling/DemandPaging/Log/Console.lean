import DemandPaging.Log.Line

/-!
# The console

A console keeps the newest log lines, at most `Console.limit` of them.
-/

namespace DemandPaging

/-- The lines kept, oldest first. -/
structure Console where
  lines : List Line := []

namespace Console

/-- The most lines kept. -/
def limit : Nat := 64

/-- Appends a line, at the cost of the oldest if the console is full. -/
def push (console : Console) (line : Line) : Console where
  lines :=
    (if limit ≤ console.lines.length then console.lines.drop 1
      else console.lines) ++ [line]

/-- Appends the line of a record, if the threshold lets it through. -/
def log (console : Console) (threshold : Option Level) (level : Level)
    (target : String) (parts : List String) : Console :=
  if level.passes threshold then
    console.push (Line.ofRecord level target parts)
  else
    console

/-- Is some line one that contains the text `needle`? -/
def contains (console : Console) (needle : List Char) : Bool :=
  console.lines.any (Line.contains needle)

/-- The console without its lines. -/
def clear (_ : Console) : Console := {}

end Console

end DemandPaging
