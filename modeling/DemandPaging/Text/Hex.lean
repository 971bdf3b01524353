/-!
# Hexadecimal text

Addresses, entries and clocks are written in base sixteen, in lower case and
without padding.
-/

namespace DemandPaging

namespace Text

/-- The digits of `number` in base sixteen; zero is the single digit `0`. -/
def hex (number : Nat) : String :=
  String.ofList (Nat.toDigits 16 number)

/-- The digits of `number` in base sixteen after the mark `0x`. -/
def hexLiteral (number : Nat) : String :=
  "0x" ++ hex number

example : hex 0 = "0" := by decide

example : hexLiteral 0x80003fff = "0x80003fff" := by decide

end Text

end DemandPaging
