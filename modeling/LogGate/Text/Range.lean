/-!
Closed ranges of code points. A character class is a list of such ranges.
-/

namespace LogGate.Text

/-- A range holds every code point from its first to its last. -/
structure CodeRange where
  first : Nat
  last : Nat

/-- A range covers a character whose code point it holds. -/
def CodeRange.covers (range : CodeRange) (c : Char) : Bool :=
  range.first ≤ c.toNat && c.toNat ≤ range.last

/-- A class covers a character that one of its ranges covers. -/
def anyCovers (ranges : List CodeRange) (c : Char) : Bool :=
  ranges.any (·.covers c)

end LogGate.Text
