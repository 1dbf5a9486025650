/-
  Purse.Text.Ranges

  Classes of characters given as a list of closed ranges of code points.
-/

namespace Purse.Text

/-- A class of characters: each pair is the first and the last code point of a range. -/
abbrev Ranges := List (Nat × Nat)

/-- True when one of the ranges contains the character. -/
def Ranges.holds (ranges : Ranges) (c : Char) : Bool :=
  ranges.any fun (first, last) => first ≤ c.toNat && c.toNat ≤ last

end Purse.Text
