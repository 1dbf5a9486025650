/-
  Purse.Text.Blank

  White space and its removal from the two ends of a text.  `trim` is the only
  normalisation that names, amounts, filters and sort rules go through, so the
  class is the full one: the six ASCII blanks, NEL, the no-break space and the
  space separators of the other scripts.
-/
import Purse.Text.Ranges

namespace Purse.Text

/-- The white space characters. -/
def blanks : Ranges := [
  (0x9, 0xd), (0x20, 0x20), (0x85, 0x85), (0xa0, 0xa0), (0x1680, 0x1680),
  (0x2000, 0x200a), (0x2028, 0x2029), (0x202f, 0x202f), (0x205f, 0x205f), (0x3000, 0x3000)]

/-- True for a white space character. -/
def isBlank (c : Char) : Bool := blanks.holds c

/-- Drops white space from the front. -/
def trimFront (cs : List Char) : List Char := cs.dropWhile isBlank

/-- Drops white space from the back. -/
def trimBack (cs : List Char) : List Char := (trimFront cs.reverse).reverse

/-- Drops white space from both ends. -/
def trim (cs : List Char) : List Char := trimBack (trimFront cs)

/-- `trim` on a text. -/
def trimmed (s : String) : String := String.ofList (trim s.toList)

/-- What is left starts with no blank. -/
theorem trimFront_eq_self {c : Char} {cs : List Char} (h : isBlank c = false) :
    trimFront (c :: cs) = c :: cs := by
  simp [trimFront, h]

theorem toList_trimmed (s : String) : (trimmed s).toList = trim s.toList := by
  simp [trimmed]

end Purse.Text
