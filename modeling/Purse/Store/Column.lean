/-
  Purse.Store.Column

  What the columns of a table can hold.  A column of texts keeps a number as its numeral.
  A column of numbers keeps a numeral as its number, and any other text as it is; in the
  order of cells such a text is greater than every number, so a lower bound on a column
  never refuses it.
-/
import Purse.Cell

namespace Purse.Store

open Text

/-- The value of a text column that must be filled. Statements carry no doubles, so none has to
    be written out. -/
def textValue? : Cell → Option String
  | .text s => some s
  | .integer n => some (String.ofList (integerNumeral n))
  | .real _ => none
  | .null => none

/-- The value of a text column that may be empty. -/
def openTextValue? : Cell → Option (Option String)
  | .null => some none
  | cell => (textValue? cell).map some

/-- The value of a number column, which must be filled. -/
def numberValue? : Cell → Option Cell
  | .null => none
  | .text s => some (.ofNumeral s)
  | cell => some cell

/-- True for a value of a number column that is at least `n`. -/
def isAtLeast (n : Int) (cell : Cell) : Bool := Cell.le (.integer n) cell

/-- True for a value of a number column that is greater than `n`. -/
def isAbove (n : Int) (cell : Cell) : Bool := Cell.lt (.integer n) cell

@[simp] theorem isAtLeast_integer (n m : Int) : isAtLeast n (.integer m) = decide (n ≤ m) := by
  simp [isAtLeast, Cell.le, Cell.lt, ← decide_not]

@[simp] theorem isAbove_integer (n m : Int) : isAbove n (.integer m) = decide (n < m) := rfl

end Purse.Store
