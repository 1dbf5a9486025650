/-
  Purse.Cell

  The values that a stored column holds and that a statement's parameters carry:
  nothing, a number, or a text.  Cells have one order: nothing comes first, then the
  numbers, then the texts by code point.  A number is an integer of 64 bits, or a double
  when it is none.
-/
import Purse.Decimal
import Purse.Money

namespace Purse

/-- A stored value. -/
inductive Cell where
  | null
  | integer (value : Int)
  /-- A double that is no integer of 64 bits, in units of doubles. -/
  | real (units : Int)
  | text (value : String)
  deriving DecidableEq, Repr, Inhabited

/-- The integers that can be stored. -/
def storable? (n : Int) : Option Int := Cents.checked? n

namespace Cell

/-- A truth value as it is stored: one or zero. -/
def ofBool (b : Bool) : Cell := .integer (if b then 1 else 0)

/-- A text that may be absent. -/
def ofText? : Option String → Cell
  | some s => .text s
  | none => .null

/-- A double as it is stored: as an integer when it is one well within 64 bits. -/
def ofUnits (units : Int) : Cell :=
  let n := units / Decimal.unitsPerOne
  if n * Decimal.unitsPerOne = units ∧ Cents.smallest < n ∧ n < Cents.largest then .integer n
  else .real units

/-- A text as it is stored in a column of numbers: a numeral as its number, with the exact value
    if it is a whole number of 64 bits, and any other text as it is. -/
def ofNumeral (s : String) : Cell :=
  match Decimal.read? s with
  | none => .text s
  | some d => match d.whole?.bind storable? with
    | some n => .integer n
    | none => ofUnits d.units

/-- The order of cells. -/
protected def lt : Cell → Cell → Bool
  | .null, .null => false
  | .null, _ => true
  | _, .null => false
  | .integer a, .integer b => a < b
  | .integer a, .real b => a * Decimal.unitsPerOne < b
  | .real a, .integer b => a < b * Decimal.unitsPerOne
  | .real a, .real b => a < b
  | .text a, .text b => a < b
  | _, .text _ => true
  | .text _, _ => false

instance : LT Cell := ⟨fun a b => Cell.lt a b = true⟩

instance (a b : Cell) : Decidable (a < b) := inferInstanceAs (Decidable (Cell.lt a b = true))

/-- `a ≤ b` in the order of cells. -/
protected def le (a b : Cell) : Bool := !Cell.lt b a

end Cell

end Purse
