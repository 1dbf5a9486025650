/-
  Purse.Money

  Amounts of money.  An amount is a whole number of cents, so that balances can be
  compared exactly; a stored amount lies in the 64-bit range.  What is added to a balance or
  asked as a price is checked against the range (`Cents.checked?`); only where entries are
  added up does a sum that leaves the range come in again at the other end (`Cents.wrap`).
  The written form has two decimals.  Reading is exact: an amount with more than two
  decimals is refused, never rounded.
-/
import Purse.Text.Blank
import Purse.Text.Digits
import Purse.Text.Quoted
import Purse.Text.Split

namespace Purse

open Text

/-- An amount in cents; one unit is a hundred cents. -/
abbrev Cents := Int

/-- The largest amount that can be stored. -/
def Cents.largest : Cents := 9223372036854775807

/-- The smallest amount that can be stored. -/
def Cents.smallest : Cents := -9223372036854775808

/-- True for an amount that can be stored. -/
def Cents.fits (amount : Cents) : Bool := Cents.smallest ≤ amount && amount ≤ Cents.largest

/-- The amount itself, when it can be stored. -/
def Cents.checked? (amount : Cents) : Option Cents :=
  if Cents.fits amount then some amount else none

/-- The sum of two amounts, when it can be stored. -/
def Cents.add? (a b : Cents) : Option Cents := Cents.checked? (a + b)

/-- An amount taken `count` times, when it can be stored. -/
def Cents.times? (price : Cents) (count : Nat) : Option Cents := Cents.checked? (price * count)

/-- The amount in the 64-bit range that differs from the given one by a multiple of `2 ^ 64`. -/
def Cents.wrap (amount : Cents) : Cents := Int.bmod amount (Nat.pow 2 64)

/-- Why a text is no amount. -/
inductive MoneyError where
  /-- The text is not a decimal number. -/
  | notANumber (input : String)
  /-- The number has more than two decimals. -/
  | tooPrecise (input : String)
  /-- The number is too large to be stored. -/
  | outOfRange (input : String)
  deriving DecidableEq, Repr

/-- The message of a refused amount, which shows the text as it was given. -/
def MoneyError.message : MoneyError → String
  | .notANumber input => "invalid money format: " ++ quoted input
  | .tooPrecise input => "too many decimal places in " ++ quoted input ++ " (at most 2)"
  | .outOfRange input => "amount out of range: " ++ quoted input

/-- The written form of an amount: a minus sign below zero, the units, a point and two
    decimals. -/
def Cents.chars (amount : Cents) : List Char :=
  (if amount < 0 then ['-'] else []) ++
    numeral (amount.natAbs / 100) ++ '.' :: fixedNumeral 2 (amount.natAbs % 100)

/-- `Cents.chars` as a text. -/
def Cents.text (amount : Cents) : String := String.ofList (Cents.chars amount)

/-- The parts of a decimal before and after its first point. -/
def splitPoint (body : List Char) : List Char × List Char :=
  (splitFirst '.' body).getD (body, [])

/-- Reads an amount: blanks around it are dropped, a sign is optional, and of the two
    parts around the point either may be empty, but not both. -/
def Cents.parse (input : String) : Except MoneyError Cents :=
  let (negative, body) := splitSign (trim input.toList)
  let (units, decimals) := splitPoint body
  if (units = [] ∧ decimals = []) ∨ ¬ units.all isDigit ∨ ¬ decimals.all isDigit then
    .error (.notANumber input)
  else if 2 < decimals.length then
    .error (.tooPrecise input)
  else
    let cents : Cents := (numeralValue units * 100 + fractionValue 2 decimals : Nat)
    if Cents.largest < cents then .error (.outOfRange input)
    else .ok (if negative then -cents else cents)

theorem Cents.checked?_eq_some {a b : Cents} :
    Cents.checked? a = some b ↔ Cents.fits a = true ∧ a = b := by
  simp [Cents.checked?]

theorem Cents.fits_iff {a : Cents} :
    Cents.fits a = true ↔ Cents.smallest ≤ a ∧ a ≤ Cents.largest := by
  simp [Cents.fits]

theorem Cents.fits_of_nonneg {amount : Cents} (least : 0 ≤ amount) (most : amount ≤ Cents.largest) :
    Cents.fits amount = true :=
  Cents.fits_iff.2 ⟨Int.le_trans (by decide) least, most⟩

/-- Nothing happens to an amount that can be stored. -/
theorem Cents.wrap_of_fits {amount : Cents} (fits : Cents.fits amount = true) :
    Cents.wrap amount = amount := by
  obtain ⟨above, below⟩ := Cents.fits_iff.1 fits
  exact Int.bmod_eq_of_le above (Int.lt_add_one_iff.2 below)

/-- A sum comes round to the same amount, however often it did so on the way. -/
theorem Cents.wrap_wrap_add (a b : Cents) : Cents.wrap (Cents.wrap a + b) = Cents.wrap (a + b) :=
  Int.bmod_add_bmod

/-- An amount that is not below zero is out of range when it is above the largest. -/
theorem Cents.checked?_of_nonneg {amount : Cents} (least : 0 ≤ amount) :
    Cents.checked? amount = if Cents.largest < amount then none else some amount := by
  by_cases large : Cents.largest < amount
  · rw [Cents.checked?, if_neg, if_pos large]
    exact fun inside => absurd (Cents.fits_iff.1 inside).2 (Int.not_le.2 large)
  · rw [Cents.checked?, if_pos (Cents.fits_of_nonneg least (Int.not_lt.1 large)), if_neg large]

end Purse
