/-
  Purse.Decimal

  Decimal numerals as the columns of numbers read them: a sign, digits with at most one
  point among them, and an exponent of ten, of which only a digit is needed.  Around a
  numeral the ASCII blanks do not matter.  Of the digits only those count that fit 64 bits.

  A numeral that is no whole number of 64 bits is kept as a double, by way of a product with
  64 bits of mantissa.  Every double is a whole number of units of 2^-1074, the least double,
  so doubles are integers here and compare as such; infinity is the power of two past the
  greatest double.
-/
import Purse.Extended
import Purse.Text.Digits

namespace Purse

open Text

/-- A decimal numeral: `significand` times ten to the power of `exponent`. -/
structure Decimal where
  negative : Bool
  significand : Nat
  exponent : Int
  /-- The numeral is made of digits only. -/
  isWhole : Bool
  deriving DecidableEq, Repr

namespace Decimal

/-! ## Reading -/

/-- True for the ASCII blanks. -/
def isBlankAscii (c : Char) : Bool := c = ' ' || (0x9 ≤ c.toNat && c.toNat ≤ 0xd)

/-- A text without the ASCII blanks around it. -/
def withoutBlanks (cs : List Char) : List Char :=
  ((cs.dropWhile isBlankAscii).reverse.dropWhile isBlankAscii).reverse

/-- A significand takes no further digit from here on. -/
def significandLimit : Nat := 1844674407370955160

/-- The digits that count, as a number, and how many digits are left out behind them. -/
def leading (digits : List Char) : Nat × Nat :=
  digits.foldl
    (fun (n, dropped) c =>
      if n < significandLimit then (10 * n + digitValue c, dropped) else (n, dropped + 1))
    (0, 0)

/-- An exponent takes no further digit from here on, but falls back to this. -/
def exponentLimit : Nat := 10000

/-- The value of the digits of an exponent. -/
def exponentValue (digits : List Char) : Nat :=
  digits.foldl
    (fun n c => if n < exponentLimit then 10 * n + digitValue c else exponentLimit) 0

/-- The exponent after a mantissa: zero when nothing is there. -/
def exponent? : List Char → Option Int
  | [] => some 0
  | c :: rest =>
      if c ≠ 'e' ∧ c ≠ 'E' then none
      else
        let (negative, digits) := splitSign rest
        if digits ≠ [] ∧ digits.all isDigit then
          let n : Int := exponentValue digits
          some (if negative then -n else n)
        else none

/-- Reads a numeral without blanks and sign. -/
def unsigned? (negative : Bool) (cs : List Char) : Option Decimal :=
  let whole := cs.takeWhile isDigit
  match cs.dropWhile isDigit with
  | '.' :: rest => do
      let fraction := rest.takeWhile isDigit
      let digits := whole ++ fraction
      guard (digits ≠ [])
      let exponent ← exponent? (rest.dropWhile isDigit)
      let (significand, dropped) := leading digits
      return ⟨negative, significand, exponent + dropped - fraction.length, false⟩
  | rest => do
      guard (whole ≠ [])
      let exponent ← exponent? rest
      let (significand, dropped) := leading whole
      return ⟨negative, significand, exponent + dropped, rest.isEmpty⟩

/-- Reads a numeral. -/
def read? (s : String) : Option Decimal :=
  let (negative, cs) := splitSign (withoutBlanks s.toList)
  unsigned? negative cs

/-! ## Values -/

/-- A number with the sign of the numeral. -/
def withSign (d : Decimal) (n : Nat) : Int := if d.negative then -n else n

/-- The value of a numeral that is made of digits only, when all of them count. -/
def whole? (d : Decimal) : Option Int :=
  if d.isWhole ∧ d.exponent = 0 then some (d.withSign d.significand) else none

/-- The units of doubles in one. -/
def unitsPerOne : Nat := Nat.pow 2 1074

/-- The greatest double in units: 53 bits. -/
def greatestUnits : Nat := (Nat.pow 2 53 - 1) * Nat.pow 2 2045

/-- Infinity in units of doubles. -/
def infiniteUnits : Nat := Nat.pow 2 2098

/-- The double that is nearest to a quotient of units: a number of units with at most 53 bits
    before its trailing zeros. All that is past the greatest double is infinity. -/
def nearestUnits (n d : Nat) : Nat :=
  let step := Nat.pow 2 (Nat.log2 (n / d) - 52)
  if greatestUnits * d < n then infiniteUnits else roundedQuotient n (d * step) * step

/-- The double that is nearest to a number with 64 bits of mantissa, in units. -/
def unitsOf (a : Extended) : Nat :=
  let shift := a.exponent + 1074
  nearestUnits (a.mantissa * Nat.pow 2 shift.toNat) (Nat.pow 2 (-shift).toNat)

/-- The greatest number of 64 bits. -/
def greatestWord : Nat := 18446744073709551615

/-- Moves tens out of a power of ten into the number before it, as long as it fits 64 bits. -/
def takeTens : Nat → Nat → Nat × Nat
  | n, 0 => (n, 0)
  | n, exponent + 1 =>
      if n < greatestWord / 10 then takeTens (10 * n) exponent else (n, exponent + 1)

/-- Cancels tens of a number against a power of ten that divides it. -/
def cancelTens : Nat → Nat → Nat × Nat
  | n, 0 => (n, 0)
  | n, exponent + 1 => if n % 10 = 0 then cancelTens (n / 10) exponent else (n, exponent + 1)

/-- The numeral as a double, in units. -/
def units (d : Decimal) : Int :=
  let size := d.exponent.natAbs
  d.withSign <|
    if 0 ≤ d.exponent then
      let (n, exponent) := takeTens d.significand size
      unitsOf (Extended.timesTen ⟨n, 0⟩ exponent)
    else
      let (n, exponent) := cancelTens d.significand size
      unitsOf (Extended.timesTen ⟨n, 0⟩ (-exponent))

end Decimal

end Purse
