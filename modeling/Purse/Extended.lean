/-
  Purse.Extended

  Positive numbers with a mantissa of 64 bits.  A product, a quotient and a power of ten are
  rounded to the nearest such number, a half to the even neighbour.  Multiplying by a power of
  ten takes several rounded products, so its last bits depend on the order of the factors:
  first the hundredth powers, then the tenth powers, then the tens that remain.
-/

namespace Purse

/-! ## Rounding -/

/-- The quotient to the nearest whole number; a half goes to the even neighbour. -/
def roundedQuotient (n d : Nat) : Nat :=
  let rest := n % d
  if 2 * rest < d ∨ (2 * rest = d ∧ n / d % 2 = 0) then n / d else n / d + 1

/-! ## Numbers -/

/-- The number `mantissa` times two to the power of `exponent`. -/
structure Extended where
  mantissa : Nat
  exponent : Int
  deriving DecidableEq, Repr

namespace Extended

/-- The bits of a mantissa. -/
def precision : Nat := 64

/-- The nearest number to `n / d` times two to the power of `exponent`, for a quotient that has
    at least `precision` bits or leaves no rest. -/
def ofQuotient (n d : Nat) (exponent : Int) : Extended :=
  let surplus := Nat.log2 (n / d) + 1 - precision
  ⟨roundedQuotient n (d * Nat.pow 2 surplus), exponent + surplus⟩

/-- The rounded product. -/
def mul (a b : Extended) : Extended :=
  ofQuotient (a.mantissa * b.mantissa) 1 (a.exponent + b.exponent)

instance : Mul Extended := ⟨mul⟩

/-- Ten to the power of `n`. -/
def powerOfTen (n : Nat) : Extended := ofQuotient (Nat.pow 10 n) 1 0

/-- One divided by ten to the power of `n`. -/
def fractionOfTen (n : Nat) : Extended :=
  let bits := Nat.log2 (Nat.pow 10 n) + 1 + precision
  ofQuotient (Nat.pow 2 bits) (Nat.pow 10 n) (-bits)

/-- A number times ten to the power of `exponent`. -/
def timesTen (a : Extended) (exponent : Int) : Extended :=
  let factor := if 0 ≤ exponent then powerOfTen else fractionOfTen
  let times (power count : Nat) (a : Extended) := Nat.repeat (· * factor power) count a
  let n := exponent.natAbs
  times 1 (n % 10) (times 10 (n % 100 / 10) (times 100 (n / 100) a))

end Extended

end Purse
