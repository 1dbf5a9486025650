/-
  Purse.Text.Digits

  Decimal numerals.  `numeral` writes a natural number without leading zeros,
  `numeralValue` reads a run of ASCII digits of any length, and the integer forms
  add a sign.
-/

namespace Purse.Text

/-- True for the ASCII digits. -/
def isDigit (c : Char) : Bool := '0' ≤ c && c ≤ '9'

/-- The value of an ASCII digit. -/
def digitValue (c : Char) : Nat := c.toNat - 48

/-- The ASCII digit of a value below ten. -/
def digitChar (n : Nat) : Char := Char.ofNat (48 + n)

/-- The value of a run of digits, most significant first. -/
def numeralValue (cs : List Char) : Nat :=
  cs.foldl (fun n c => 10 * n + digitValue c) 0

/-- The value of the digits after a point in units of the last of `places` places. Missing
    places count as zeros, further digits are dropped. -/
def fractionValue (places : Nat) (cs : List Char) : Nat :=
  numeralValue (cs.take places ++ List.replicate (places - cs.length) '0')

/-- The digits of `n`, without leading zeros. -/
def numeral (n : Nat) : List Char :=
  if n < 10 then [digitChar n] else numeral (n / 10) ++ [digitChar (n % 10)]

/-- The last `width` digits of `n`, with leading zeros. -/
def fixedNumeral : Nat → Nat → List Char
  | 0, _ => []
  | width + 1, n => fixedNumeral width (n / 10) ++ [digitChar (n % 10)]

/-- The digits of `n`, with leading zeros up to `width`. -/
def paddedNumeral (width n : Nat) : List Char :=
  List.replicate (width - (numeral n).length) '0' ++ numeral n

/-- The numeral of an integer, with a minus sign below zero. -/
def integerNumeral (i : Int) : List Char :=
  if i < 0 then '-' :: numeral i.natAbs else numeral i.natAbs

/-- A non-empty run of digits as a number. -/
def natural? (cs : List Char) : Option Nat :=
  if cs ≠ [] ∧ cs.all isDigit then some (numeralValue cs) else none

/-- Splits off an optional sign; the first component is true for a minus. -/
def splitSign : List Char → Bool × List Char
  | '-' :: rest => (true, rest)
  | '+' :: rest => (false, rest)
  | cs => (false, cs)

/-- A non-empty run of digits with an optional sign as an integer. -/
def integer? : List Char → Option Int
  | '-' :: rest => (natural? rest).map fun n => -(n : Int)
  | '+' :: rest => (natural? rest).map fun n => (n : Int)
  | cs => (natural? cs).map fun n => (n : Int)

theorem numeralValue_append_singleton (cs : List Char) (c : Char) :
    numeralValue (cs ++ [c]) = 10 * numeralValue cs + digitValue c := by
  simp [numeralValue]

theorem digitValue_digitChar {n : Nat} (h : n < 10) : digitValue (digitChar n) = n := by
  have : ∀ m < 10, digitValue (digitChar m) = m := by decide
  exact this n h

theorem isDigit_digitChar {n : Nat} (h : n < 10) : isDigit (digitChar n) = true := by
  have : ∀ m < 10, isDigit (digitChar m) = true := by decide
  exact this n h

/-- What holds of the ten digits one by one holds of every digit. -/
theorem forall_of_isDigit {p : Char → Prop} (each : ∀ n ≤ 57, 48 ≤ n → p (Char.ofNat n)) :
    ∀ c, isDigit c = true → p c := by
  intro c digit
  simp only [isDigit, Bool.and_eq_true, decide_eq_true_eq] at digit
  have least : '0'.toNat ≤ c.toNat := digit.1
  have most : c.toNat ≤ '9'.toNat := digit.2
  rw [← Char.ofNat_toNat c]
  exact each c.toNat most least

/-- Reading a written numeral gives the number back. -/
@[simp] theorem numeralValue_numeral (n : Nat) : numeralValue (numeral n) = n := by
  fun_induction numeral n with
  | case1 n h => simp [numeralValue, digitValue_digitChar h]
  | case2 n h ih =>
      rw [numeralValue_append_singleton, ih, digitValue_digitChar (Nat.mod_lt _ (by decide))]
      omega

/-- A numeral holds digits only. -/
theorem all_isDigit_numeral (n : Nat) : (numeral n).all isDigit = true := by
  fun_induction numeral n with
  | case1 n h => simp [isDigit_digitChar h]
  | case2 n h ih => simp [ih, isDigit_digitChar (Nat.mod_lt n (show 0 < 10 by decide))]

theorem isDigit_of_mem_fixedNumeral {width n : Nat} :
    ∀ c ∈ fixedNumeral width n, isDigit c = true := by
  induction width generalizing n with
  | zero => exact List.forall_mem_nil _
  | succ width ih =>
      exact List.forall_mem_append.2
        ⟨ih, List.forall_mem_singleton.2 (isDigit_digitChar (Nat.mod_lt _ (by decide)))⟩

theorem isDigit_of_mem_paddedNumeral {width n : Nat} :
    ∀ c ∈ paddedNumeral width n, isDigit c = true := by
  refine List.forall_mem_append.2 ⟨fun c member => ?_, ?_⟩
  · rw [List.eq_of_mem_replicate member]
    rfl
  · exact List.all_eq_true.1 (all_isDigit_numeral n)

/-- A numeral is never empty. -/
theorem numeral_ne_nil (n : Nat) : numeral n ≠ [] := by
  fun_induction numeral n <;> simp

@[simp] theorem length_fixedNumeral (width n : Nat) : (fixedNumeral width n).length = width := by
  induction width generalizing n with
  | zero => rfl
  | succ width ih => simp [fixedNumeral, ih]

/-- Reading a fixed-width numeral gives the number back when it fits. -/
theorem numeralValue_fixedNumeral {width n : Nat} (h : n < Nat.pow 10 width) :
    numeralValue (fixedNumeral width n) = n := by
  induction width generalizing n with
  | zero => simp_all [fixedNumeral, numeralValue]
  | succ width ih =>
      have : n / 10 < Nat.pow 10 width := Nat.div_lt_of_lt_mul (by rwa [Nat.mul_comm])
      rw [fixedNumeral, numeralValue_append_singleton, ih this,
        digitValue_digitChar (Nat.mod_lt _ (by decide))]
      omega

end Purse.Text
