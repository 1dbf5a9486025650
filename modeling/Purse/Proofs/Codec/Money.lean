/-
  Purse.Proofs.Codec.Money

  Amounts as texts.  What is left of a text without its blanks and its sign is a decimal or it is
  none, and a decimal stands for a rational number.  Which texts are amounts, which amount each of
  them is and why the others are refused is said in these terms (`Cents.parse_classifies`); reading
  in 64-bit numbers step by step comes to the same, however long the text is.  The written form of
  an amount is read back, with one exception: the smallest amount has no counterpart above zero,
  and the range is checked before the sign is applied (`Cents.text_read_back`).
-/
import Mathlib.Data.Nat.Digits.Defs
import Mathlib.Tactic.FieldSimp
import Mathlib.Data.Rat.Cast.Order
import Purse.CommandLine.Run
import Purse.Proofs.Text.Digits
import Purse.Proofs.Text.Trim

namespace Purse.Text

/-! ## Decimals -/

/-- A decimal: ASCII digits, at least one of them, and at most one point. -/
def IsDecimal (body : List Char) : Prop :=
  (∀ c ∈ body, isDigit c = true ∨ c = '.') ∧ body.count '.' ≤ 1 ∧ ∃ c ∈ body, isDigit c = true

instance : DecidablePred IsDecimal := fun body => inferInstanceAs (Decidable
  ((∀ c ∈ body, isDigit c = true ∨ c = '.') ∧ body.count '.' ≤ 1 ∧ ∃ c ∈ body, isDigit c = true))

/-- The number of digits behind the point of a decimal. -/
def decimalPlaces (body : List Char) : Nat := (body.dropWhile (· ≠ '.')).length - 1

/-- The number that a decimal stands for: its digits as one numeral, moved down by as many places
    as stand behind the point. -/
def decimalValue (body : List Char) : ℚ :=
  (Nat.ofDigits 10 ((body.erase '.').reverse.map digitValue) : Nat) / 10 ^ decimalPlaces body

theorem ofDigits_reverse (cs : List Char) :
    Nat.ofDigits 10 (cs.reverse.map digitValue) = numeralValue cs := by
  induction cs using List.reverseRecOn with
  | nil => rfl
  | append_singleton cs c ih =>
      rw [List.reverse_concat', List.map_cons, Nat.ofDigits_cons, ih,
        numeralValue_append_singleton]
      exact Nat.add_comm _ _

/-- Digits are what is left of digits and points when there are no points. -/
theorem forall_isDigit_iff {cs : List Char} : (∀ c ∈ cs, isDigit c = true) ↔
    (∀ c ∈ cs, isDigit c = true ∨ c = '.') ∧ '.' ∉ cs := by
  constructor
  · exact fun digits => ⟨fun c member => .inl (digits c member),
      fun point => Bool.false_ne_true (digits '.' point)⟩
  · rintro ⟨chars, pointless⟩ c member
    exact (chars c member).resolve_right fun point => pointless (point ▸ member)

theorem exists_isDigit_iff {cs : List Char} (digits : ∀ c ∈ cs, isDigit c = true) :
    (∃ c ∈ cs, isDigit c = true) ↔ cs ≠ [] := by
  cases cs with
  | nil => simp
  | cons c cs =>
      exact ⟨fun _ => List.cons_ne_nil c cs,
        fun _ => ⟨c, List.mem_cons_self, digits c List.mem_cons_self⟩⟩

/-- A decimal is a run of digits once its point is taken out. -/
theorem isDecimal_iff_erase {body : List Char} :
    IsDecimal body ↔ body.erase '.' ≠ [] ∧ (body.erase '.').all isDigit = true := by
  -- Only one point is taken out, so a second one is left among the digits.
  have chars : (∀ c ∈ body, isDigit c = true ∨ c = '.') ↔
      ∀ c ∈ body.erase '.', isDigit c = true ∨ c = '.' := by
    refine ⟨fun h c member => h c (List.mem_of_mem_erase member), fun h c member => ?_⟩
    by_cases point : c = '.'
    · exact .inr point
    · exact h c ((List.mem_erase_of_ne point).2 member)
  have points : body.count '.' ≤ 1 ↔ '.' ∉ body.erase '.' := by
    rw [← List.count_eq_zero, List.count_erase_self]
    omega
  have digit : (∃ c ∈ body, isDigit c = true) ↔ ∃ c ∈ body.erase '.', isDigit c = true := by
    refine exists_congr fun c => and_congr_left fun digit => ?_
    have other : c ≠ '.' := by rintro rfl; exact Bool.false_ne_true digit
    exact (List.mem_erase_of_ne other).symm
  rw [IsDecimal, chars, points, digit, ← and_assoc, ← forall_isDigit_iff, List.all_eq_true,
    and_comm (b := ∀ c ∈ body.erase '.', isDigit c = true)]
  exact and_congr_right exists_isDigit_iff

/-- A text is its part before the point alone, or both parts with the point between them. -/
theorem splitPoint_cases {body units decimals : List Char}
    (h : splitPoint body = (units, decimals)) :
    '.' ∉ units ∧ (body = units ∧ decimals = [] ∨ body = units ++ '.' :: decimals) := by
  rw [splitPoint] at h
  cases cut : splitFirst '.' body with
  | none =>
      rw [cut, Option.getD_none] at h
      cases h
      exact ⟨splitFirst_eq_none.1 cut, .inl ⟨rfl, rfl⟩⟩
  | some parts =>
      rw [cut, Option.getD_some] at h
      subst h
      obtain ⟨whole, outside⟩ := splitFirst_some cut
      exact ⟨outside, .inr whole⟩

section Parts

variable {body units decimals : List Char} (parts : splitPoint body = (units, decimals))
include parts

theorem erase_of_splitPoint : body.erase '.' = units ++ decimals := by
  obtain ⟨outside, ⟨rfl, rfl⟩ | rfl⟩ := splitPoint_cases parts
  · rw [List.erase_of_not_mem outside, List.append_nil]
  · rw [List.erase_append_right _ outside, List.erase_cons_head]

theorem decimalPlaces_of_splitPoint : decimalPlaces body = decimals.length := by
  obtain ⟨outside, shape⟩ := splitPoint_cases parts
  have none : units.dropWhile (· ≠ '.') = [] := by
    rw [List.dropWhile_eq_nil_iff]
    exact fun c member => decide_eq_true fun point => outside (point ▸ member)
  rw [decimalPlaces]
  obtain ⟨rfl, rfl⟩ | rfl := shape
  · rw [none]
    rfl
  · rw [List.dropWhile_append, none]
    simp

/-- The text is a decimal when both parts are digits and one of them is not empty. -/
theorem isDecimal_iff_of_splitPoint : IsDecimal body ↔
    ¬ (units = [] ∧ decimals = []) ∧ units.all isDigit = true ∧ decimals.all isDigit = true := by
  rw [isDecimal_iff_erase, erase_of_splitPoint parts, Ne, List.append_eq_nil_iff,
    List.all_append, Bool.and_eq_true]

end Parts

end Purse.Text

namespace Purse.Cents

open Text

/-! ## What a text is as an amount -/

/-- True for a text of an amount with a minus sign. -/
def hasMinus (input : String) : Bool := (splitSign (trim input.toList)).1

/-- The text of an amount without the blanks around it and without its sign. -/
def bodyOf (input : String) : List Char := (splitSign (trim input.toList)).2

/-- The amount of a decimal that has at most two places, in cents and without its sign. -/
def ofBody (body : List Char) : Nat :=
  let (units, decimals) := splitPoint body
  numeralValue units * 100 + fractionValue 2 decimals

/-- In cents the number that a decimal stands for is whole. -/
theorem cast_ofBody {body : List Char} (places : decimalPlaces body ≤ 2) :
    (ofBody body : ℚ) = decimalValue body * 100 := by
  rcases parts : splitPoint body with ⟨units, decimals⟩
  rw [decimalPlaces_of_splitPoint parts] at places
  -- A hundred is made up of the places that are there and the places that are missing.
  have scale : (100 : ℚ) = 10 ^ decimals.length * 10 ^ (2 - decimals.length) := by
    rw [← pow_add, Nat.add_sub_cancel' places]
    norm_num
  have amount : ofBody body = numeralValue (units ++ decimals) * 10 ^ (2 - decimals.length) := by
    have hundred : 100 = 10 ^ decimals.length * 10 ^ (2 - decimals.length) := by
      rw [← Nat.pow_add, Nat.add_sub_cancel' places]
    simp only [ofBody, parts]
    rw [fractionValue_of_length_le places, numeralValue_append, Nat.add_mul, Nat.mul_assoc,
      ← hundred]
  rw [amount, decimalValue, decimalPlaces_of_splitPoint parts, ofDigits_reverse,
    erase_of_splitPoint parts, scale]
  push_cast
  field_simp

/-- Reading refuses what is no decimal, then what has too many places, then what is too large. -/
theorem parse_eq (input : String) : parse input =
    if ¬ IsDecimal (bodyOf input) then .error (.notANumber input)
    else if 2 < decimalPlaces (bodyOf input) then .error (.tooPrecise input)
    else if largest < ofBody (bodyOf input) then .error (.outOfRange input)
    else .ok (if hasMinus input then -(ofBody (bodyOf input) : Cents)
      else ofBody (bodyOf input)) := by
  rcases sign : splitSign (trim input.toList) with ⟨negative, body⟩
  have minus : hasMinus input = negative := congrArg Prod.fst sign
  have rest : bodyOf input = body := congrArg Prod.snd sign
  rw [minus, rest]
  rcases point : splitPoint body with ⟨units, decimals⟩
  have refused : (units = [] ∧ decimals = []) ∨ ¬ units.all isDigit = true ∨
      ¬ decimals.all isDigit = true ↔ ¬ IsDecimal body := by
    rw [isDecimal_iff_of_splitPoint point]
    tauto
  simp only [parse, sign, point, ofBody, refused, decimalPlaces_of_splitPoint point]

/-! ## Reading in 64-bit numbers -/

/-- A run of digits read in 64-bit numbers, one digit after the other: nothing when a step leaves
    the range. -/
def numeralInSteps? (cs : List Char) : Option Cents :=
  cs.foldlM (fun n c => (times? n 10).bind (add? · (digitValue c))) 0

/-- The digits before and after the point as an amount, in 64-bit numbers. The amount is refused
    when a checked step leaves the range. Two steps are not checked, moving a single decimal up by
    one place and applying the sign, and there is no result when one of them leaves the range. -/
def amountInSteps? (refusal : MoneyError) (negative : Bool) (units decimals : List Char) :
    Option (Except MoneyError Cents) :=
  match numeralInSteps? units, numeralInSteps? decimals with
  | some whole, some tail =>
      (if decimals.length = 1 then times? tail 10 else some tail).bind fun tail =>
        match (times? whole 100).bind (add? · tail) with
        | some cents => if negative then (checked? (-cents)).map .ok else some (.ok cents)
        | none => some (.error refusal)
  | _, _ => some (.error refusal)

/-- `parse` in 64-bit numbers throughout. -/
def parseInSteps? (input : String) : Option (Except MoneyError Cents) :=
  let (negative, body) := splitSign (trim input.toList)
  let (units, decimals) := splitPoint body
  if (units = [] ∧ decimals = []) ∨ ¬ units.all isDigit ∨ ¬ decimals.all isDigit then
    some (.error (.notANumber input))
  else if 2 < decimals.length then
    some (.error (.tooPrecise input))
  else amountInSteps? (.outOfRange input) negative units decimals

/-- Amounts from zero up to one that can be stored can be stored. -/
theorem fits_of_le {a b : Cents} (least : 0 ≤ a) (most : a ≤ b) (h : fits b = true) :
    fits a = true := by
  rw [fits_iff] at h ⊢
  exact ⟨le_trans (by decide) least, most.trans h.2⟩

/-- Nothing is lost by checking an amount before it grows. -/
theorem checked?_bind {amount : Cents} {grow : Cents → Cents} (least : 0 ≤ amount)
    (most : amount ≤ grow amount) :
    (checked? amount).bind (fun n => checked? (grow n)) = checked? (grow amount) := by
  by_cases inside : fits amount = true
  · rw [checked?, if_pos inside, Option.bind_some]
  · rw [checked?, if_neg inside, Option.bind_none, checked?,
      if_neg (mt (fits_of_le least most) inside)]

theorem checked?_bind_add? {amount : Cents} (least : 0 ≤ amount) (n : Nat) :
    (checked? amount).bind (add? · n) = checked? (amount + n) :=
  checked?_bind least (Int.le_add_of_nonneg_right (Int.natCast_nonneg n))

theorem checked?_bind_times? {amount : Cents} (least : 0 ≤ amount) {n : Nat} (h : 0 < n) :
    (checked? amount).bind (times? · n) = checked? (amount * n) :=
  checked?_bind least (le_mul_of_one_le_right least (Int.ofNat_le.2 h))

/-- Digit by digit the value of a numeral is reached or found too large. -/
theorem numeralInSteps?_eq (cs : List Char) :
    numeralInSteps? cs = checked? (numeralValue cs : Nat) := by
  induction cs using List.reverseRecOn with
  | nil => rfl
  | append_singleton cs c ih =>
      have steps : numeralInSteps? (cs ++ [c]) =
          ((numeralInSteps? cs).bind (times? · 10)).bind (add? · (digitValue c)) := by
        rw [numeralInSteps?, List.foldlM_append, Option.bind_assoc]
        simp
        rfl
      rw [steps, ih, checked?_bind_times? (Int.natCast_nonneg _) (by decide),
        checked?_bind_add? (by positivity), numeralValue_append_singleton]
      congr 1
      push_cast
      ring

/-- The range holds the opposite of every amount from zero up to the largest. -/
theorem checked?_neg {amount : Cents} (least : 0 ≤ amount) (most : amount ≤ largest) :
    checked? (-amount) = some (-amount) :=
  if_pos (fits_iff.2 ⟨le_trans (by decide : smallest ≤ -largest) (Int.neg_le_neg most),
    le_trans (Int.neg_nonpos_of_nonneg least) (by decide)⟩)

/-- Two decimals are never out of range, nor is a single one that is moved up by one place. -/
theorem decimals_in_steps {decimals : List Char} (digits : decimals.all isDigit = true)
    (places : decimals.length ≤ 2) :
    (numeralInSteps? decimals).bind (fun tail =>
      if decimals.length = 1 then times? tail 10 else some tail) =
        some (fractionValue 2 decimals : Cents) := by
  have small : numeralValue decimals < 10 ^ decimals.length :=
    numeralValue_lt (List.all_eq_true.1 digits)
  have fraction := fractionValue_of_length_le places
  have hundred : fits (100 : Nat) = true := by decide
  have inRange {n : Nat} (below : n < 100) : checked? (n : Nat) = some (n : Cents) :=
    if_pos (fits_of_le (Int.natCast_nonneg n) (Int.ofNat_le.2 below.le) hundred)
  rw [numeralInSteps?_eq]
  -- The decimals are scaled by as many places as are missing; with none there is nothing to scale.
  obtain none | one | two : decimals.length = 0 ∨ decimals.length = 1 ∨ decimals.length = 2 := by
    omega
  · have zero : numeralValue decimals = 0 := Nat.lt_one_iff.1 (by rwa [none] at small)
    rw [fraction, zero, inRange (by decide), Option.bind_some, if_neg (by omega), Nat.zero_mul]
  · rw [one, pow_one] at small
    rw [fraction, one, inRange (by omega), Option.bind_some, if_pos rfl, times?]
    exact inRange (by omega)
  · rw [two] at small
    rw [fraction, two, inRange (by omega), Option.bind_some, if_neg (by decide)]
    congr 2
    omega

/-- Units and decimals come together exactly when the whole amount can be stored. -/
theorem whole_in_steps (units tail : Nat) :
    (checked? (units : Nat)).bind (fun whole => (times? whole 100).bind (add? · tail)) =
      checked? (units * 100 + tail : Nat) := by
  rw [← Option.bind_assoc, checked?_bind_times? (Int.natCast_nonneg _) (by decide),
    checked?_bind_add? (by positivity)]
  push_cast
  rfl

/-- The checked steps refuse just the amounts that are too large, and the unchecked ones stay in
    the range. -/
theorem amountInSteps?_eq (refusal : MoneyError) (negative : Bool) {units decimals : List Char}
    (digits : decimals.all isDigit = true) (places : decimals.length ≤ 2) :
    let cents : Cents := (numeralValue units * 100 + fractionValue 2 decimals : Nat)
    amountInSteps? refusal negative units decimals = some
      (if largest < cents then .error refusal else .ok (if negative then -cents else cents)) := by
  intro cents
  have least : 0 ≤ cents := Int.natCast_nonneg _
  have total := whole_in_steps (numeralValue units) (fractionValue 2 decimals)
  obtain ⟨tail, read, moved⟩ := Option.bind_eq_some_iff.1 (decimals_in_steps digits places)
  rw [checked?_of_nonneg least] at total
  rw [amountInSteps?, numeralInSteps?_eq units, read]
  by_cases large : largest < cents
  · rw [if_pos large] at total ⊢
    -- Either the units alone are too large, or they are once the decimals stand behind them.
    cases units : checked? (numeralValue units : Nat) with
    | none => rfl
    | some whole =>
        rw [units, Option.bind_some] at total
        simp only [moved, Option.bind_some, total]
  · rw [if_neg large] at total ⊢
    obtain ⟨whole, units, together⟩ := Option.bind_eq_some_iff.1 total
    simp only [units, moved, Option.bind_some, together]
    cases negative with
    | false => rfl
    | true => exact congrArg (Option.map _) (checked?_neg least (not_lt.1 large))

/-- However long a text is, reading it in 64-bit numbers goes wrong at no step. -/
theorem parseInSteps?_eq (input : String) : parseInSteps? input = some (parse input) := by
  rcases sign : splitSign (trim input.toList) with ⟨negative, body⟩
  rcases point : splitPoint body with ⟨units, decimals⟩
  simp only [parseInSteps?, parse, sign, point]
  split
  · rfl
  · next shape =>
    split
    · rfl
    · next places =>
      have digits : decimals.all isDigit = true := by tauto
      exact amountInSteps?_eq _ _ digits (not_lt.1 places)

/-! ## The reader -/

/-- What a text without blanks and sign has to be in order to be an amount, why it is refused
    otherwise, and which amount it is. Reading in 64-bit numbers comes to the same at every step. -/
theorem parse_classifies (input : String) :
    (parse input = .error (.notANumber input) ↔ ¬ IsDecimal (bodyOf input)) ∧
    (parse input = .error (.tooPrecise input) ↔
      IsDecimal (bodyOf input) ∧ 2 < decimalPlaces (bodyOf input)) ∧
    (parse input = .error (.outOfRange input) ↔
      IsDecimal (bodyOf input) ∧ decimalPlaces (bodyOf input) ≤ 2 ∧
        largest < decimalValue (bodyOf input) * 100) ∧
    (∀ amount, parse input = .ok amount ↔
      IsDecimal (bodyOf input) ∧ decimalPlaces (bodyOf input) ≤ 2 ∧
        decimalValue (bodyOf input) * 100 ≤ largest ∧
        amount = (if hasMinus input then -decimalValue (bodyOf input)
          else decimalValue (bodyOf input)) * 100) ∧
    parseInSteps? input = some (parse input) := by
  rw [parseInSteps?_eq, parse_eq]
  generalize bodyOf input = body
  by_cases decimal : IsDecimal body
  case neg => simp [decimal]
  rw [if_neg (not_not.2 decimal)]
  by_cases places : 2 < decimalPlaces body
  case pos => simp [decimal, places, not_le.2 places]
  have value := cast_ofBody (not_lt.1 places)
  have signed : (if hasMinus input then -decimalValue body else decimalValue body) * 100 =
      ((if hasMinus input then -(ofBody body : Cents) else ofBody body : Cents) : ℚ) := by
    cases hasMinus input <;> simp [value]
  rw [if_neg places, ← value, signed]
  generalize (if hasMinus input then -(ofBody body : Cents) else ofBody body) = read
  by_cases large : largest < ofBody body
  · have above : (largest : ℚ) < ofBody body := by exact_mod_cast large
    simp [decimal, not_lt.1 places, large, above]
  · have within : (ofBody body : ℚ) ≤ largest := by exact_mod_cast not_lt.1 large
    simp [decimal, places, not_lt.1 places, large, within, eq_comm]

/-! ## The written form -/

theorem splitSign_of_isDigit {c : Char} (digit : isDigit c = true) (cs : List Char) :
    splitSign (c :: cs) = (false, c :: cs) := by
  unfold splitSign
  split
  · next same => cases same; cases digit
  · next same => cases same; cases digit
  · rfl

/-- The digits and the point of an amount, without its sign. -/
def bodyChars (amount : Cents) : List Char :=
  numeral (amount.natAbs / 100) ++ '.' :: fixedNumeral 2 (amount.natAbs % 100)

theorem splitSign_chars (amount : Cents) :
    splitSign (chars amount) = (decide (amount < 0), bodyChars amount) := by
  by_cases negative : amount < 0
  · rw [chars, if_pos negative, decide_eq_true negative]
    rfl
  · rw [chars, if_neg negative, decide_eq_false negative, List.nil_append]
    -- The first character is a digit and so no sign.
    cases digits : numeral (amount.natAbs / 100) with
    | nil => exact absurd digits (numeral_ne_nil _)
    | cons c cs =>
        have digit : isDigit c = true :=
          List.all_eq_true.1 (digits ▸ all_isDigit_numeral _) c List.mem_cons_self
        rw [bodyChars, digits]
        exact splitSign_of_isDigit digit _

theorem splitPoint_bodyChars (amount : Cents) : splitPoint (bodyChars amount) =
    (numeral (amount.natAbs / 100), fixedNumeral 2 (amount.natAbs % 100)) := by
  have outside : '.' ∉ numeral (amount.natAbs / 100) := fun point =>
    Bool.false_ne_true (List.all_eq_true.1 (all_isDigit_numeral _) _ point)
  rw [splitPoint, bodyChars, splitFirst_append outside, Option.getD_some]

theorem isBlank_of_mem_chars (amount : Cents) : ∀ c ∈ chars amount, isBlank c = false := by
  have units : ∀ c ∈ numeral (amount.natAbs / 100), isBlank c = false := fun c member =>
    isBlank_of_isDigit (List.all_eq_true.1 (all_isDigit_numeral _) c member)
  have decimals : ∀ c ∈ fixedNumeral 2 (amount.natAbs % 100), isBlank c = false :=
    fun c member => isBlank_of_isDigit (isDigit_of_mem_fixedNumeral c member)
  simp only [chars, List.forall_mem_append, List.forall_mem_cons]
  refine ⟨⟨?_, units⟩, rfl, decimals⟩
  split
  · exact List.forall_mem_singleton.2 rfl
  · exact List.forall_mem_nil _

theorem trim_chars (amount : Cents) : trim (chars amount) = chars amount :=
  trim_of_forall amount.isBlank_of_mem_chars

@[simp] theorem trimmed_text (amount : Cents) : trimmed (text amount) = text amount := by
  rw [trimmed, text, String.toList_ofList, trim_chars]

theorem ofBody_bodyChars (amount : Cents) : ofBody (bodyChars amount) = amount.natAbs := by
  have places : (fixedNumeral 2 (amount.natAbs % 100)).length ≤ 2 := by simp
  have below : amount.natAbs % 100 < Nat.pow 10 2 := Nat.mod_lt _ (by decide)
  simp only [ofBody, splitPoint_bodyChars]
  rw [fractionValue_of_length_le places, numeralValue_numeral, numeralValue_fixedNumeral below,
    length_fixedNumeral]
  omega

/-- The range without its smallest amount is the range of sizes on both sides of zero. -/
theorem inside_iff (amount : Cents) :
    smallest < amount ∧ amount ≤ largest ↔ ¬ largest < (amount.natAbs : Cents) := by
  have sizes (n : Int) : -9223372036854775808 < n ∧ n ≤ 9223372036854775807 ↔
      ¬ 9223372036854775807 < (n.natAbs : Int) := by omega
  exact sizes amount

theorem sign_natAbs (amount : Cents) :
    (if amount < 0 then -(amount.natAbs : Cents) else amount.natAbs) = amount := by
  have size (n : Int) : (if n < 0 then -(n.natAbs : Int) else n.natAbs) = n := by
    split <;> omega
  exact size amount

/-- A written amount is read back unless its size is out of range. -/
theorem parse_text (amount : Cents) : parse (text amount) =
    if smallest < amount ∧ amount ≤ largest then .ok amount
    else .error (.outOfRange (text amount)) := by
  have point := splitPoint_bodyChars amount
  have decimal : IsDecimal (bodyChars amount) := by
    refine (isDecimal_iff_of_splitPoint point).2
      ⟨fun empty => numeral_ne_nil _ empty.1, all_isDigit_numeral _, ?_⟩
    exact List.all_eq_true.2 isDigit_of_mem_fixedNumeral
  have places : decimalPlaces (bodyChars amount) = 2 := by
    rw [decimalPlaces_of_splitPoint point, length_fixedNumeral]
  have sign : splitSign (trim (text amount).toList) = (decide (amount < 0), bodyChars amount) := by
    rw [text, String.toList_ofList, trim_chars, splitSign_chars]
  rw [parse_eq, bodyOf, hasMinus, sign, if_neg (not_not.2 decimal), places, if_neg (lt_irrefl 2),
    ofBody_bodyChars]
  simp only [inside_iff, ite_not, decide_eq_true_eq, sign_natAbs]

/-- What is printed for an amount is read back as that amount, by itself, as an argument of a
    command and as the value of a condition on a column of amounts. Only the smallest amount that
    can be stored is refused, because the range is checked before the sign is applied. -/
theorem text_read_back (amount : Cents) :
    parse (text amount) =
      (if smallest < amount ∧ amount ≤ largest then .ok amount
       else .error (.outOfRange (text amount))) ∧
    CommandLine.readAmount (text amount) =
      (if smallest < amount ∧ amount ≤ largest then .ok amount
       else .error (.invalidAmount (.unreadable (text amount) (.outOfRange (text amount))))) ∧
    ∀ name, Query.Field.parse ⟨name, .money⟩ (text amount) =
      if smallest < amount ∧ amount ≤ largest then .ok (.integer amount)
      else .error
        (.invalidValue name (text amount) (.notAnAmount (.outOfRange (text amount)))) := by
  have read := parse_text amount
  by_cases inside : smallest < amount ∧ amount ≤ largest
  · rw [if_pos inside] at read ⊢
    refine ⟨read, ?_, fun name => ?_⟩
    · rw [if_pos inside, CommandLine.readAmount, read]
    · rw [if_pos inside, Query.Field.parse, Query.FieldKind.parse, trimmed_text, read]
  · rw [if_neg inside] at read ⊢
    refine ⟨read, ?_, fun name => ?_⟩
    · rw [if_neg inside, CommandLine.readAmount, read]
    · rw [if_neg inside, Query.Field.parse, Query.FieldKind.parse, trimmed_text, read]

/-- The smallest amount can be stored, and what is printed for it is not read back. -/
theorem smallest_not_read_back :
    fits smallest = true ∧ text smallest = "-92233720368547758.08" ∧
      parse "-92233720368547758.08" = .error (.outOfRange "-92233720368547758.08") ∧
      parse "-92233720368547758.08" ≠ .ok smallest := by
  decide +kernel

end Purse.Cents
