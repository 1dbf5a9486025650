/-
  Purse.Proofs.Codec.Years

  How far the stored form of instants can be relied on.  In years that are written with four
  digits and no sign the text is read back (`parse?_text`), and texts compare as the instants do
  to the whole second.  Any other year has a sign in front.  Such a text is not read back
  (`parse?_text_of_signed`) and comes before all texts without a sign (`text_lt_of_signed`), which
  is right for a year before 0 and wrong for one after 9999.  A caller can write such years, as a
  bare date or with an offset across the end of a year.
-/
import Purse.Proofs.Codec.Order
import Purse.Proofs.Text.Trim

namespace Purse.Instant

open Text

/-! ## Signs -/

/-- A year that is not plain has a sign. -/
theorem exists_sign {t : Instant} (signed : ¬ t.InPlainYear) :
    ∃ sign rest, (sign = '+' ∨ sign = '-') ∧ t.chars = sign :: rest := by
  have year : yearChars t.date.year =
      (if t.date.year < 0 then '-' else '+') :: paddedNumeral 4 t.date.year.natAbs :=
    if_neg signed
  rw [chars, dateChars, year, List.cons_append, List.cons_append]
  refine ⟨_, _, ?_, rfl⟩
  split
  · exact .inr rfl
  · exact .inl rfl

/-- A text with a sign comes before every text without one. -/
theorem text_lt_of_signed {s t : Instant} (signed : ¬ s.InPlainYear) (plain : t.InPlainYear) :
    s.text < t.text := by
  obtain ⟨sign, rest, which, text⟩ := exists_sign signed
  -- The first digit of the plain year decides.
  have first : ∀ d < 10, '+' < digitChar d ∧ '-' < digitChar d := by decide
  have digit := first (t.date.year.toNat / 10 / 10 / 10 % 10) (Nat.mod_lt _ (by decide))
  rw [String.lt_iff_toList_lt, Instant.text, Instant.text, String.toList_ofList,
    String.toList_ofList, text, chars_of_inPlainYear plain]
  refine List.cons_lt_cons_iff.2 (.inl ?_)
  rcases which with rfl | rfl
  · exact digit.1
  · exact digit.2

/-! ## Reading -/

theorem isBlank_of_mem_chars (t : Instant) : ∀ c ∈ t.chars, isBlank c = false := by
  have pair {n : Nat} : ∀ c ∈ fixedNumeral 2 n, isBlank c = false := fun c member =>
    isBlank_of_isDigit (isDigit_of_mem_fixedNumeral c member)
  have year : ∀ c ∈ yearChars t.date.year, isBlank c = false := by
    unfold yearChars
    split
    · exact fun c member => isBlank_of_isDigit (isDigit_of_mem_fixedNumeral c member)
    · refine List.forall_mem_cons.2 ⟨by split <;> rfl, fun c member => ?_⟩
      exact isBlank_of_isDigit (isDigit_of_mem_paddedNumeral c member)
  simp only [chars, dateChars, clockChars, List.append_assoc, List.cons_append,
    List.forall_mem_append, List.forall_mem_cons]
  exact ⟨year, rfl, pair, rfl, pair, rfl, pair, rfl, pair, rfl, pair, rfl, List.forall_mem_nil _⟩

/-- The stored form has no blanks to be dropped. -/
@[simp] theorem trimmed_text (t : Instant) : trimmed t.text = t.text := by
  rw [trimmed, text, String.toList_ofList, trim_of_forall t.isBlank_of_mem_chars]

/-- Digits that were read stood in front of what is left. -/
theorem exists_digits_of_takeDigits {most n : Nat} {cs rest : List Char}
    (taken : takeDigits most cs = some (n, rest)) :
    ∃ digits, digits ≠ [] ∧ (∀ c ∈ digits, isDigit c = true) ∧ digits ++ rest = cs := by
  unfold takeDigits at taken
  dsimp only at taken
  split at taken
  · cases taken
  · next filled =>
      obtain ⟨-, rfl⟩ := Prod.mk.inj (Option.some.inj taken)
      have front : (cs.take most).takeWhile isDigit <+: cs :=
        (List.takeWhile_prefix isDigit).trans (List.take_prefix most cs)
      exact ⟨_, filled, fun c member => List.mem_takeWhile_imp member,
        List.prefix_iff_eq_append.1 front⟩

theorem suffix_of_takeDigits {most n : Nat} {cs rest : List Char}
    (taken : takeDigits most cs = some (n, rest)) : rest <:+ cs := by
  obtain ⟨digits, -, -, rfl⟩ := exists_digits_of_takeDigits taken
  exact List.suffix_append digits rest

theorem suffix_of_takeMark {mark : Char} {cs rest : List Char}
    (taken : takeMark mark cs = some rest) : rest <:+ cs := by
  cases cs with
  | nil => cases taken
  | cons c cs =>
      simp only [takeMark, Option.ite_none_right_eq_some, Option.some.injEq] at taken
      obtain ⟨-, rfl⟩ := taken
      exact List.suffix_cons c cs

theorem suffix_of_takeYear {year : Int} {cs rest : List Char}
    (taken : takeYear cs = some (year, rest)) : rest <:+ cs := by
  unfold takeYear at taken
  -- The digits of the year stand behind its sign, or at the start.
  split at taken <;> obtain ⟨⟨n, left⟩, digits, same⟩ := Option.map_eq_some_iff.1 taken <;>
    obtain ⟨-, rfl⟩ := Prod.mk.inj same
  · exact (suffix_of_takeDigits digits).trans (List.suffix_cons _ _)
  · exact (suffix_of_takeDigits digits).trans (List.suffix_cons _ _)
  · exact suffix_of_takeDigits digits

/-- A bare date ends in a digit. -/
theorem exists_digits_of_ofBareDate? {cs : List Char} {t : Instant}
    (read : ofBareDate? cs = some t) :
    ∃ digits, digits ≠ [] ∧ (∀ c ∈ digits, isDigit c = true) ∧ digits <:+ cs := by
  simp only [ofBareDate?, takeDate, Option.bind_eq_bind, Option.bind_eq_some_iff, Prod.exists,
    Option.some.injEq, Prod.mk.injEq, Bool.false_eq_true, if_false] at read
  obtain ⟨_, _, ⟨_, behindYear, year, behindMark, mark, _, behindMonth, month, behindMark', mark',
    _, _, day, -, rfl⟩, last⟩ := read
  split at last
  · next nothing =>
      subst nothing
      obtain ⟨digits, filled, all, same⟩ := exists_digits_of_takeDigits day
      rw [List.append_nil] at same
      refine ⟨digits, filled, all, ?_⟩
      -- Each part that was read stands in front of the parts behind it.
      have blanks (cs : List Char) : trimFront cs <:+ cs := List.dropWhile_suffix isBlank
      have inDay : digits <:+ behindMark' := same ▸ blanks behindMark'
      have inMonth : behindMark' <:+ behindMark :=
        (suffix_of_takeMark mark').trans ((suffix_of_takeDigits month).trans (blanks behindMark))
      have inYear : behindMark <:+ cs :=
        (suffix_of_takeMark mark).trans ((suffix_of_takeYear year).trans (blanks cs))
      exact inDay.trans (inMonth.trans inYear)
  · cases last

/-- A text with a sign is no instant: the long form has none, and a bare date has no time of day
    behind it. -/
theorem parse?_text_of_signed {t : Instant} (signed : ¬ t.InPlainYear) : parse? t.text = none := by
  obtain ⟨sign, rest, which, text⟩ := exists_sign signed
  rw [parse?, Instant.text, String.toList_ofList, Option.or_eq_none_iff]
  constructor
  · have noDigit : isDigit sign = false := by rcases which with rfl | rfl <;> rfl
    have noYear : takeFour (sign :: rest) = none := by
      cases rest with
      | nil => rfl
      | cons c rest => simp [takeFour, takePair, noDigit]
    rw [text, ofLongForm?, noYear]
    rfl
  · cases read : ofBareDate? t.chars with
    | none => rfl
    | some u =>
        obtain ⟨digits, filled, all, back⟩ := exists_digits_of_ofBareDate? read
        -- The last character is the mark of the zone.
        have zone : ['Z'] <:+ t.chars := List.suffix_append _ _
        have last : digits.getLast filled = 'Z' := by
          rw [back.getLast filled, ← zone.getLast (List.cons_ne_nil _ _), List.getLast_singleton]
        have digit := all _ (List.getLast_mem filled)
        rw [last] at digit
        cases digit

/-- In a plain year the text is read back to the whole second. -/
theorem parse?_text {t : Instant} (h : t.WellFormed) (plain : t.InPlainYear) :
    parse? t.text = some t.truncate := by
  have long : ofLongForm? t.text.toList = some t.truncate := ofStored?_text h plain
  rw [parse?, long, Option.some_or]

/-! ## Order -/

theorem year_mono {s t : Instant} (h : s.second ≤ t.second) : s.date.year ≤ t.date.year := by
  have days : s.second / daySeconds ≤ t.second / daySeconds := Int.ediv_le_ediv (by decide) h
  rcases lt_or_eq_of_le days with before | same
  · rcases Date.ofDay_lt before with earlier | ⟨equal, -⟩
    · exact le_of_lt earlier
    · exact le_of_eq equal
  · exact le_of_eq (congrArg (fun day => (Date.ofDay day).year) same)

/-- An instant of a signed year is before those of the plain ones exactly when its year is before
    year 0. -/
theorem truncate_lt_of_signed {s t : Instant} (signed : ¬ s.InPlainYear) (plain : t.InPlainYear) :
    s.truncate < t.truncate ↔ s.date.year < 0 := by
  have first := plain.1
  have last := plain.2
  constructor
  · intro earlier
    have years : s.date.year ≤ t.date.year :=
      year_mono (earlier.elim Int.le_of_lt fun same => Int.le_of_eq same.1)
    by_contra notBefore
    exact signed ⟨by omega, by omega⟩
  · intro before
    left
    by_contra later
    have years : t.date.year ≤ s.date.year := year_mono (Int.not_lt.1 later)
    omega

/-- Texts of two instants that callers write, in plain years, compare as the instants do to the
    whole second. The text of a signed year comes before that of a plain one, which is the order of
    the instants only before year 0. -/
theorem text_order_of_read {r s : String} {a b : Instant} (readA : parse? r = some a)
    (readB : parse? s = some b) :
    (a.InPlainYear → b.InPlainYear →
      (a.text < b.text ↔ a.truncate < b.truncate) ∧ (a.text = b.text ↔ a.truncate = b.truncate) ∧
        (b.text < a.text ↔ b.truncate < a.truncate)) ∧
    (¬ a.InPlainYear → b.InPlainYear →
      a.text < b.text ∧ (a.truncate < b.truncate ↔ a.date.year < 0)) := by
  constructor
  · intro plainA plainB
    -- The texts are those of the whole seconds.
    have storableA := storable_truncate (wellFormed_of_parse? readA) plainA
    have storableB := storable_truncate (wellFormed_of_parse? readB) plainB
    rw [← text_truncate a, ← text_truncate b]
    exact ⟨text_lt storableA storableB, text_inj storableA storableB, text_lt storableB storableA⟩
  · exact fun signed plain => ⟨text_lt_of_signed signed plain, truncate_lt_of_signed signed plain⟩

/-- A leap second is written behind the second that it prolongs, whatever the offset. -/
theorem text_order_of_leapSecond :
    ∃ a b : Instant, parse? "2023-12-31T23:59:60.25Z" = some a ∧
      parse? "2024-01-01T00:59:59+01:00" = some b ∧ b.truncate < a.truncate ∧ b.text < a.text := by
  have readA : parse? "2023-12-31T23:59:60.25Z" = some ⟨1704067199, 1250000000⟩ := by
    decide +kernel
  have readB : parse? "2024-01-01T00:59:59+01:00" = some ⟨1704067199, 0⟩ := by decide +kernel
  have order := (text_order_of_read readA readB).1 ⟨by decide, by decide⟩ ⟨by decide, by decide⟩
  exact ⟨_, _, readA, readB, by decide, order.2.2.2 (by decide)⟩

/-- Year 10000 is after year 2024, but its text comes first. -/
theorem text_order_fails_after_9999 :
    ∃ a b : Instant, parse? "2024-01-01" = some a ∧ parse? "+10000-01-01" = some b ∧
      a.truncate < b.truncate ∧ b.text < a.text ∧ ¬ a.text < b.text :=
  ⟨⟨1704067200, 0⟩, ⟨253402300800, 0⟩, by decide +kernel, by decide +kernel, by decide,
    by decide +kernel, by decide +kernel⟩

end Purse.Instant
