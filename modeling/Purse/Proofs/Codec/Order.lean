/-
  Purse.Proofs.Codec.Order

  Written forms order as what they stand for.  The text of an identifier is before another one
  exactly when its number is smaller (`Ident.text_lt`), and the stored form of an instant exactly
  when the instant is earlier (`Instant.text_lt`), a leap second after the second it extends.

  Both forms are made of numbers of a fixed width, so everything rests on two facts: such a
  numeral grows with its number (`lt_of_digits`), and of two texts that start with numerals of one
  width the first numerals decide if they differ (`append_lt_append_iff`).
-/
import Mathlib.Data.List.Lex
import Mathlib.Data.String.Basic
import Mathlib.Order.Monotone.Basic
import Purse.Proofs.Codec.Record

namespace Purse.Text

/-! ## Texts with a common width -/

theorem append_lt_append_iff {a b : List Char} (same : a.length = b.length) (x y : List Char) :
    a ++ x < b ++ y ↔ a < b ∨ a = b ∧ x < y := by
  induction a generalizing b with
  | nil =>
      have empty : b = [] := List.length_eq_zero_iff.1 same.symm
      subst empty
      simp
  | cons c a ih =>
      cases b with
      | nil => simp at same
      | cons d b =>
          have rest : a.length = b.length := Nat.succ.inj same
          rw [List.cons_append, List.cons_append, List.cons_lt_cons_iff, List.cons_lt_cons_iff,
            ih rest, List.cons.injEq]
          tauto

/-- Numerals of a fixed width grow with their numbers, in any base whose digits do. -/
theorem lt_of_digits {base : Nat} {digit : Nat → Char} {write : Nat → Nat → List Char}
    (start : ∀ n, write 0 n = [])
    (step : ∀ width n, write (width + 1) n = write width (n / base) ++ [digit (n % base)])
    (digits : ∀ a b, a < b → b < base → digit a < digit b) {width n m : Nat} (h : n < m)
    (fits : m < base ^ width) : write width n < write width m := by
  -- On the width: a wider numeral is a numeral with one digit behind it.
  induction width generalizing n m with
  | zero =>
      rw [Nat.pow_zero] at fits
      omega
  | succ width ih =>
      have positive : 0 < base := by
        rcases Nat.eq_zero_or_pos base with rfl | positive
        · simp at fits
        · exact positive
      have length (k : Nat) : (write width k).length = width := by
        clear ih fits
        induction width generalizing k with
        | zero => rw [start, List.length_nil]
        | succ width ih => rw [step, List.length_append, ih, List.length_singleton]
      rw [step, step, append_lt_append_iff ((length _).trans (length _).symm)]
      -- Either a digit before the last one differs, or only the last one does.
      rcases Nat.lt_or_ge (n / base) (m / base) with before | atLeast
      · have small : m / base < base ^ width := by
          apply Nat.div_lt_of_lt_mul
          rwa [Nat.pow_succ, Nat.mul_comm] at fits
        exact .inl (ih before small)
      · have equal : n / base = m / base :=
          Nat.le_antisymm (Nat.div_le_div_right (Nat.le_of_lt h)) atLeast
        have last : n % base < m % base := by
          have hn := Nat.div_add_mod n base
          have hm := Nat.div_add_mod m base
          rw [equal] at hn
          omega
        refine .inr ⟨congrArg (write width) equal, ?_⟩
        exact List.cons_lt_cons_iff.2 (.inl (digits _ _ last (Nat.mod_lt m positive)))

theorem digitChar_lt {a b : Nat} (h : a < b) (hb : b < 10) : digitChar a < digitChar b := by
  have all : ∀ b < 10, ∀ a < b, digitChar a < digitChar b := by decide
  exact all b hb a h

theorem hexDigit_lt {a b : Nat} (h : a < b) (hb : b < 16) : hexDigit a < hexDigit b := by
  have all : ∀ b < 16, ∀ a < b, hexDigit a < hexDigit b := by decide
  exact all b hb a h

theorem fixedNumeral_lt {width n m : Nat} (h : n < m) (fits : m < 10 ^ width) :
    fixedNumeral width n < fixedNumeral width m :=
  lt_of_digits (fun _ => rfl) (fun _ _ => rfl) (fun _ _ => digitChar_lt) h fits

/-- Of two texts that start with numerals of one width, the one with the smaller number comes
    first; equal numbers leave it to what stands behind them. -/
theorem fixedNumeral_append_lt {width n m : Nat} {x y : List Char} (fits : m < 10 ^ width)
    (h : n < m ∨ n = m ∧ x < y) (c : Char) :
    fixedNumeral width n ++ c :: x < fixedNumeral width m ++ c :: y := by
  rw [append_lt_append_iff (by rw [length_fixedNumeral, length_fixedNumeral])]
  rcases h with smaller | ⟨rfl, rest⟩
  · exact .inl (fixedNumeral_lt smaller fits)
  · exact .inr ⟨rfl, List.cons_lt_cons_iff.2 (.inr ⟨rfl, rest⟩)⟩

end Purse.Text

namespace Purse.Ident

open Text

/-! ## Identifiers -/

theorem fixedHex_lt {width n m : Nat} (h : n < m) (fits : m < 16 ^ width) :
    fixedHex width n < fixedHex width m :=
  lt_of_digits (fun _ => rfl) (fun _ _ => rfl) (fun _ _ => hexDigit_lt) h fits

/-- Hyphens at the same places change nothing in the order. -/
theorem hyphenate_lt {ns : List Nat} {cs ds : List Char} (same : cs.length = ds.length)
    (h : cs < ds) : hyphenate ns cs < hyphenate ns ds := by
  induction ns generalizing cs ds with
  | nil => exact h
  | cons n ns ih =>
      cases ns with
      | nil => exact h
      | cons m ns =>
          have front : (cs.take n).length = (ds.take n).length := by
            rw [List.length_take, List.length_take, same]
          have back : (cs.drop n).length = (ds.drop n).length := by
            rw [List.length_drop, List.length_drop, same]
          rw [← List.take_append_drop n cs, ← List.take_append_drop n ds,
            append_lt_append_iff front] at h
          rw [hyphenate_cons_cons, hyphenate_cons_cons, append_lt_append_iff front]
          -- The first group decides, or the groups behind it do.
          rcases h with first | ⟨equal, rest⟩
          · exact .inl first
          · exact .inr ⟨equal, List.cons_lt_cons_iff.2 (.inr ⟨rfl, ih back rest⟩)⟩

theorem text_lt_of_lt {a b : Ident} (h : a < b) : a.text < b.text := by
  have digits : fixedHex 32 a.value < fixedHex 32 b.value :=
    fixedHex_lt h (by simpa [identCount] using b.value_lt)
  have grouped : a.chars < b.chars :=
    hyphenate_lt ((length_fixedHex 32 _).trans (length_fixedHex 32 _).symm) digits
  rwa [String.lt_iff_toList_lt, text, text, String.toList_ofList, String.toList_ofList]

/-- Identifiers order as their texts. -/
theorem text_lt {a b : Ident} : a.text < b.text ↔ a < b := by
  constructor
  · intro h
    rcases Nat.lt_trichotomy a.value b.value with smaller | equal | greater
    · exact smaller
    · rw [ext_value equal] at h
      exact absurd h (lt_irrefl _)
    · exact absurd h (lt_asymm (text_lt_of_lt greater))
  · exact text_lt_of_lt

end Purse.Ident

namespace Purse.Date

/-! ## Dates -/

theorem daysBeforeYear_mono {a b : Int} (h : a ≤ b) : daysBeforeYear a ≤ daysBeforeYear b := by
  simp only [daysBeforeYear]
  omega

theorem yearOf_mono {a b : Int} (h : a < b) : yearOf a ≤ yearOf b := by
  have starts := (daysBeforeYear_yearOf a).1
  have ends := (daysBeforeYear_yearOf b).2
  by_contra later
  have next : yearOf b + 1 ≤ yearOf a := by omega
  have := daysBeforeYear_mono next
  omega

theorem le_monthAndDay (month : Nat) (lengths : List Nat) (n : Nat) :
    month ≤ (monthAndDay month lengths n).1 := by
  induction lengths generalizing month n with
  | nil => exact Nat.le_refl month
  | cons length lengths ih =>
      rw [monthAndDay]
      split
      · exact Nat.le_refl month
      · exact Nat.le_trans (Nat.le_succ month) (ih (month + 1) (n - length))

/-- A later day lies in a later month, or later in the same month. -/
theorem monthAndDay_lt {lengths : List Nat} {n m : Nat} (h : n < m) (month : Nat) :
    (monthAndDay month lengths n).1 < (monthAndDay month lengths m).1 ∨
      (monthAndDay month lengths n).1 = (monthAndDay month lengths m).1 ∧
        (monthAndDay month lengths n).2 < (monthAndDay month lengths m).2 := by
  induction lengths generalizing month n m with
  | nil => exact .inr ⟨rfl, Nat.succ_lt_succ h⟩
  | cons length lengths ih =>
      rw [monthAndDay, monthAndDay]
      by_cases inside : m < length
      · rw [if_pos inside, if_pos (Nat.lt_trans h inside)]
        exact .inr ⟨rfl, Nat.succ_lt_succ h⟩
      · rw [if_neg inside]
        split
        -- The first day lies in this month and the second one in a later month.
        · exact .inl (le_monthAndDay (month + 1) lengths (m - length))
        · exact ih (by omega) (month + 1)

/-- A later day has a later date: year, month and day of the month in this order. -/
theorem ofDay_lt {a b : Int} (h : a < b) :
    (ofDay a).year < (ofDay b).year ∨ (ofDay a).year = (ofDay b).year ∧
      ((ofDay a).month < (ofDay b).month ∨
        (ofDay a).month = (ofDay b).month ∧ (ofDay a).day < (ofDay b).day) := by
  have shifted : a + epochDay < b + epochDay := by omega
  rcases lt_or_eq_of_le (yearOf_mono shifted) with earlier | equal
  · exact .inl earlier
  · refine .inr ⟨equal, ?_⟩
    have starts := (daysBeforeYear_yearOf (a + epochDay)).1
    have inside : (a + epochDay - daysBeforeYear (yearOf (a + epochDay))).toNat <
        (b + epochDay - daysBeforeYear (yearOf (b + epochDay))).toNat := by
      rw [← equal]
      omega
    simp only [ofDay, equal] at inside ⊢
    exact monthAndDay_lt inside 1

end Purse.Date

namespace Purse.Instant

open Text

/-! ## Instants -/

/-- Hour, minute and second of a later second of the day are later, in this order. A leap second
    counts on in its minute, of which it prolongs the last second. -/
theorem clock_lt {s s' leap leap' : Nat} (last : leap = 0 ∨ leap = 1 ∧ s % 60 = 59)
    (h : s < s' ∨ s = s' ∧ leap < leap') :
    s / 3600 < s' / 3600 ∨ s / 3600 = s' / 3600 ∧ (s / 60 % 60 < s' / 60 % 60 ∨
      s / 60 % 60 = s' / 60 % 60 ∧ s % 60 + leap < s' % 60 + leap') := by
  rcases h with earlier | ⟨rfl, leaps⟩
  · rcases last with rfl | ⟨rfl, ends⟩ <;> omega
  · exact .inr ⟨rfl, .inr ⟨rfl, Nat.add_lt_add_left leaps _⟩⟩

theorem secondOfDay_eq (t : Instant) : (t.secondOfDay : Int) = t.second % 86400 :=
  Int.toNat_of_nonneg (Int.emod_nonneg _ (by decide))

theorem leap_of_wellFormed {t : Instant} (h : t.WellFormed) :
    t.nano / secondNanos = 0 ∨ t.nano / secondNanos = 1 ∧ t.secondOfDay % 60 = 59 := by
  have inside := secondOfDay_eq t
  rcases h with plain | ⟨last, leap⟩
  · exact .inl (Nat.div_eq_of_lt plain)
  · simp only [secondNanos] at leap ⊢
    omega

/-- The stored form of an earlier instant comes first. -/
theorem chars_lt_of_lt {a b : Instant} (ha : a.Storable) (hb : b.Storable) (h : a < b) :
    a.chars < b.chars := by
  have yearA : (a.date.year.toNat : Int) = a.date.year := Int.toNat_of_nonneg ha.inPlainYear.1
  have yearB : (b.date.year.toNat : Int) = b.date.year := Int.toNat_of_nonneg hb.inPlainYear.1
  have year : b.date.year.toNat < 10 ^ 4 := by
    have := hb.inPlainYear.2
    omega
  have month : b.date.month < 10 ^ 2 := (Date.ofDay_lt_hundred _).1
  have day : b.date.day < 10 ^ 2 := (Date.ofDay_lt_hundred _).2
  have insideA := secondOfDay_eq a
  have insideB := secondOfDay_eq b
  have hour : b.secondOfDay / 3600 < 10 ^ 2 := by omega
  have minute : b.secondOfDay / 60 % 60 < 10 ^ 2 := by omega
  have second : b.secondOfDay % 60 + b.nano / secondNanos < 10 ^ 2 := by
    have := leap_of_wellFormed hb.wellFormed
    omega
  -- Whole instants differ in their second, or one of them is the leap second behind the other.
  have wholeA : a.nano / secondNanos * secondNanos = a.nano := congrArg Instant.nano ha.whole
  have wholeB : b.nano / secondNanos * secondNanos = b.nano := congrArg Instant.nano hb.whole
  have earlier : a.second < b.second ∨
      a.second = b.second ∧ a.nano / secondNanos < b.nano / secondNanos := by
    refine h.imp_right (And.imp_right fun nanos => ?_)
    rw [← wholeA, ← wholeB] at nanos
    exact Nat.lt_of_mul_lt_mul_right nanos
  rw [chars_of_inPlainYear ha.inPlainYear, chars_of_inPlainYear hb.inPlainYear]
  have days : a.second / daySeconds ≤ b.second / daySeconds :=
    Int.ediv_le_ediv (by decide) (by omega)
  rcases lt_or_eq_of_le days with before | same
  -- On different days the dates decide.
  · refine fixedNumeral_append_lt year ?_ '-'
    rcases Date.ofDay_lt before with years | ⟨years, rest⟩
    · left
      simp only [date] at yearA yearB ⊢
      omega
    · refine .inr ⟨congrArg Int.toNat years, fixedNumeral_append_lt month ?_ '-'⟩
      refine rest.imp_right (And.imp_right fun dayOfMonth => ?_)
      exact fixedNumeral_append_lt day (.inl dayOfMonth) 'T'
  -- On the same day the times of day do.
  · have dates : a.date = b.date := congrArg Date.ofDay same
    have inDay : a.secondOfDay < b.secondOfDay ∨
        a.secondOfDay = b.secondOfDay ∧ a.nano / secondNanos < b.nano / secondNanos := by
      simp only [daySeconds] at same
      refine earlier.imp (fun seconds => ?_) (And.imp_left fun seconds => ?_) <;> omega
    have clocks := clock_lt (leap_of_wellFormed ha.wellFormed) inDay
    rw [dates]
    refine fixedNumeral_append_lt year (.inr ⟨rfl, ?_⟩) '-'
    refine fixedNumeral_append_lt month (.inr ⟨rfl, ?_⟩) '-'
    refine fixedNumeral_append_lt day (.inr ⟨rfl, ?_⟩) 'T'
    refine fixedNumeral_append_lt hour (clocks.imp_right (And.imp_right fun rest => ?_)) ':'
    refine fixedNumeral_append_lt minute (rest.imp_right (And.imp_right fun seconds => ?_)) ':'
    exact fixedNumeral_append_lt second (.inl seconds) 'Z'

theorem text_lt_of_lt {a b : Instant} (ha : a.Storable) (hb : b.Storable) (h : a < b) :
    a.text < b.text := by
  rw [String.lt_iff_toList_lt, text, text, String.toList_ofList, String.toList_ofList]
  exact chars_lt_of_lt ha hb h

theorem text_truncate (t : Instant) : t.truncate.text = t.text :=
  congrArg String.ofList t.chars_truncate

/-- Different instants have different stored forms. -/
theorem text_inj {a b : Instant} (ha : a.Storable) (hb : b.Storable) :
    a.text = b.text ↔ a = b := by
  constructor
  · intro h
    have same := congrArg ofStored? h
    rw [ofStored?_text ha.wellFormed ha.inPlainYear, ofStored?_text hb.wellFormed hb.inPlainYear,
      ha.whole, hb.whole] at same
    exact Option.some.inj same
  · rintro rfl
    rfl

/-- What is not before an instant is that instant or comes after it. -/
theorem not_lt_iff {a b : Instant} : ¬ a < b ↔ a = b ∨ b < a := by
  obtain ⟨s, n⟩ := a
  obtain ⟨s', n'⟩ := b
  change ¬(s < s' ∨ s = s' ∧ n < n') ↔ _ ∨ (s' < s ∨ s' = s ∧ n' < n)
  rw [Instant.mk.injEq]
  omega

theorem not_lt_trans {a b c : Instant} (first : ¬ b < a) (second : ¬ c < b) : ¬ c < a := by
  change ¬ (_ ∨ _ ∧ _) at first second ⊢
  omega

/-- Instants order as their stored forms. -/
theorem text_lt {a b : Instant} (ha : a.Storable) (hb : b.Storable) :
    a.text < b.text ↔ a < b := by
  constructor
  · intro h
    -- Of two different instants one is earlier, and its text comes first.
    by_contra notEarlier
    rcases not_lt_iff.1 notEarlier with same | later
    · exact lt_irrefl _ (same ▸ h)
    · exact lt_asymm h (text_lt_of_lt hb ha later)
  · exact text_lt_of_lt ha hb

end Purse.Instant
