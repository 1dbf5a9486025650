/-
  Purse.Proofs.Codec.Instant

  Instants and their stored form.  `ofStored?_text` says that reading the stored form gives the
  instant back to the whole second, for every instant that a clock can show in a year that is
  written with four digits.  A leap second is written as second 60 and read back as one.  What a
  caller writes is always an instant that a clock can show (`wellFormed_of_parse?`).
-/
import Mathlib.Data.List.TakeWhile
import Purse.Instant.Reader
import Purse.Proofs.Codec.Calendar
import Purse.Proofs.Text.Digits

namespace Purse.Instant

open Text

/-! ## Numbers of a fixed width -/

theorem takePair_fixedNumeral {n : Nat} (h : n < 100) (rest : List Char) :
    takePair (fixedNumeral 2 n ++ rest) = some (n, rest) := by
  have hvalue : numeralValue (fixedNumeral 2 n) = n := numeralValue_fixedNumeral h
  have htens : isDigit (digitChar (n / 10 % 10)) = true := isDigit_digitChar (by omega)
  have hones : isDigit (digitChar (n % 10)) = true := isDigit_digitChar (by omega)
  simp only [fixedNumeral, List.nil_append, List.cons_append] at hvalue ⊢
  simp [takePair, htens, hones, hvalue]

theorem fixedNumeral_four (n : Nat) :
    fixedNumeral 4 n = fixedNumeral 2 (n / 100) ++ fixedNumeral 2 (n % 100) := by
  have hhundreds : n / 10 / 10 = n / 100 := by omega
  have hthousands : n / 10 / 10 / 10 = n / 100 / 10 := by omega
  have htens : n / 10 % 10 = n % 100 / 10 % 10 := by omega
  have hones : n % 10 = n % 100 % 10 := by omega
  simp only [fixedNumeral, List.nil_append, List.cons_append]
  rw [hthousands, hhundreds, htens, hones]

theorem takeFour_fixedNumeral {n : Nat} (h : n < 10000) (rest : List Char) :
    takeFour (fixedNumeral 4 n ++ rest) = some (n, rest) := by
  simp only [takeFour, fixedNumeral_four, List.append_assoc]
  rw [takePair_fixedNumeral (by omega), Option.bind_eq_bind, Option.bind_some,
    takePair_fixedNumeral (by omega)]
  simp only [Option.bind_some, Option.some.injEq, Prod.mk.injEq, and_true]
  omega

@[simp] theorem takeMark_self (mark : Char) (rest : List Char) :
    takeMark mark (mark :: rest) = some rest := by
  simp [takeMark]

/-! ## The stored form -/

/-- The stored form of an instant in a plain year, number by number. -/
theorem chars_of_inPlainYear {t : Instant} (h : t.InPlainYear) :
    t.chars = fixedNumeral 4 t.date.year.toNat ++ '-' :: (fixedNumeral 2 t.date.month ++
      '-' :: (fixedNumeral 2 t.date.day ++ 'T' :: (fixedNumeral 2 (t.secondOfDay / 3600) ++
        ':' :: (fixedNumeral 2 (t.secondOfDay / 60 % 60) ++
          ':' :: (fixedNumeral 2 (t.secondOfDay % 60 + t.nano / secondNanos) ++ ['Z']))))) := by
  have hyear : yearChars t.date.year = fixedNumeral 4 t.date.year.toNat := if_pos h
  simp [chars, dateChars, clockChars, hyear]

/-- The date does not depend on the part below the second. -/
theorem date_mk_second (t : Instant) (nano : Nat) :
    (⟨t.second, nano⟩ : Instant).date = t.date := by
  cases t
  rfl

/-- Putting together the parts that the stored form of an instant shows gives the instant to the
    whole second. -/
theorem ofParts?_of_wellFormed {t : Instant} (h : t.WellFormed) (hy : t.InPlainYear) :
    ofParts? t.date (t.secondOfDay / 3600) (t.secondOfDay / 60 % 60)
      (t.secondOfDay % 60 + t.nano / secondNanos) 0 0 = some t.truncate := by
  have hday : t.date.dayNumber = t.second / daySeconds := Date.dayNumber_ofDay _
  have hexists : t.date.exists? = true := Date.exists?_ofDay _
  have hinside : (t.secondOfDay : Int) = t.second % daySeconds :=
    Int.toNat_of_nonneg (Int.emod_nonneg _ (by decide))
  -- Only the last second of a minute can be prolonged, so the leap second is second 60.
  have hleap : (t.secondOfDay % 60 + t.nano / secondNanos) / 60 = t.nano / secondNanos ∧
      t.secondOfDay % 60 + t.nano / secondNanos ≤ 60 := by
    simp only [daySeconds] at hinside
    rcases h with hplain | ⟨hlast, hnano⟩
    · simp only [secondNanos] at hplain ⊢
      omega
    · simp only [secondNanos] at hnano ⊢
      omega
  -- The parts of the time of day make up the second again.
  have hsecond : t.date.dayNumber * daySeconds + (3600 * (t.secondOfDay / 3600) +
      60 * (t.secondOfDay / 60 % 60) + (t.secondOfDay % 60 + t.nano / secondNanos -
        (t.secondOfDay % 60 + t.nano / secondNanos) / 60) : Nat) - 0 = t.second := by
    rw [hday, hleap.1]
    simp only [daySeconds] at hinside ⊢
    omega
  -- A plain year is one that the calendar has, and the time of day is one of a day.
  have hfirst : Date.firstYear ≤ t.date.year := Int.le_trans (by decide) hy.1
  have hlast : t.date.year ≤ Date.lastYear := Int.le_trans hy.2 (by decide)
  have hhour : t.secondOfDay / 3600 ≤ 23 := by
    simp only [daySeconds] at hinside
    omega
  have hminute : t.secondOfDay / 60 % 60 ≤ 59 := by omega
  rw [ofParts?, if_pos ⟨hexists, hfirst, hlast, hhour, hminute, hleap.2⟩]
  simp only [hsecond, date_mk_second]
  rw [if_pos ⟨hfirst, hlast⟩]
  simp only [truncate, hleap.1, Nat.zero_add]

/-- Reading the stored form of an instant gives it back to the whole second. -/
theorem ofStored?_text {t : Instant} (h : t.WellFormed) (hy : t.InPlainYear) :
    ofStored? t.text = some t.truncate := by
  -- Every number fits the digits that it is written with.
  have hyear : t.date.year.toNat < 10000 := by
    have := hy.2
    omega
  have hyear' : ((t.date.year.toNat : Nat) : Int) = t.date.year := Int.toNat_of_nonneg hy.1
  have hmonth : t.date.month < 100 := (Date.ofDay_lt_hundred _).1
  have hday : t.date.day < 100 := (Date.ofDay_lt_hundred _).2
  have hsecond : t.secondOfDay < 86400 := by
    have hlt := Int.emod_lt_of_pos t.second (show 0 < daySeconds by decide)
    simp only [daySeconds] at hlt
    simp only [secondOfDay, daySeconds]
    omega
  have hnano : t.nano / secondNanos ≤ 1 := by
    rcases h with hplain | ⟨-, hlong⟩
    · simp only [secondNanos] at hplain ⊢
      omega
    · simp only [secondNanos] at hlong ⊢
      omega
  have hdate : (⟨(t.date.year.toNat : Nat), t.date.month, t.date.day⟩ : Date) = t.date := by
    rw [hyear']
  rw [ofStored?, text, String.toList_ofList, chars_of_inPlainYear hy, ofLongForm?]
  simp only [takeFour_fixedNumeral hyear, takePair_fixedNumeral hmonth,
    takePair_fixedNumeral hday, takeMark_self, Option.bind_eq_bind, Option.bind_some]
  -- What stands between and behind the numbers.
  have hseparator (rest : List Char) : takeSeparator ('T' :: rest) = some rest := rfl
  have hfraction : takeFraction ['Z'] = some (0, ['Z']) := rfl
  have hoffset : takeOffset (takeMark ':') ['Z'] = some (0, []) := rfl
  have hhour : t.secondOfDay / 3600 < 100 := by omega
  have hminute : t.secondOfDay / 60 % 60 < 100 := by omega
  have hlast : t.secondOfDay % 60 + t.nano / secondNanos < 100 := by omega
  simp only [hseparator, takePair_fixedNumeral hhour, takePair_fixedNumeral hminute,
    takePair_fixedNumeral hlast, takeMark_self, hfraction, hoffset, Option.bind_some, if_true,
    hdate]
  exact ofParts?_of_wellFormed h hy

/-! ## What callers write -/

theorem takeFraction_lt {cs rest : List Char} {nano : Nat}
    (h : takeFraction cs = some (nano, rest)) : nano < secondNanos := by
  unfold takeFraction at h
  split at h
  · next decimals =>
      simp only at h
      split at h
      · cases h
      · obtain ⟨rfl, -⟩ := Prod.mk.inj (Option.some.inj h)
        exact fractionValue_lt fun c member => List.mem_takeWhile_imp member
  · obtain ⟨rfl, -⟩ := Prod.mk.inj (Option.some.inj h)
    exact Nat.succ_pos _

/-- An offset is a whole number of minutes. -/
theorem takeOffset_emod {between : List Char → Option (List Char)} {cs rest : List Char}
    {offset : Int} (h : takeOffset between cs = some (offset, rest)) : offset % 60 = 0 := by
  unfold takeOffset at h
  split at h
  · cases h
    rfl
  · cases h
    rfl
  · simp only [Option.bind_eq_bind, Option.bind_eq_some_iff, Prod.exists] at h
    obtain ⟨negative, _, -, hours, _, -, _, -, minutes, _, -, h⟩ := h
    split at h
    · cases h
      split <;> omega
    · cases h

theorem wellFormed_of_ofParts? {date : Date} {hour minute second nano : Nat} {offset : Int}
    {t : Instant} (h : ofParts? date hour minute second nano offset = some t)
    (below : nano < secondNanos) (minutes : offset % 60 = 0) : t.WellFormed := by
  unfold ofParts? at h
  split at h
  · next valid =>
      simp only at h
      split at h
      · cases h
        -- Second 60 stands for the last second of its minute, and goes on past it.
        have most : second ≤ 60 := valid.2.2.2.2.2
        simp only [WellFormed, secondNanos, daySeconds] at below ⊢
        rcases Nat.lt_or_eq_of_le most with plain | rfl <;> omega
      · cases h
  · cases h

/-- Whatever a caller writes, a clock can show it. -/
theorem wellFormed_of_parse? {s : String} {t : Instant} (h : parse? s = some t) :
    t.WellFormed := by
  rcases Option.or_eq_some_iff.1 h with long | ⟨-, bare⟩
  · simp only [ofLongForm?, Option.bind_eq_bind, Option.bind_eq_some_iff, Prod.exists] at long
    obtain ⟨_, _, -, _, -, _, _, -, _, -, _, _, -, _, -, _, _, -, _, -, _, _, -, _, -, _, _, -,
      nano, _, fraction, offset, _, zone, last⟩ := long
    split at last
    · exact wellFormed_of_ofParts? last (takeFraction_lt fraction) (takeOffset_emod zone)
    · cases last
  · simp only [ofBareDate?, Option.bind_eq_bind, Option.bind_eq_some_iff, Prod.exists] at bare
    obtain ⟨date, _, -, last⟩ := bare
    split at last
    · exact wellFormed_of_ofParts? last (by decide) rfl
    · cases last

end Purse.Instant
