/-
  Purse.Proofs.Codec.Calendar

  Days and dates.  `dayNumber_ofDay` says that the day of the date of a day is that day,
  and `exists?_ofDay` that the date is one of the calendar.

  The year is found by an estimate that is off by at most one; `daysBeforeYear_yearOf`
  says that the correction lands on the year that holds the day.  The month is found by
  going through the months; `monthAndDay_spec` carries the days that lie behind.
-/
import Purse.Calendar

namespace Purse

/-! ## Years -/

/-- The number of days in a year. -/
def yearLength (year : Int) : Nat := if isLeapYear year then 366 else 365

theorem daysBeforeYear_succ (year : Int) :
    daysBeforeYear (year + 1) = daysBeforeYear year + yearLength year := by
  simp only [daysBeforeYear, yearLength, isLeapYear]
  -- Omega cannot divide by cases itself, so each rule for leap years is a case of its own.
  by_cases h4 : year % 4 = 0
  · by_cases h100 : year % 100 = 0
    · by_cases h400 : year % 400 = 0
      · simp [h4, h100, h400]
        omega
      · simp [h4, h100, h400]
        omega
    · simp [h4, h100]
      omega
  · simp [h4]
    omega

/-- Every month has at least one day and their lengths make up the year. -/
theorem sum_monthLengths (year : Int) :
    ((monthLengths year).foldl (· + ·) 0) = yearLength year := by
  by_cases h : isLeapYear year = true <;> simp [monthLengths, yearLength, h]

namespace Date

/-- The year found for a day is the one that the day lies in. -/
theorem daysBeforeYear_yearOf (n : Int) :
    daysBeforeYear (yearOf n) ≤ n ∧ n < daysBeforeYear (yearOf n + 1) := by
  simp only [yearOf]
  split
  · next h =>
      refine ⟨?_, by simpa using h⟩
      simp only [daysBeforeYear] at h ⊢
      omega
  · split
    · next h =>
        refine ⟨h, ?_⟩
        simp only [daysBeforeYear] at h ⊢
        omega
    · next h1 h2 => exact ⟨by omega, by omega⟩

/-! ## Months -/

theorem foldl_add_start (lengths : List Nat) (start : Nat) :
    lengths.foldl (· + ·) start = start + lengths.foldl (· + ·) 0 := by
  induction lengths generalizing start with
  | nil => rfl
  | cons length rest ih =>
      rw [List.foldl_cons, List.foldl_cons, ih, ih (0 + length)]
      omega

/-- Going through months finds the month in which a day lies: `i` months lie behind, and the days
    of these with the day of the month give the day. -/
theorem monthAndDay_spec {lengths : List Nat} {n : Nat} (month : Nat)
    (h : n < lengths.foldl (· + ·) 0) :
    ∃ i length, (monthAndDay month lengths n).1 = month + i ∧ lengths[i]? = some length ∧
      1 ≤ (monthAndDay month lengths n).2 ∧ (monthAndDay month lengths n).2 ≤ length ∧
      n + 1 = (lengths.take i).foldl (· + ·) 0 + (monthAndDay month lengths n).2 := by
  -- Each month that is passed takes its length from the day and one off the months to come.
  induction lengths generalizing month n with
  | nil => simp at h
  | cons length lengths ih =>
      rw [monthAndDay]
      split
      · next hlt => exact ⟨0, length, rfl, rfl, by omega, Nat.succ_le_of_lt hlt, by simp⟩
      · next hge =>
          rw [List.foldl_cons, foldl_add_start] at h
          obtain ⟨i, len, hmonth, hget, hone, hle, hday⟩ :=
            ih (n := n - length) (month + 1) (by omega)
          refine ⟨i + 1, len, by omega, by simpa using hget, hone, hle, ?_⟩
          rw [List.take_succ_cons, List.foldl_cons, foldl_add_start]
          omega

/-! ## Dates -/

/-- The date of a day, with the months that lie behind it. -/
theorem ofDay_spec (day : Int) :
    ∃ i length, (ofDay day).month = i + 1 ∧ (monthLengths (ofDay day).year)[i]? = some length ∧
      1 ≤ (ofDay day).day ∧ (ofDay day).day ≤ length ∧
      day + epochDay + 1 = daysBeforeYear (ofDay day).year +
        (((monthLengths (ofDay day).year).take i).foldl (· + ·) 0 + (ofDay day).day : Nat) := by
  have hyear := daysBeforeYear_yearOf (day + epochDay)
  rw [daysBeforeYear_succ] at hyear
  -- The day of the year is one of the days that the months make up.
  have hinside : (day + epochDay - daysBeforeYear (yearOf (day + epochDay))).toNat <
      (monthLengths (yearOf (day + epochDay))).foldl (· + ·) 0 := by
    rw [sum_monthLengths]
    omega
  obtain ⟨i, length, hmonth, hget, hone, hle, hday⟩ := monthAndDay_spec 1 hinside
  refine ⟨i, length, hmonth.trans (Nat.add_comm 1 i), hget, hone, hle, ?_⟩
  simp only [ofDay] at hday ⊢
  omega

/-- The date of a day is one of the calendar. -/
theorem exists?_ofDay (day : Int) : (ofDay day).exists? = true := by
  obtain ⟨i, length, hmonth, hget, hone, hle, -⟩ := ofDay_spec day
  simp [exists?, hmonth, hget, hone, hle]

/-- The date of a day falls on that day. -/
@[simp] theorem dayNumber_ofDay (day : Int) : (ofDay day).dayNumber = day := by
  obtain ⟨i, length, hmonth, -, -, -, hday⟩ := ofDay_spec day
  simp only [dayNumber, daysBeforeMonth, hmonth, Nat.add_sub_cancel]
  omega

/-- The month and the day of the date of a day have at most two digits. -/
theorem ofDay_lt_hundred (day : Int) : (ofDay day).month < 100 ∧ (ofDay day).day < 100 := by
  obtain ⟨i, length, hmonth, hget, -, hle, -⟩ := ofDay_spec day
  have hi : i < 12 := by
    have := (List.getElem?_eq_some_iff.1 hget).1
    simpa [monthLengths] using this
  have hlength : length ≤ 31 := by
    have := List.mem_of_getElem? hget
    simp only [monthLengths, List.mem_cons, List.not_mem_nil, or_false] at this
    split at this <;> omega
  omega

end Date

end Purse
