/-
  Purse.Instant

  Points in time and their written forms.  An instant is a whole second and the
  nanoseconds inside it; a leap second is a second whose nanoseconds run on past
  10^9, so it sorts after the second it extends.

  Three forms are written.  The stored form drops the part below the second, so
  that equal seconds have equal text; the exchange form adds 0, 3, 6 or 9 decimals;
  the display form is the date and the time of day with a space between them.
-/
import Purse.Calendar
import Purse.Text.Digits

namespace Purse

open Text

/-- A point in time: seconds from 1970-01-01T00:00:00Z, and nanoseconds inside the second,
    from 10^9 on in a leap second. -/
structure Instant where
  second : Int
  nano : Nat
  deriving DecidableEq, Repr

/-- Seconds in a day. -/
def daySeconds : Int := 86400

/-- Nanoseconds in a second. -/
def secondNanos : Nat := 1000000000

namespace Instant

instance : Inhabited Instant := ⟨⟨0, 0⟩⟩

/-- Chronological order: by the second, then inside it. -/
instance : LT Instant :=
  ⟨fun a b => a.second < b.second ∨ (a.second = b.second ∧ a.nano < b.nano)⟩

instance (a b : Instant) : Decidable (a < b) :=
  inferInstanceAs (Decidable (_ ∨ (_ ∧ _)))

/-- 1970-01-01T00:00:00Z. -/
def epoch : Instant := ⟨0, 0⟩

/-- What a clock can show: nanoseconds that fit in the second, or a leap second, which only
    ever prolongs the last second of a minute. -/
def WellFormed (t : Instant) : Prop :=
  t.nano < secondNanos ∨ (t.second % 60 = 59 ∧ t.nano < 2 * secondNanos)

instance (t : Instant) : Decidable t.WellFormed :=
  inferInstanceAs (Decidable (_ ∨ (_ ∧ _)))

/-- The instant without its part below the second; a leap second stays one. -/
def truncate (t : Instant) : Instant := ⟨t.second, t.nano / secondNanos * secondNanos⟩

/-- The instant `n` seconds later. -/
def plusSeconds (t : Instant) (n : Int) : Instant := ⟨t.second + n, t.nano⟩

/-- The date that the instant falls on. -/
def date (t : Instant) : Date := Date.ofDay (t.second / daySeconds)

/-- The year is one that is written with four digits and no sign. -/
def InPlainYear (t : Instant) : Prop := 0 ≤ t.date.year ∧ t.date.year ≤ 9999

instance (t : Instant) : Decidable t.InPlainYear :=
  inferInstanceAs (Decidable (_ ∧ _))

/-- The second of the day, without leap seconds. -/
def secondOfDay (t : Instant) : Nat := (t.second % daySeconds).toNat

/-- Four digits for a year from 0 to 9999; else a sign and at least four digits. -/
def yearChars (year : Int) : List Char :=
  if 0 ≤ year ∧ year ≤ 9999 then fixedNumeral 4 year.toNat
  else (if year < 0 then '-' else '+') :: paddedNumeral 4 year.natAbs

/-- The date, as `YYYY-MM-DD`. -/
def dateChars (t : Instant) : List Char :=
  yearChars t.date.year ++ '-' :: fixedNumeral 2 t.date.month ++ '-' :: fixedNumeral 2 t.date.day

/-- The time of day, as `hh:mm:ss`; in a leap second the last part is one higher. -/
def clockChars (t : Instant) : List Char :=
  fixedNumeral 2 (t.secondOfDay / 3600) ++ ':' :: fixedNumeral 2 (t.secondOfDay / 60 % 60) ++
    ':' :: fixedNumeral 2 (t.secondOfDay % 60 + t.nano / secondNanos)

/-- The decimals of the second: none, three, six or nine, the fewest that hold the
    value. -/
def fractionChars (t : Instant) : List Char :=
  let n := t.nano % secondNanos
  if n = 0 then []
  else if n % 1000000 = 0 then '.' :: fixedNumeral 3 (n / 1000000)
  else if n % 1000 = 0 then '.' :: fixedNumeral 6 (n / 1000)
  else '.' :: fixedNumeral 9 n

/-- The stored form: UTC, to the second. -/
def chars (t : Instant) : List Char := t.dateChars ++ 'T' :: t.clockChars ++ ['Z']

/-- The stored form as a text. -/
def text (t : Instant) : String := String.ofList t.chars

/-- The exchange form: the stored form with the decimals of the second. -/
def exchangeText (t : Instant) : String :=
  String.ofList (t.dateChars ++ 'T' :: t.clockChars ++ t.fractionChars ++ ['Z'])

/-- The display form. -/
def displayText (t : Instant) : String := String.ofList (t.dateChars ++ ' ' :: t.clockChars)

@[simp] theorem truncate_truncate (t : Instant) : t.truncate.truncate = t.truncate := by
  simp only [truncate, secondNanos, Instant.mk.injEq, true_and]
  omega

/-- The stored form shows nothing below the second. -/
theorem chars_truncate (t : Instant) : t.truncate.chars = t.chars := by
  have : t.truncate.nano / secondNanos = t.nano / secondNanos := by
    simp only [truncate, secondNanos]; omega
  simp only [chars, clockChars, this]
  rfl

end Instant

end Purse
