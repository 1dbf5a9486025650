/-
  Purse.Instant.Reader

  Reading instants.  Callers write `YYYY-MM-DDThh:mm:ssZ` (with optional decimals
  and an offset from UTC) or a bare date, which means its midnight in UTC.  Stored
  rows hold the long form only.  Exchanged records may spread the long form:
  blanks between its parts, fewer digits, a signed year.

  Each `take…` function reads a part from the front of a text and yields it with
  what follows.
-/
import Purse.Instant
import Purse.Text.Blank

namespace Purse.Instant

open Text

/-! ## Numbers and marks -/

/-- Reads at least one and at most `most` digits. -/
def takeDigits (most : Nat) (cs : List Char) : Option (Nat × List Char) :=
  let digits := (cs.take most).takeWhile isDigit
  if digits = [] then none else some (numeralValue digits, cs.drop digits.length)

/-- Reads exactly two digits. -/
def takePair (cs : List Char) : Option (Nat × List Char) :=
  match cs with
  | a :: b :: rest => if isDigit a ∧ isDigit b then some (numeralValue [a, b], rest) else none
  | _ => none

/-- Reads exactly four digits. -/
def takeFour (cs : List Char) : Option (Nat × List Char) := do
  let (high, cs) ← takePair cs
  let (low, cs) ← takePair cs
  some (100 * high + low, cs)

/-- Reads one given character. -/
def takeMark (mark : Char) : List Char → Option (List Char)
  | c :: rest => if c = mark then some rest else none
  | [] => none

/-- Reads the character between date and time: `T`, in either case, or one space. -/
def takeSeparator : List Char → Option (List Char)
  | c :: rest => if c = 'T' ∨ c = 't' ∨ c = ' ' then some rest else none
  | [] => none

/-- Reads the decimals of a second as nanoseconds; digits after the ninth are dropped.
    Without a point there is nothing to read. -/
def takeFraction : List Char → Option (Nat × List Char)
  | '.' :: rest =>
      let digits := rest.takeWhile isDigit
      if digits = [] then none else some (fractionValue 9 digits, rest.drop digits.length)
  | cs => some (0, cs)

/-- Reads the sign of an offset; the minus may be the mathematical one. True for a minus. -/
def takeOffsetSign : List Char → Option (Bool × List Char)
  | '+' :: rest => some (false, rest)
  | '-' :: rest => some (true, rest)
  | '−' :: rest => some (true, rest)
  | _ => none

/-- Reads an offset from UTC, in seconds; `between` reads what stands between its hours
    and its minutes. The offset is less than a day. -/
def takeOffset (between : List Char → Option (List Char)) : List Char → Option (Int × List Char)
  | 'Z' :: rest => some (0, rest)
  | 'z' :: rest => some (0, rest)
  | cs => do
      let (negative, cs) ← takeOffsetSign cs
      let (hours, cs) ← takePair cs
      let cs ← between cs
      let (minutes, cs) ← takePair cs
      if hours ≤ 23 ∧ minutes ≤ 59 then
        let offset : Int := 3600 * hours + 60 * minutes
        some (if negative then -offset else offset, cs)
      else none

/-- Reads a year: with a sign it may have any number of digits, without one at most
    four. -/
def takeYear (cs : List Char) : Option (Int × List Char) :=
  match cs with
  | '-' :: rest => (takeDigits rest.length rest).map fun (n, cs) => (-(n : Int), cs)
  | '+' :: rest => (takeDigits rest.length rest).map fun (n, cs) => ((n : Int), cs)
  | _ => (takeDigits 4 cs).map fun (n, cs) => ((n : Int), cs)

/-! ## From parts to an instant -/

/-- The instant of a date and a time of day at an offset from UTC. The date has to exist,
    the hour is at most 23, and second 60 is the leap second after second 59. -/
def ofParts? (date : Date) (hour minute second nano : Nat) (offset : Int) : Option Instant :=
  if date.exists? ∧ Date.firstYear ≤ date.year ∧ date.year ≤ Date.lastYear ∧
      hour ≤ 23 ∧ minute ≤ 59 ∧ second ≤ 60 then
    let leap := second / 60
    let t : Instant :=
      ⟨date.dayNumber * daySeconds + (3600 * hour + 60 * minute + (second - leap) : Nat) - offset,
        nano + leap * secondNanos⟩
    if Date.firstYear ≤ t.date.year ∧ t.date.year ≤ Date.lastYear then some t else none
  else none

/-! ## The accepted forms -/

/-- Reads the long form: every number has its full width and nothing is left over. -/
def ofLongForm? (cs : List Char) : Option Instant := do
  let (year, cs) ← takeFour cs
  let cs ← takeMark '-' cs
  let (month, cs) ← takePair cs
  let cs ← takeMark '-' cs
  let (day, cs) ← takePair cs
  let cs ← takeSeparator cs
  let (hour, cs) ← takePair cs
  let cs ← takeMark ':' cs
  let (minute, cs) ← takePair cs
  let cs ← takeMark ':' cs
  let (second, cs) ← takePair cs
  let (nano, cs) ← takeFraction cs
  let (offset, cs) ← takeOffset (takeMark ':') cs
  if cs = [] then ofParts? ⟨year, month, day⟩ hour minute second nano offset else none

/-- Reads year, month and day, each with optional blanks before it. With `spaced`, blanks may
    also stand before a hyphen. -/
def takeDate (spaced : Bool) (cs : List Char) : Option (Date × List Char) := do
  let beforeMark := fun cs => if spaced then trimFront cs else cs
  let (year, cs) ← takeYear (trimFront cs)
  let cs ← takeMark '-' (beforeMark cs)
  let (month, cs) ← takeDigits 2 (trimFront cs)
  let cs ← takeMark '-' (beforeMark cs)
  let (day, cs) ← takeDigits 2 (trimFront cs)
  some (⟨year, month, day⟩, cs)

/-- Reads a bare date as its midnight in UTC. -/
def ofBareDate? (cs : List Char) : Option Instant := do
  let (date, cs) ← takeDate false cs
  if cs = [] then ofParts? date 0 0 0 0 0 else none

/-- Reads the zone of the spread form: `UTC` in any case, or an offset whose two parts may
    be parted by colons and blanks. -/
def takeZone (cs : List Char) : Option (Int × List Char) :=
  match cs with
  | a :: b :: c :: rest =>
      if a.toUpper = 'U' ∧ b.toUpper = 'T' ∧ c.toUpper = 'C' then some (0, rest)
      else takeOffset parted cs
  | _ => takeOffset parted cs
where
  /-- Drops colons and blanks. -/
  parted (cs : List Char) : Option (List Char) :=
    some (cs.dropWhile fun c => c = ':' || isBlank c)

/-- Reads the spread form. -/
def ofSpreadForm? (cs : List Char) : Option Instant := do
  let (date, cs) ← takeDate true cs
  let cs ← takeSeparator cs
  let (hour, cs) ← takeDigits 2 (trimFront cs)
  let cs ← takeMark ':' (trimFront cs)
  let (minute, cs) ← takeDigits 2 (trimFront cs)
  let cs ← takeMark ':' (trimFront cs)
  let (second, cs) ← takeDigits 2 (trimFront cs)
  let (nano, cs) ← takeFraction cs
  let (offset, cs) ← takeZone (trimFront cs)
  if trimFront cs = [] then ofParts? date hour minute second nano offset else none

/-- Reads a caller's instant: the long form, or a bare date. -/
def parse? (s : String) : Option Instant :=
  (ofLongForm? s.toList).or (ofBareDate? s.toList)

/-- Reads a stored instant: the long form only. -/
def ofStored? (s : String) : Option Instant := ofLongForm? s.toList

/-- Reads an instant of an exchanged record. -/
def ofExchange? (s : String) : Option Instant := ofSpreadForm? s.toList

end Purse.Instant
