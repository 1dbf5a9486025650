/-
  Purse.Ident.Fault

  Why a text is no identifier.  A text longer than every spelling is told by its length alone.
  In any other, a character that is neither a hexadecimal digit nor a hyphen is told first, with
  the number of bytes before it; then the shape of the whole: the number of digits when nothing
  divides them, else the number of groups, else the first group of a wrong length.
-/
import Purse.Ident
import Purse.Text.Digits
import Purse.Text.Split

namespace Purse

open Text

/-- Why a text is no identifier. -/
inductive IdentFault where
  | character (c : Char) (index : Nat)
  /-- The text is longer than every spelling, or its digits stand alone and are not 32. -/
  | length (found : Nat)
  | groupCount (found : Nat)
  | groupLength (group found : Nat)
  deriving DecidableEq, Repr

/-- The message of a text that is no identifier. -/
def IdentFault.message : IdentFault → String
  | .character c index =>
      "invalid character: found `" ++ c.toString ++ "` at " ++ number index
  | .length found => "invalid length: found " ++ number found
  | .groupCount found =>
      "invalid group count: expected " ++ number Ident.groups.length ++ ", found " ++ number found
  | .groupLength group found =>
      "invalid group length in group " ++ number group ++ ": expected " ++
        number (Ident.groups.getD group 0) ++ ", found " ++ number found
where
  /-- A number as a text. -/
  number (n : Nat) : String := String.ofList (numeral n)

namespace Ident

/-- The number of bytes in the longest spelling: five groups after `urn:uuid:`. -/
def longestSpelling : Nat := 45

/-- The part of a text that has to hold the digits, and whether it is all of the text. -/
def inner (cs : List Char) : List Char × Bool :=
  match cs with
  | 'u' :: 'r' :: 'n' :: ':' :: 'u' :: 'u' :: 'i' :: 'd' :: ':' :: rest => (rest, false)
  | '{' :: rest => if rest.getLast? = some '}' then (rest.dropLast, false) else (cs, true)
  | _ => (cs, true)

/-- The first character that is neither a digit nor a hyphen, and the number of bytes before
    it, counted from `index`. -/
def strayChar? (index : Nat) : List Char → Option (Char × Nat)
  | [] => none
  | c :: rest =>
      if c = '-' ∨ (hexValue? c).isSome then strayChar? (index + c.utf8Size) rest
      else some (c, index)

/-- The fault of digits in groups. The last group counts up to the end of the text, which has
    `size` bytes. -/
def groupFault (size : Nat) (parts : List (List Char)) : IdentFault :=
  if parts.length ≠ groups.length then .groupCount parts.length
  else
    match (parts.dropLast.zip groups).zipIdx.find? fun p => p.1.1.length ≠ p.1.2 with
    | some ((part, _), group) => .groupLength group part.length
    | none => .groupLength (groups.length - 1) (size - 24)

/-- What is wrong with a text that is no identifier. A stray character is counted from the
    start of the part that has to hold the digits. -/
def fault (s : String) : IdentFault :=
  let size := s.utf8ByteSize
  if longestSpelling < size then .length size
  else
    let (digits, alone) := inner s.toList
    match strayChar? 0 digits with
    | some (c, index) => .character c index
    | none =>
        if alone ∧ '-' ∉ digits then .length size else groupFault size (splitAll '-' digits)

end Ident

end Purse
