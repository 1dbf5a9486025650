/-
  Purse.Json.Reader

  Reading the exchange format.  The grammar is the strict one: blanks are space, tab,
  line feed and carriage return; numbers have no leading zeros; strings hold no raw
  controls; nothing follows the value.  The recursion into lists and objects is
  bounded by the length of the text, which every level shortens.
-/
import Purse.Json
import Purse.Ident

namespace Purse.Json

open Text

/-! ## Blanks, words, numbers -/

/-- Drops blanks from the front. -/
def skipBlanks (cs : List Char) : List Char :=
  cs.dropWhile fun c => c = ' ' || c = '\t' || c = '\n' || c = '\r'

/-- Reads a fixed word. -/
def takeWord : List Char → List Char → Option (List Char)
  | [], cs => some cs
  | _ :: _, [] => none
  | w :: ws, c :: cs => if w = c then takeWord ws cs else none

/-- Reads a run of digits, which may be empty. -/
def digitRun (cs : List Char) : List Char × List Char :=
  (cs.takeWhile isDigit, cs.dropWhile isDigit)

/-- Reads the part of a number after the point, with the point; there may be none. -/
def takeDecimals : List Char → Option (List Char × List Char)
  | '.' :: rest =>
      let (digits, rest) := digitRun rest
      if digits = [] then none else some ('.' :: digits, rest)
  | cs => some ([], cs)

/-- Reads an exponent with its mark; there may be none. -/
def takeExponent : List Char → Option (List Char × List Char)
  | c :: rest =>
      if c = 'e' ∨ c = 'E' then
        let (sign, rest) := match rest with
          | '+' :: more => (['+'], more)
          | '-' :: more => (['-'], more)
          | _ => ([], rest)
        let (digits, rest) := digitRun rest
        if digits = [] then none else some (c :: sign ++ digits, rest)
      else some ([], c :: rest)
  | [] => some ([], [])

/-- Reads a number. A minus zero is no integer: it counts as a decimal. -/
def takeNumber (cs : List Char) : Option (Json × List Char) := do
  let (sign, cs) := match cs with
    | '-' :: rest => (['-'], rest)
    | _ => ([], cs)
  let (digits, cs) := digitRun cs
  if digits = [] ∨ (digits.head? = some '0' ∧ 1 < digits.length) then none
  else
    let (decimals, cs) ← takeDecimals cs
    let (exponent, cs) ← takeExponent cs
    if decimals = [] ∧ exponent = [] ∧ ¬ (sign = ['-'] ∧ digits = ['0']) then
      let n : Int := numeralValue digits
      some (.integer (if sign = ['-'] then -n else n), cs)
    else some (.decimal (String.ofList (sign ++ digits ++ decimals ++ exponent)), cs)

/-! ## Strings

A string is read into units first: characters, and the halves of surrogate pairs that
escapes spell out.
-/

/-- The escape `\uXXXX`: four hexadecimal digits. -/
def takeUnit (cs : List Char) : Option (Nat × List Char) :=
  if (cs.take 4).length = 4 then (Ident.hexNumber? (cs.take 4)).map (·, cs.drop 4) else none

/-- The character of a one-character escape. -/
def shortEscape? (c : Char) : Option Char :=
  if c = '"' ∨ c = '\\' ∨ c = '/' then some c
  else if c = 'b' then some '\x08'
  else if c = 'f' then some '\x0c'
  else if c = 'n' then some '\n'
  else if c = 'r' then some '\r'
  else if c = 't' then some '\t'
  else none

/-- Reads the code points and surrogate halves of a string, after its opening quote. -/
def takeUnits (fuel : Nat) (cs : List Char) : Option (List Nat × List Char) :=
  match fuel with
  | 0 => none
  | fuel + 1 =>
      match cs with
      | '"' :: rest => some ([], rest)
      | '\\' :: 'u' :: rest => do
          let (unit, rest) ← takeUnit rest
          let (units, rest) ← takeUnits fuel rest
          some (unit :: units, rest)
      | '\\' :: c :: rest => do
          let c ← shortEscape? c
          let (units, rest) ← takeUnits fuel rest
          some (c.toNat :: units, rest)
      | c :: rest => do
          if c.toNat < 0x20 then none
          else
            let (units, rest) ← takeUnits fuel rest
            some (c.toNat :: units, rest)
      | [] => none

/-- Joins surrogate pairs. There is no text when a half is left alone. -/
def joinUnits? : List Nat → Option (List Char)
  | [] => some []
  | high :: low :: rest =>
      if 0xd800 ≤ high ∧ high < 0xdc00 then
        if 0xdc00 ≤ low ∧ low < 0xe000 then
          (joinUnits? rest).map
            (Char.ofNat (0x10000 + (high - 0xd800) * 0x400 + (low - 0xdc00)) :: ·)
        else none
      else if 0xdc00 ≤ high ∧ high < 0xe000 then none
      else (joinUnits? (low :: rest)).map (Char.ofNat high :: ·)
  | [unit] => if 0xd800 ≤ unit ∧ unit < 0xe000 then none else some [Char.ofNat unit]

/-- Reads a string after its opening quote; the text is absent when half of a pair is left
    alone. -/
def takeString (cs : List Char) : Option (Option String × List Char) :=
  (takeUnits (cs.length + 1) cs).map fun (units, rest) =>
    ((joinUnits? units).map String.ofList, rest)

/-! ## Values -/

mutual

/-- Reads a value, blanks before it included. -/
def takeValue (fuel : Nat) (cs : List Char) : Option (Json × List Char) :=
  match fuel with
  | 0 => none
  | fuel + 1 =>
      match skipBlanks cs with
      | [] => none
      | '"' :: rest => (takeString rest).map fun (text?, rest) =>
          (match text? with
            | some s => .text s
            | none => .unpaired, rest)
      | '[' :: rest =>
          match skipBlanks rest with
          | ']' :: rest => some (.list [], rest)
          | rest => (takeItems fuel rest).map fun (items, rest) => (.list items, rest)
      | '\x7b' :: rest =>
          match skipBlanks rest with
          | '\x7d' :: rest => some (.object [], rest)
          | rest => (takeMembers fuel rest).map fun (members?, rest) =>
              (match members? with
                | some members => .object members
                | none => .unpaired, rest)
      | c :: rest =>
          if c = 'n' then (takeWord "ull".toList rest).map (.null, ·)
          else if c = 't' then (takeWord "rue".toList rest).map (.bool true, ·)
          else if c = 'f' then (takeWord "alse".toList rest).map (.bool false, ·)
          else takeNumber (c :: rest)

/-- Reads the items of a list and its closing bracket. -/
def takeItems (fuel : Nat) (cs : List Char) : Option (List Json × List Char) :=
  match fuel with
  | 0 => none
  | fuel + 1 => do
      let (item, cs) ← takeValue fuel cs
      match skipBlanks cs with
      | ',' :: rest =>
          let (items, rest) ← takeItems fuel rest
          some (item :: items, rest)
      | ']' :: rest => some ([item], rest)
      | _ => none

/-- Reads the members of an object and its closing brace; there are none when a key is no
    text. -/
def takeMembers (fuel : Nat) (cs : List Char) :
    Option (Option (List (String × Json)) × List Char) :=
  match fuel with
  | 0 => none
  | fuel + 1 =>
      match skipBlanks cs with
      | '"' :: rest => do
          let (key?, rest) ← takeString rest
          match skipBlanks rest with
          | ':' :: rest =>
              let (value, rest) ← takeValue fuel rest
              let member? := key?.map (·, value)
              match skipBlanks rest with
              | ',' :: rest =>
                  let (members?, rest) ← takeMembers fuel rest
                  some (member?.bind fun m => members?.map (m :: ·), rest)
              | '\x7d' :: rest => some (member?.map fun m => [m], rest)
              | _ => none
          | _ => none
      | _ => none

end

/-- Reads a text that holds one value and blanks around it. -/
def read? (s : String) : Option Json :=
  let cs := s.toList
  match takeValue (2 * cs.length + 2) cs with
  | some (value, rest) => if skipBlanks rest = [] then some value else none
  | none => none

end Purse.Json
