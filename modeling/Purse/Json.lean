/-
  Purse.Json

  Values of the exchange format in which records are printed and read, and their
  printed form: one member or item a line, indented by two blanks a level.
  An object keeps its members in the order in which they were given.
-/
import Purse.Text.Digits
import Purse.Text.Quoted

namespace Purse

open Text

/-- A value of the exchange format. -/
inductive Json where
  | null
  | bool (value : Bool)
  /-- A number written without point and exponent. -/
  | integer (value : Int)
  /-- Any other number, as it is written. -/
  | decimal (literal : String)
  | text (value : String)
  | list (items : List Json)
  | object (members : List (String × Json))
  /-- A string, or an object with a key, that holds half of a surrogate pair: well formed,
      but no text. -/
  | unpaired
  deriving Inhabited

namespace Json

/-- A number that is not negative. -/
def natural (n : Nat) : Json := .integer n

/-- The text of a value that may be absent. -/
def optional (value? : Option Json) : Json := value?.getD .null

/-- A character as it stands inside a string. -/
def escaped (c : Char) : List Char :=
  if c = '"' then ['\\', '"']
  else if c = '\\' then ['\\', '\\']
  else if c = '\x08' then ['\\', 'b']
  else if c = '\x0c' then ['\\', 'f']
  else if c = '\n' then ['\\', 'n']
  else if c = '\r' then ['\\', 'r']
  else if c = '\t' then ['\\', 't']
  else if c.toNat < 0x20 then
    ['\\', 'u', '0', '0', hexDigit (c.toNat / 16), hexDigit (c.toNat % 16)]
  else [c]

/-- A string in its quotes. -/
def stringChars (s : String) : List Char := '"' :: s.toList.flatMap escaped ++ ['"']

/-- The start of a line at an indentation level. -/
def newLine (level : Nat) : List Char := '\n' :: List.replicate (2 * level) ' '

mutual

/-- The printed form of a value whose first line stands at a level. -/
def chars (level : Nat) : Json → List Char
  | .null => "null".toList
  | .bool true => "true".toList
  | .bool false => "false".toList
  | .integer value => integerNumeral value
  | .decimal literal => literal.toList
  | .text value => stringChars value
  | .list [] => ['[', ']']
  | .list (item :: items) =>
      '[' :: newLine (level + 1) ++ chars (level + 1) item ++ itemsChars (level + 1) items ++
        newLine level ++ [']']
  | .object [] => ['\x7b', '\x7d']
  | .object ((key, value) :: members) =>
      '\x7b' :: newLine (level + 1) ++ stringChars key ++ ':' :: ' ' :: chars (level + 1) value ++
        membersChars (level + 1) members ++ newLine level ++ ['\x7d']
  | .unpaired => "null".toList

/-- The items after the first one, each on a line of its own. -/
def itemsChars (level : Nat) : List Json → List Char
  | [] => []
  | item :: items => ',' :: newLine level ++ chars level item ++ itemsChars level items

/-- The members after the first one, each on a line of its own. -/
def membersChars (level : Nat) : List (String × Json) → List Char
  | [] => []
  | (key, value) :: members =>
      ',' :: newLine level ++ stringChars key ++ ':' :: ' ' :: chars level value ++
        membersChars level members

end

/-- The printed form of a value. -/
def pretty (value : Json) : String := String.ofList (chars 0 value)

end Json

end Purse
