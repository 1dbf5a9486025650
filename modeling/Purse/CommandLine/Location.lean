/-
  Purse.CommandLine.Location

  Where a store is kept, as the `database` option names it: the path of a file, and after
  a question mark parameters `name=value` with `&` between them.  Hexadecimal escapes
  after a percent sign stand for the bytes they spell.  The bytes of a path have to be
  text; in a parameter, broken characters are replaced.
-/
import Purse.Ident
import Purse.Text.Digits
import Purse.Text.Split
import Purse.Text.Utf8

namespace Purse.CommandLine

open Text

/-- Where a store is kept. -/
structure Location where
  path : String
  /-- The store may be read only. -/
  readOnly : Bool
  /-- The store lasts no longer than the program. -/
  inMemory : Bool
  /-- Nothing else changes the store, so that nothing has to be locked or logged. -/
  immutable : Bool
  /-- The file system layer to go through. -/
  layer : Option String
  deriving DecidableEq, Repr

/-- Why a text names no location. -/
inductive LocationError where
  /-- A parameter has none of its allowed values. -/
  | unknownValue (parameter value : String)
  | unknownParameter (parameter : String)
  /-- The bytes of the path are no text. -/
  | badPath (fault : Utf8Fault)
  deriving DecidableEq, Repr

/-- What is wrong with a location. -/
def LocationError.reason : LocationError → String
  | .unknownValue parameter value =>
      "unknown value " ++ quoted value ++ " for `" ++ parameter ++ "`"
  | .unknownParameter parameter =>
      "unknown query parameter `" ++ parameter ++ "` while parsing connection URL"
  | .badPath ⟨index, some length⟩ =>
      "invalid utf-8 sequence of " ++ String.ofList (numeral length) ++ " bytes from index " ++
        String.ofList (numeral index)
  | .badPath ⟨index, none⟩ =>
      "incomplete utf-8 byte sequence from index " ++ String.ofList (numeral index)

/-- The message of a text that names no location. -/
def LocationError.message (error : LocationError) : String :=
  "Invalid database path: error with configuration: " ++ error.reason ++ ": " ++ error.reason

/-- The bytes of a text after its percent escapes are resolved. -/
def unescape : List Char → List UInt8
  | '%' :: a :: b :: rest =>
      match Ident.hexNumber? [a, b] with
      | some n => UInt8.ofNat n :: unescape rest
      | none => encodeChars ['%'] ++ unescape (a :: b :: rest)
  | c :: rest => encodeChars [c] ++ unescape rest
  | [] => []

/-- The text of a parameter's name or value; a plus stands for a blank. -/
def parameterText (cs : List Char) : String :=
  decodeRepaired (unescape (cs.map fun c => if c = '+' then ' ' else c))

/-- Applies a parameter. -/
def Location.apply (location : Location) (name value : String) : Except LocationError Location :=
  match name with
  | "mode" => match value with
    | "ro" => .ok { location with readOnly := true }
    | "rw" => .ok location
    | "rwc" => .ok location
    | "memory" => .ok { location with inMemory := true }
    | _ => .error (.unknownValue name value)
  | "cache" => if ["private", "shared"].contains value then .ok location
      else .error (.unknownValue name value)
  | "immutable" =>
      if ["true", "1"].contains value then .ok { location with immutable := true }
      else if ["false", "0"].contains value then .ok { location with immutable := false }
      else .error (.unknownValue name value)
  | "vfs" => .ok { location with layer := some value }
  | _ => .error (.unknownParameter name)

/-- Drops all copies of a text from the front; with an empty text nothing is dropped. -/
def dropCopies (lead : List Char) : Nat → List Char → List Char
  | 0, cs => cs
  | n + 1, cs =>
      if lead.isPrefixOf cs ∧ lead ≠ [] then dropCopies lead n (cs.drop lead.length) else cs

/-- The parameters of a location text. -/
def parameters (cs : List Char) : List (String × String) :=
  ((splitAll '&' cs).filter (· ≠ [])).map fun part =>
    let (name, value) := (splitFirst '=' part).getD (part, [])
    (parameterText name, parameterText value)

/-- The text without the scheme, which may be repeated and may end in two slashes. Every text
    stands behind a scheme, so two slashes at its front go with it. -/
def withoutScheme (text : String) : List Char :=
  let cs := "sqlite:".toList ++ text.toList
  dropCopies "sqlite:".toList cs.length (dropCopies "sqlite://".toList cs.length cs)

/-- Reads a location. -/
def Location.parse (text : String) : Except LocationError Location := do
  let cs := withoutScheme text
  let (path, rest) := (splitFirst '?' cs).getD (cs, [])
  let start ←
    if String.ofList path = ":memory:" then pure ⟨"", false, true, false, none⟩
    else match decodeBytes? (unescape path) with
      | some path => pure ⟨path, false, false, false, none⟩
      | none => .error (.badPath (utf8Fault (unescape path)))
  (parameters rest).foldlM (fun location (name, value) => location.apply name value) start

end Purse.CommandLine
