/-
  Purse.Text.Utf8

  Reading bytes as text, and saying where that fails.  A failure is told by the number of
  bytes before it that are text, and by how many bytes belong to the broken character;
  when the bytes end inside a character, that number is not known.  Where a text has to
  come out in any case, a replacement character stands for each broken one.
-/

namespace Purse.Text

/-- The text of bytes. -/
def decodeBytes? (bytes : List UInt8) : Option String := String.fromUTF8? ⟨bytes.toArray⟩

/-- Why bytes are no text. -/
structure Utf8Fault where
  /-- The number of bytes before the fault. -/
  index : Nat
  /-- The number of bytes that cannot go on as a character; absent at the end. -/
  length : Option Nat
  deriving DecidableEq, Repr

/-- The bounds of the second byte of a character with a given first byte; they shut out long
    spellings, surrogate halves and numbers past the last code point. -/
def secondBounds (first : UInt8) : UInt8 × UInt8 :=
  if first = 0xe0 then (0xa0, 0xbf)
  else if first = 0xed then (0x80, 0x9f)
  else if first = 0xf0 then (0x90, 0xbf)
  else if first = 0xf4 then (0x80, 0x8f)
  else (0x80, 0xbf)

/-- True for a byte that goes on after `first`. -/
def isSecond (first byte : UInt8) : Bool :=
  (secondBounds first).1 ≤ byte && byte ≤ (secondBounds first).2

/-- The number of bytes at the front that start a character of more bytes, up to three. -/
def startLength : List UInt8 → Nat
  | a :: b :: c :: _ =>
      if a < 0xc2 || 0xf4 < a then 0
      else if a < 0xe0 || !isSecond a b then 1
      else if a < 0xf0 || c < 0x80 || 0xbf < c then 2
      else 3
  | [a, b] =>
      if a < 0xc2 || 0xf4 < a then 0
      else if a < 0xe0 || !isSecond a b then 1
      else 2
  | [a] => if a < 0xc2 || 0xf4 < a then 0 else 1
  | [] => 0

/-- The character that bytes start with, and the bytes after it. -/
def frontChar? (bytes : List UInt8) : Option (Char × List UInt8) :=
  [1, 2, 3, 4].findSome? fun n =>
    match (decodeBytes? (bytes.take n)).map String.toList with
    | some [c] => some (c, bytes.drop n)
    | _ => none

/-- The characters of at most `count` characters' bytes, with replacements for broken ones. -/
def repairedChars : Nat → List UInt8 → List Char
  | 0, _ => []
  | _, [] => []
  | count + 1, bytes =>
      match frontChar? bytes with
      | some (c, rest) => c :: repairedChars count rest
      | none =>
          Char.ofNat 0xfffd :: repairedChars count (bytes.drop (max 1 (startLength bytes)))

/-- The text of bytes, with a replacement character for each broken one. -/
def decodeRepaired (bytes : List UInt8) : String :=
  String.ofList (repairedChars bytes.length bytes)

/-- The bytes of characters. -/
def encodeChars (cs : List Char) : List UInt8 := (String.ofList cs).toUTF8.toList

/-- The number of bytes at the front that are text. -/
def textLength (bytes : List UInt8) : Nat :=
  ((List.range (bytes.length + 1)).reverse.find? fun n =>
    (decodeBytes? (bytes.take n)).isSome).getD 0

/-- The fault of bytes that are no text. -/
def utf8Fault (bytes : List UInt8) : Utf8Fault :=
  let index := textLength bytes
  let rest := bytes.drop index
  let length := startLength rest
  if length = 0 then ⟨index, some 1⟩
  else ⟨index, if length = rest.length then none else some length⟩

end Purse.Text
