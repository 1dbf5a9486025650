/-
  Purse.Ident

  Identifiers of 128 bits.  The written form is 32 lower-case hexadecimal digits
  in five groups; because its width is fixed, the written forms order as the
  numbers do.  Reading accepts four spellings: the grouped one, the digits
  alone, the grouped one in braces, and the grouped one after `urn:uuid:`.
-/
import Purse.Text.Quoted

namespace Purse

open Text

/-- The number of identifiers: one for each number of 128 bits. -/
def identCount : Nat := 0x100000000000000000000000000000000

/-- An identifier: a number of 128 bits. -/
structure Ident where
  value : Nat
  value_lt : value < identCount
  deriving DecidableEq

namespace Ident

instance : Inhabited Ident := ⟨⟨0, by decide⟩⟩

instance : LT Ident := ⟨fun a b => a.value < b.value⟩

instance (a b : Ident) : Decidable (a < b) := inferInstanceAs (Decidable (a.value < b.value))

/-- The identifier of a number, when it has at most 128 bits. -/
def ofNat? (n : Nat) : Option Ident := if h : n < identCount then some ⟨n, h⟩ else none

/-- The identifier with the low 128 bits of a number. -/
def ofBits (n : Nat) : Ident := ⟨n % identCount, Nat.mod_lt _ (by decide)⟩

/-- The identifier of random bytes, marked as random: four bits tell its version and two
    its variant. -/
def ofRandom (bytes : List UInt8) : Ident :=
  let marked := (bytes.modify 6 fun byte => 0x40 + byte % 16).modify 8 fun byte => 0x80 + byte % 64
  ofBits (marked.foldl (fun n byte => 256 * n + byte.toNat) 0)

/-- The last `width` hexadecimal digits of `n`. -/
def fixedHex : Nat → Nat → List Char
  | 0, _ => []
  | width + 1, n => fixedHex width (n / 16) ++ [hexDigit (n % 16)]

/-- The lengths of the groups in the written form. -/
def groups : List Nat := [8, 4, 4, 4, 12]

/-- Cuts digits into groups of the given lengths, with a hyphen between groups. -/
def hyphenate : List Nat → List Char → List Char
  | [], cs => cs
  | [_], cs => cs
  | n :: ns, cs => cs.take n ++ '-' :: hyphenate ns (cs.drop n)

/-- The digits of text in groups of the given lengths, when it has that shape. -/
def unhyphenate? : List Nat → List Char → Option (List Char)
  | [], cs => if cs = [] then some [] else none
  | [n], cs => if cs.length = n then some cs else none
  | n :: ns, cs =>
      match cs.drop n with
      | '-' :: rest => (unhyphenate? ns rest).map (cs.take n ++ ·)
      | _ => none

/-- The characters of the written form. -/
def chars (id : Ident) : List Char := hyphenate groups (fixedHex 32 id.value)

/-- The written form. -/
def text (id : Ident) : String := String.ofList id.chars

instance : ToString Ident := ⟨text⟩

/-- The value of a hexadecimal digit, in either case. -/
def hexValue? (c : Char) : Option Nat :=
  if '0' ≤ c ∧ c ≤ '9' then some (c.toNat - 48)
  else if 'a' ≤ c ∧ c ≤ 'f' then some (c.toNat - 87)
  else if 'A' ≤ c ∧ c ≤ 'F' then some (c.toNat - 55)
  else none

/-- The value of a run of hexadecimal digits, most significant first. -/
def hexNumber? (cs : List Char) : Option Nat :=
  cs.foldlM (fun n c => (hexValue? c).map (16 * n + ·)) 0

/-- Reads 32 digits. -/
def ofDigits? (cs : List Char) : Option Ident :=
  if cs.length = 32 then (hexNumber? cs).bind ofNat? else none

/-- Reads digits in groups. -/
def ofGrouped? (cs : List Char) : Option Ident := (unhyphenate? groups cs).bind ofDigits?

/-- Reads an identifier in any of the four spellings. -/
def ofChars? (cs : List Char) : Option Ident :=
  match cs with
  | '{' :: rest =>
      if rest.length = 37 ∧ rest.getLast? = some '}' then ofGrouped? rest.dropLast else none
  | 'u' :: 'r' :: 'n' :: ':' :: 'u' :: 'u' :: 'i' :: 'd' :: ':' :: rest => ofGrouped? rest
  | _ => if cs.length = 32 then ofDigits? cs else ofGrouped? cs

/-- `ofChars?` on a text. -/
def ofText? (s : String) : Option Ident := ofChars? s.toList

theorem ext_value {a b : Ident} (h : a.value = b.value) : a = b := by
  cases a; cases b; simp_all

end Ident

end Purse
