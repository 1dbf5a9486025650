/-
  Purse.Proofs.Codec.Ident

  Identifiers and their written form.  `ofText?_text` says that reading the written form
  gives the identifier back, so no two identifiers share a text (`text_inj`) and the key
  of a stored row names one record.

  The written form is taken apart from the inside: the digits (`hexNumber?_fixedHex`), the
  hyphens between them (`unhyphenate?_hyphenate`), then the choice among the spellings.
-/
import Mathlib.Algebra.Order.Ring.Int
import Purse.Ident

namespace Purse.Ident

open Text

/-! ## Digits -/

theorem hexValue?_hexDigit {n : Nat} (h : n < 16) : hexValue? (hexDigit n) = some n := by
  have all : ∀ m < 16, hexValue? (hexDigit m) = some m := by decide
  exact all n h

@[simp] theorem length_fixedHex (width n : Nat) : (fixedHex width n).length = width := by
  induction width generalizing n with
  | zero => rfl
  | succ width ih => simp [fixedHex, ih]

theorem hexNumber?_append_singleton (cs : List Char) (c : Char) :
    hexNumber? (cs ++ [c]) =
      (hexNumber? cs).bind fun n => (hexValue? c).map (16 * n + ·) := by
  simp only [hexNumber?, List.foldlM_append, List.foldlM_cons, List.foldlM_nil]
  cases List.foldlM (fun n c => Option.map (16 * n + ·) (hexValue? c)) 0 cs with
  | none => rfl
  | some n => cases hexValue? c <;> rfl

/-- Reading digits of a fixed width gives the number back when it fits. -/
theorem hexNumber?_fixedHex {width n : Nat} (h : n < 16 ^ width) :
    hexNumber? (fixedHex width n) = some n := by
  induction width generalizing n with
  | zero =>
      have : n = 0 := by simpa using h
      subst this
      rfl
  | succ width ih =>
      have hq : n / 16 < 16 ^ width := by
        apply Nat.div_lt_of_lt_mul
        rwa [Nat.pow_succ, Nat.mul_comm] at h
      rw [fixedHex, hexNumber?_append_singleton, ih hq,
        hexValue?_hexDigit (Nat.mod_lt _ (by decide))]
      simp only [Option.bind_some, Option.map_some, Option.some.injEq]
      omega

/-- The first digit is a digit, so it opens none of the other spellings. -/
theorem head_fixedHex {width n : Nat} {c : Char} {rest : List Char}
    (h : fixedHex width n = c :: rest) : ∃ m < 16, c = hexDigit m := by
  induction width generalizing n rest with
  | zero => simp [fixedHex] at h
  | succ width ih =>
      -- The last digit is the first one only if none stands before it.
      rw [fixedHex] at h
      cases front : fixedHex width (n / 16) with
      | nil =>
          rw [front, List.nil_append] at h
          exact ⟨n % 16, Nat.mod_lt _ (by decide), (List.cons.inj h).1.symm⟩
      | cons d ds =>
          rw [front, List.cons_append] at h
          exact ih ((List.cons.inj h).1 ▸ front)

/-! ## Groups -/

theorem hyphenate_cons_cons (n m : Nat) (ns : List Nat) (cs : List Char) :
    hyphenate (n :: m :: ns) cs = cs.take n ++ '-' :: hyphenate (m :: ns) (cs.drop n) := rfl

theorem length_hyphenate {n : Nat} {ns : List Nat} {cs : List Char}
    (h : cs.length = (n :: ns).sum) :
    (hyphenate (n :: ns) cs).length = cs.length + ns.length := by
  induction ns generalizing n cs with
  | nil => rfl
  | cons m ns ih =>
      simp only [List.sum_cons] at h
      have rest : (cs.drop n).length = (m :: ns).sum := by
        rw [List.length_drop, List.sum_cons]
        omega
      rw [hyphenate_cons_cons, List.length_append, List.length_cons, ih rest, List.length_take,
        List.length_drop, List.length_cons]
      omega

/-- Taking the hyphens out again gives the digits back. -/
theorem unhyphenate?_hyphenate {n : Nat} {ns : List Nat} {cs : List Char}
    (h : cs.length = (n :: ns).sum) :
    unhyphenate? (n :: ns) (hyphenate (n :: ns) cs) = some cs := by
  induction ns generalizing n cs with
  | nil =>
      have : cs.length = n := by simpa using h
      simp [hyphenate, unhyphenate?, this]
  | cons m ns ih =>
      simp only [List.sum_cons] at h
      have front : (cs.take n).length = n := by
        rw [List.length_take]
        omega
      have rest : (cs.drop n).length = (m :: ns).sum := by
        rw [List.length_drop, List.sum_cons]
        omega
      have dropped : (cs.take n ++ '-' :: hyphenate (m :: ns) (cs.drop n)).drop n =
          '-' :: hyphenate (m :: ns) (cs.drop n) := by
        rw [List.drop_append_of_le_length (by omega), List.drop_of_length_le (by omega),
          List.nil_append]
      have taken : (cs.take n ++ '-' :: hyphenate (m :: ns) (cs.drop n)).take n = cs.take n := by
        rw [List.take_append_of_le_length (by omega), List.take_of_length_le (by omega)]
      simp only [hyphenate, unhyphenate?, dropped, ih rest, taken]
      simp

/-! ## The written form -/

theorem length_chars (id : Ident) : id.chars.length = 36 := by
  rw [chars, groups, length_hyphenate (by simp)]
  simp

/-- The grouped spelling is chosen for the written form. -/
theorem ofChars?_chars (id : Ident) : ofChars? id.chars = ofGrouped? id.chars := by
  have hlen := length_chars id
  obtain ⟨c, rest, hc⟩ : ∃ c rest, fixedHex 32 id.value = c :: rest :=
    List.exists_cons_of_length_eq_add_one (length_fixedHex 32 id.value)
  obtain ⟨m, hm, rfl⟩ := head_fixedHex hc
  have hchars : ∃ tail, id.chars = hexDigit m :: tail := by
    simp [chars, groups, hyphenate, hc]
  obtain ⟨tail, htail⟩ := hchars
  rw [htail] at hlen ⊢
  -- A digit is neither a brace nor the start of the longest spelling.
  have hbrace : hexDigit m ≠ '{' := by
    have all : ∀ k < 16, hexDigit k ≠ '{' := by decide
    exact all m hm
  have hurn : hexDigit m ≠ 'u' := by
    have all : ∀ k < 16, hexDigit k ≠ 'u' := by decide
    exact all m hm
  unfold ofChars?
  split
  · next heq => exact absurd (List.cons.inj heq).1 hbrace
  · next heq => exact absurd (List.cons.inj heq).1 hurn
  · rw [if_neg (by omega)]

/-- Reading the written form of an identifier gives it back. -/
theorem ofText?_text (id : Ident) : ofText? id.text = some id := by
  have hdigits : hexNumber? (fixedHex 32 id.value) = some id.value :=
    hexNumber?_fixedHex (by simpa [identCount] using id.value_lt)
  have hgroups : unhyphenate? groups id.chars = some (fixedHex 32 id.value) :=
    unhyphenate?_hyphenate (by simp)
  have hsmall : ofNat? id.value = some id := by simp [ofNat?, id.value_lt]
  rw [ofText?, text, String.toList_ofList, ofChars?_chars, ofGrouped?, hgroups, Option.bind_some,
    ofDigits?, if_pos (length_fixedHex 32 _), hdigits, Option.bind_some, hsmall]

/-- Different identifiers have different texts. -/
@[simp] theorem text_inj {a b : Ident} : a.text = b.text ↔ a = b := by
  constructor
  · intro h
    have := congrArg ofText? h
    rw [ofText?_text, ofText?_text] at this
    exact Option.some.inj this
  · rintro rfl
    rfl

end Purse.Ident
