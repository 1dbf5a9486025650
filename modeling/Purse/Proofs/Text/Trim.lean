/-
  Purse.Proofs.Text.Trim

  Texts without blanks at their ends.  Trimming a text again changes nothing (`trimmed_trimmed`),
  nor does trimming the written form of an identifier (`Ident.trimmed_text`) or a text that starts
  and ends with texts without blanks at their ends (`trim_append`).
-/
import Mathlib.Data.List.DropRight
import Purse.Ident
import Purse.Text.Blank
import Purse.Text.Digits

namespace Purse.Text

/-- What is left in front of the blanks at the end starts as the text does. -/
theorem trimFront_trimBack {cs : List Char} (h : trimFront cs = cs) :
    trimFront (trimBack cs) = trimBack cs := by
  have start : trimBack cs <+: cs := List.rdropWhile_prefix isBlank cs
  cases left : trimBack cs with
  | nil => rfl
  | cons c rest =>
      rw [left] at start
      obtain ⟨blanks, rfl⟩ := start
      -- The text keeps its first character, which is therefore no blank.
      cases blank : isBlank c with
      | false => exact trimFront_eq_self blank
      | true =>
          rw [List.cons_append, trimFront, List.dropWhile_cons_of_pos blank] at h
          have shorter := congrArg List.length h
          have most := (List.dropWhile_sublist isBlank (l := rest ++ blanks)).length_le
          rw [List.length_cons] at shorter
          omega

theorem trim_trim (cs : List Char) : trim (trim cs) = trim cs := by
  have front : trimFront (trimFront cs) = trimFront cs := List.dropWhile_idempotent isBlank cs
  have back : trimBack (trimBack (trimFront cs)) = trimBack (trimFront cs) :=
    List.rdropWhile_idempotent isBlank (trimFront cs)
  rw [trim, trim, trimFront_trimBack front, back]

@[simp] theorem trimmed_trimmed (s : String) : trimmed (trimmed s) = trimmed s := by
  rw [trimmed, toList_trimmed, trim_trim, trimmed]

theorem trimmed_eq_empty {s : String} : trimmed s = "" ↔ trim s.toList = [] := by
  rw [trimmed, String.ofList_eq_empty_iff]

/-- A text without blanks stays as it is. -/
theorem trim_of_forall {cs : List Char} (h : ∀ c ∈ cs, isBlank c = false) : trim cs = cs := by
  have front {cs : List Char} (h : ∀ c ∈ cs, isBlank c = false) : trimFront cs = cs := by
    cases cs with
    | nil => rfl
    | cons c rest => exact trimFront_eq_self (h c List.mem_cons_self)
  have back : trimFront cs.reverse = cs.reverse :=
    front fun c member => h c (List.mem_reverse.1 member)
  rw [trim, front h, trimBack, back, List.reverse_reverse]

theorem isBlank_of_isDigit {c : Char} (digit : isDigit c = true) : isBlank c = false :=
  forall_of_isDigit (p := fun c => isBlank c = false) (by decide) c digit

/-! ## Parts of a text -/

/-- What is no blank stays. -/
theorem mem_trimFront {c : Char} {cs : List Char} (visible : isBlank c = false) (h : c ∈ cs) :
    c ∈ trimFront cs := by
  rw [← List.takeWhile_append_dropWhile (p := isBlank) (l := cs)] at h
  rcases List.mem_append.1 h with dropped | kept
  · rw [List.mem_takeWhile_imp dropped] at visible
    cases visible
  · exact kept

theorem mem_trim {c : Char} {cs : List Char} (visible : isBlank c = false) (h : c ∈ cs) :
    c ∈ trim cs :=
  List.mem_reverse.2 (mem_trimFront visible (List.mem_reverse.2 (mem_trimFront visible h)))

/-- A text without blanks at its ends has none at its start. -/
theorem trimFront_of_trim {cs : List Char} (h : trim cs = cs) : trimFront cs = cs := by
  have back : trim cs <+: trimFront cs := List.rdropWhile_prefix isBlank (trimFront cs)
  have front : trimFront cs <:+ cs := List.dropWhile_suffix isBlank
  rw [h] at back
  exact front.eq_of_length (Nat.le_antisymm front.length_le back.length_le)

theorem trimBack_of_trim {cs : List Char} (h : trim cs = cs) : trimBack cs = cs := by
  rwa [trim, trimFront_of_trim h] at h

/-- The start of a text decides whether blanks are dropped from its front. -/
theorem trimFront_append {front : List Char} (tidy : trimFront front = front) (filled : front ≠ [])
    (rest : List Char) : trimFront (front ++ rest) = front ++ rest := by
  rw [trimFront] at tidy ⊢
  rw [List.dropWhile_append, tidy, if_neg (by simpa using filled)]

theorem trimBack_append {back : List Char} (tidy : trimBack back = back) (filled : back ≠ [])
    (rest : List Char) : trimBack (rest ++ back) = rest ++ back := by
  have start : trimFront back.reverse = back.reverse := List.reverse_eq_iff.1 tidy
  rw [trimBack, List.reverse_append, trimFront_append start (by simpa using filled),
    List.reverse_append, List.reverse_reverse, List.reverse_reverse]

/-- Two texts without blanks at their ends keep everything between them. -/
theorem trim_append {front back : List Char} (tidyFront : trim front = front)
    (tidyBack : trim back = back) (filledFront : front ≠ []) (filledBack : back ≠ [])
    (between : List Char) : trim (front ++ (between ++ back)) = front ++ (between ++ back) := by
  rw [trim, trimFront_append (trimFront_of_trim tidyFront) filledFront, ← List.append_assoc,
    trimBack_append (trimBack_of_trim tidyBack) filledBack]

end Purse.Text

namespace Purse.Ident

open Text

theorem isBlank_of_mem_fixedHex {width n : Nat} : ∀ c ∈ fixedHex width n, isBlank c = false := by
  induction width generalizing n with
  | zero => exact List.forall_mem_nil _
  | succ width ih =>
      have digit : ∀ m < 16, isBlank (hexDigit m) = false := by decide
      exact List.forall_mem_append.2
        ⟨ih, List.forall_mem_singleton.2 (digit _ (Nat.mod_lt _ (by decide)))⟩

theorem mem_hyphenate {ns : List Nat} {cs : List Char} {c : Char} (h : c ∈ hyphenate ns cs) :
    c ∈ cs ∨ c = '-' := by
  induction ns generalizing cs with
  | nil => exact .inl h
  | cons n ns ih =>
      cases ns with
      | nil => exact .inl h
      | cons m ns =>
          rcases List.mem_append.1 h with h | h
          · exact .inl (List.mem_of_mem_take h)
          · rcases List.mem_cons.1 h with h | h
            · exact .inr h
            · exact (ih h).imp_left List.mem_of_mem_drop

/-- The written form of an identifier has no blanks to be dropped. -/
@[simp] theorem trimmed_text (id : Ident) : trimmed id.text = id.text := by
  have plain : ∀ c ∈ id.chars, isBlank c = false := by
    intro c member
    rcases mem_hyphenate member with digit | rfl
    · exact isBlank_of_mem_fixedHex c digit
    · rfl
  rw [trimmed, text, String.toList_ofList, trim_of_forall plain]

end Purse.Ident
