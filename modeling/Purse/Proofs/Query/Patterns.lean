/-
  Purse.Proofs.Query.Patterns

  The texts that a pattern matches.  `Matches` says part by part what a pattern stands for, and
  the matcher decides it (`fits_iff`).  The pattern that is built from a value has the characters of
  the value between two runs and no other part, so a text matches it exactly when the value occurs
  in the text up to the case of ASCII letters (`patternFits_containing`).  Rows are matched without
  what stands behind a NUL, and with two noncharacters read as replacements, which changes neither
  where a pattern has its escapes nor what it stands for (`likeMatches_containing`).
-/
import Mathlib.Data.List.Forall2
import Mathlib.Data.List.TakeWhile
import Purse.Query.Selection

namespace Purse.Query

/-! ## What patterns stand for -/

/-- True for an ASCII letter in its two cases, the capital first. -/
def IsCapitalOf (capital small : Char) : Prop :=
  capital.isUpper = true ∧ small.toNat = capital.toNat + 32

/-- True for characters that are equal but for the case of an ASCII letter. -/
def SameUpToCase (a b : Char) : Prop := a = b ∨ IsCapitalOf a b ∨ IsCapitalOf b a

/-- True when a text holds the value somewhere, up to the case of ASCII letters. -/
def Occurs (value text : List Char) : Prop :=
  ∃ before piece after, text = before ++ piece ++ after ∧ List.Forall₂ SameUpToCase value piece

/-- The texts that are made of the parts of a pattern. -/
inductive Matches : List Wildcard → List Char → Prop
  | nil : Matches [] []
  | run {parts : List Wildcard} {cs : List Char} (before : List Char) (rest : Matches parts cs) :
      Matches (.run :: parts) (before ++ cs)
  | single {parts : List Wildcard} {cs : List Char} (c : Char) (rest : Matches parts cs) :
      Matches (.single :: parts) (c :: cs)
  | literal {parts : List Wildcard} {cs : List Char} {a c : Char} (same : SameUpToCase a c)
      (rest : Matches parts cs) : Matches (.literal a :: parts) (c :: cs)

/-! ## Letters -/

section

variable {a b c : Char}

theorem isUpper_iff : c.isUpper = true ↔ 65 ≤ c.toNat ∧ c.toNat ≤ 90 :=
  decide_eq_true_iff

theorem toNat_toLower (c : Char) :
    c.toLower.toNat = if 65 ≤ c.toNat ∧ c.toNat ≤ 90 then c.toNat + 32 else c.toNat := by
  unfold Char.toLower
  split
  · next capital =>
      have bounds : 65 ≤ c.toNat ∧ c.toNat ≤ 90 := isUpper_iff.1 (decide_eq_true capital)
      have small : c.toNat + 32 < 2 ^ 32 := by omega
      rw [if_pos bounds]
      exact (UInt32.toNat_add c.val 32).trans (Nat.mod_eq_of_lt small)
  · next other =>
      have bounds : ¬ (65 ≤ c.toNat ∧ c.toNat ≤ 90) :=
        fun bounds => other (of_decide_eq_true (isUpper_iff.2 bounds))
      rw [if_neg bounds]

theorem sameLetter_iff : sameLetter a b = true ↔ SameUpToCase a b := by
  simp only [sameLetter, beq_iff_eq, ← Char.toNat_inj, toNat_toLower, SameUpToCase, IsCapitalOf,
    isUpper_iff]
  split <;> split <;> omega

end

/-! ## The matcher -/

section

variable {parts parts' : List Wildcard} {value cs text : List Char}

/-- The matcher finds a way to make a text of the parts whenever there is one. -/
theorem fits_iff : fits parts cs = true ↔ Matches parts cs := by
  induction parts generalizing cs with
  | nil =>
      rw [fits, List.isEmpty_iff]
      constructor
      · rintro rfl
        exact .nil
      · intro made
        cases made
        rfl
  | cons part parts ih =>
      cases part with
      | run =>
          simp only [fits, List.any_eq_true, mem_suffixes, ih]
          constructor
          · rintro ⟨rest, ⟨before, rfl⟩, made⟩
            exact .run before made
          · intro made
            cases made with
            | run before made => exact ⟨_, ⟨before, rfl⟩, made⟩
      | single =>
          cases cs with
          | nil => exact iff_of_false nofun nofun
          | cons c cs =>
              rw [fits, ih]
              constructor
              · exact .single c
              · intro made
                cases made with
                | single _ made => exact made
      | literal a =>
          cases cs with
          | nil => exact iff_of_false nofun nofun
          | cons c cs =>
              rw [fits, Bool.and_eq_true, sameLetter_iff, ih]
              constructor
              · rintro ⟨same, made⟩
                exact .literal same made
              · intro made
                cases made with
                | literal same made => exact ⟨same, made⟩

theorem matches_run : Matches (.run :: parts) text ↔
    ∃ before rest, text = before ++ rest ∧ Matches parts rest := by
  constructor
  · intro made
    cases made with
    | run before rest => exact ⟨before, _, rfl, rest⟩
  · rintro ⟨before, rest, rfl, made⟩
    exact .run before made

theorem matches_literals : Matches (value.map .literal ++ parts) text ↔
    ∃ piece rest, text = piece ++ rest ∧ List.Forall₂ SameUpToCase value piece ∧
      Matches parts rest := by
  induction value generalizing text with
  | nil => simp
  | cons a value ih =>
      rw [List.map_cons, List.cons_append]
      constructor
      · intro made
        cases made with
        | literal same made =>
            obtain ⟨piece, rest, rfl, alike, made⟩ := ih.1 made
            exact ⟨_ :: piece, rest, rfl, .cons same alike, made⟩
      · rintro ⟨piece, rest, rfl, alike, made⟩
        cases alike with
        | cons same alike => exact .literal same (ih.2 ⟨_, rest, rfl, alike, made⟩)

/-- The value with runs on its two sides stands for the texts that hold it. -/
theorem matches_between_runs :
    Matches (.run :: (value.map .literal ++ [.run])) text ↔ Occurs value text := by
  have anything (rest : List Char) : Matches [.run] rest :=
    matches_run.2 ⟨rest, [], (List.append_nil rest).symm, .nil⟩
  simp only [matches_run, matches_literals, anything, and_true, Occurs]
  constructor
  · rintro ⟨before, _, rfl, piece, after, rfl, alike⟩
    exact ⟨before, piece, after, (List.append_assoc ..).symm, alike⟩
  · rintro ⟨before, piece, after, rfl, alike⟩
    exact ⟨before, _, List.append_assoc .., piece, after, rfl, alike⟩

end

/-! ## Values as patterns -/

section

variable (value text : List Char)

/-- The characters of the value, between two runs, are all that the pattern is made of. -/
theorem wildcards?_containing :
    wildcards? ('%' :: (escapeLike value ++ ['%'])) =
      some (.run :: (value.map .literal ++ [.run])) := by
  rw [wildcards?]
  · rw [wildcards?_escapeLike_append]
    rfl
  · exact fun _ _ percent => absurd percent (by decide)
  · exact fun percent => absurd percent (by decide)

theorem patternFits_containing :
    patternFits ('%' :: (escapeLike value ++ ['%'])) text = true ↔ Occurs value text := by
  rw [patternFits, wildcards?_containing, fits_iff, matches_between_runs]

theorem occurs_nil : Occurs [] text := ⟨[], [], text, rfl, .nil⟩

end

/-! ## Rows -/

section

variable {c d : Char} {value text : String}

/-- Matching reads no other character as one of those below the replacement character. -/
theorem matchedChar_eq_iff (below : d.toNat < 0xfffd) : matchedChar c = d ↔ c = d := by
  unfold matchedChar
  split
  · next noncharacter =>
      have replaced : Char.ofNat 0xfffd ≠ d := by
        rintro rfl
        exact absurd below (by decide)
      have other : c ≠ d := by
        rintro rfl
        omega
      exact iff_of_false replaced other
  · rfl

theorem map_matchedChar_escapeLike (value : List Char) :
    (escapeLike value).map matchedChar = escapeLike (value.map matchedChar) := by
  have percent : '%'.toNat < 0xfffd := by decide
  have underscore : '_'.toNat < 0xfffd := by decide
  have backslash : '\\'.toNat < 0xfffd := by decide
  induction value with
  | nil => rfl
  | cons c value ih =>
      -- The same characters are escaped, and an escape stays one.
      simp only [List.map_cons, escapeLike, matchedChar_eq_iff percent,
        matchedChar_eq_iff underscore, matchedChar_eq_iff backslash]
      split
      · rw [List.map_cons, List.map_cons, ih, (matchedChar_eq_iff backslash).2 rfl]
      · rw [List.map_cons, ih]

theorem mem_escapeLike {value : List Char} (h : c ∈ escapeLike value) : c = '\\' ∨ c ∈ value := by
  induction value with
  | nil => cases h
  | cons d value ih =>
      rw [escapeLike] at h
      split at h <;> simp only [List.mem_cons] at h ⊢ <;> tauto

theorem matchedChars_eq (plain : '\x00' ∉ text.toList) :
    matchedChars text = text.toList.map matchedChar := by
  have whole : text.toList.takeWhile (·.toNat ≠ 0) = text.toList := by
    refine List.takeWhile_eq_self_iff.2 fun c member => decide_eq_true fun zero => plain ?_
    have nul : c = '\x00' := Char.toNat_inj.1 zero
    rwa [nul] at member
  rw [matchedChars, whole]

theorem toList_containing (value : String) :
    (containing value).toList = '%' :: (escapeLike value.toList ++ ['%']) := by
  rw [containing, String.toList_ofList, List.cons_append]

theorem likeMatches_containing (plainValue : '\x00' ∉ value.toList)
    (plainText : '\x00' ∉ text.toList) :
    likeMatches (containing value) text = true ↔
      Occurs (value.toList.map matchedChar) (text.toList.map matchedChar) := by
  have plainPattern : '\x00' ∉ (containing value).toList := by
    rw [toList_containing, List.mem_cons, List.mem_append, List.mem_singleton]
    rintro (percent | escaped | percent)
    · cases percent
    · rcases mem_escapeLike escaped with backslash | member
      · cases backslash
      · exact plainValue member
    · cases percent
  have percent : matchedChar '%' = '%' := rfl
  rw [likeMatches, matchedChars_eq plainPattern, matchedChars_eq plainText, toList_containing,
    List.map_cons, List.map_append, List.map_singleton, percent, map_matchedChar_escapeLike,
    patternFits_containing]

end

/-- A condition `like` selects the texts that hold its value as it stands, up to the case of ASCII
    letters: the special characters of patterns are ordinary ones in it, and an empty value selects
    every text. -/
theorem like_iff_occurs (value text : String) :
    wildcards? (containing value).toList =
        some (.run :: (value.toList.map .literal ++ [.run])) ∧
      (patternFits (containing value).toList text.toList = true ↔
        Occurs value.toList text.toList) ∧
      patternFits (containing "").toList text.toList = true ∧
      ('\x00' ∉ value.toList → '\x00' ∉ text.toList →
        ∀ field : Field, field.kind = .text → ∃ p, field.predicate .like value = .ok p ∧
          ∀ row : RowView, row field.name = .text text →
            (p.holds row = true ↔
              Occurs (value.toList.map matchedChar) (text.toList.map matchedChar))) := by
  refine ⟨?_, ?_, ?_, fun plainValue plainText field textual =>
    ⟨.like field.name (containing value), ?_, ?_⟩⟩
  · rw [toList_containing, wildcards?_containing]
  · rw [toList_containing, patternFits_containing]
  · rw [toList_containing]
    exact (patternFits_containing [] text.toList).2 (occurs_nil text.toList)
  · rw [Field.predicate, if_pos textual]
  · intro row shown
    rw [Predicate.holds, shown]
    exact likeMatches_containing plainValue plainText

/-- A percent sign is looked for like any other character. -/
theorem like_iff_occurs_of_percent :
    Occurs "0% OFF".toList "50% off".toList ∧ ¬ Occurs "0%".toList "500 units".toList ∧
      ∃ p, Field.predicate ⟨"name", .text⟩ .like "0% OFF" = .ok p ∧
        p.holds (fun _ => .text "50% off") = true := by
  obtain ⟨-, discount, -, rows⟩ := like_iff_occurs "0% OFF" "50% off"
  have occurs := discount.1 (by decide)
  refine ⟨occurs, fun occurs => ?_, ?_⟩
  · have matched := (like_iff_occurs "0%" "500 units").2.1.2 occurs
    exact absurd matched (by decide)
  · obtain ⟨p, made, holds⟩ := rows (by decide) (by decide) ⟨"name", .text⟩ rfl
    exact ⟨p, made, (holds _ rfl).2 occurs⟩

end Purse.Query
