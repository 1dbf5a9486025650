/-
  Purse.Query.Like

  Text patterns.  In a pattern `%` stands for any run of characters, `_` for one, and a
  backslash makes the character after it stand for itself.  ASCII letters match in
  either case.  A pattern and a text count up to their first NUL only, and the two
  noncharacters at the end of the basic plane count as replacement characters.

  `containing` builds the pattern of the texts that hold a given text somewhere.
-/

namespace Purse.Query

/-- A part of a pattern. -/
inductive Wildcard where
  /-- Any run of characters. -/
  | run
  /-- Any one character. -/
  | single
  /-- One given character. -/
  | literal (c : Char)
  deriving DecidableEq, Repr

/-- A text as a pattern character by character, with the special ones escaped. -/
def escapeLike : List Char → List Char
  | [] => []
  | c :: rest =>
      if c = '%' ∨ c = '_' ∨ c = '\\' then '\\' :: c :: escapeLike rest
      else c :: escapeLike rest

/-- The pattern of the texts that contain `value`. -/
def containing (value : String) : String :=
  String.ofList ('%' :: escapeLike value.toList ++ ['%'])

/-- The parts of a pattern; none for a pattern that ends inside an escape. -/
def wildcards? : List Char → Option (List Wildcard)
  | [] => some []
  | '\\' :: c :: rest => (wildcards? rest).map (.literal c :: ·)
  | ['\\'] => none
  | c :: rest =>
      let part : Wildcard := if c = '%' then .run else if c = '_' then .single else .literal c
      (wildcards? rest).map (part :: ·)

/-- True for two characters that match: equal ones, and the two cases of an ASCII letter. -/
def sameLetter (a b : Char) : Bool := a.toLower == b.toLower

/-- The list and all lists left after dropping characters from its front. -/
def suffixes : List Char → List (List Char)
  | [] => [[]]
  | c :: rest => (c :: rest) :: suffixes rest

/-- True when the whole text is made of the parts. -/
def fits : List Wildcard → List Char → Bool
  | [], cs => cs.isEmpty
  | .run :: parts, cs => (suffixes cs).any (fits parts)
  | .single :: parts, cs => match cs with
    | [] => false
    | _ :: rest => fits parts rest
  | .literal a :: parts, cs => match cs with
    | [] => false
    | c :: rest => sameLetter a c && fits parts rest

/-- True when the characters of a text match those of a pattern. -/
def patternFits (pattern text : List Char) : Bool :=
  match wildcards? pattern with
  | some parts => fits parts text
  | none => false

/-- A character as matching sees it: two noncharacters are read as replacements. -/
def matchedChar (c : Char) : Char :=
  if c.toNat = 0xfffe ∨ c.toNat = 0xffff then Char.ofNat 0xfffd else c

/-- The characters that matching looks at: those up to the first NUL. -/
def matchedChars (s : String) : List Char := (s.toList.takeWhile (·.toNat ≠ 0)).map matchedChar

/-- True when the text matches the pattern. -/
def likeMatches (pattern text : String) : Bool :=
  patternFits (matchedChars pattern) (matchedChars text)

theorem mem_suffixes {s t : List Char} : s ∈ suffixes t ↔ ∃ u, u ++ s = t := by
  induction t with
  | nil => simp [suffixes]
  | cons c rest ih =>
      simp only [suffixes, List.mem_cons, ih]
      constructor
      · rintro (rfl | ⟨u, rfl⟩)
        · exact ⟨[], rfl⟩
        · exact ⟨c :: u, rfl⟩
      · rintro ⟨_ | ⟨d, u⟩, h⟩
        · exact .inl h
        · simp only [List.cons_append, List.cons.injEq] at h
          exact .inr ⟨u, h.2⟩

/-- An escaped text stands for itself, character by character. -/
theorem wildcards?_escapeLike_append (value rest : List Char) :
    wildcards? (escapeLike value ++ rest) =
      (wildcards? rest).map (value.map Wildcard.literal ++ ·) := by
  induction value with
  | nil => simp [escapeLike]
  | cons c value ih =>
      rw [escapeLike]
      split
      · next h => simp [wildcards?, ih, Function.comp_def]
      · next h =>
          simp only [not_or] at h
          obtain ⟨h1, h2, h3⟩ := h
          rw [List.cons_append, wildcards?]
          · simp [h1, h2, ih, Function.comp_def]
          · intro d r hd; exact absurd hd h3
          · intro hd; exact absurd hd h3

end Purse.Query
