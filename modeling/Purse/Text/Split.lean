/-
  Purse.Text.Split

  Cutting a text at a separator: at its first occurrence, at its last one, or at
  every one.  The separator itself is dropped, and what stands on its two sides
  is kept character for character.
-/

namespace Purse.Text

/-- The parts before and after the first `sep`, when there is one. -/
def splitFirst (sep : Char) : List Char → Option (List Char × List Char)
  | [] => none
  | c :: rest =>
      if c = sep then some ([], rest)
      else (splitFirst sep rest).map fun (before, after) => (c :: before, after)

/-- The parts before and after the last `sep`, when there is one. -/
def splitLast (sep : Char) : List Char → Option (List Char × List Char)
  | [] => none
  | c :: rest =>
      match splitLast sep rest with
      | some (before, after) => some (c :: before, after)
      | none => if c = sep then some ([], rest) else none

/-- The parts between separators, one more than there are separators. -/
def splitAll [DecidableEq α] (sep : α) : List α → List (List α)
  | [] => [[]]
  | c :: rest =>
      if c = sep then [] :: splitAll sep rest
      else match splitAll sep rest with
        | [] => [[c]]
        | part :: parts => (c :: part) :: parts

@[simp] theorem splitFirst_nil (sep : Char) : splitFirst sep [] = none := rfl

@[simp] theorem splitLast_nil (sep : Char) : splitLast sep [] = none := rfl

/-- A cut at the first separator puts the text together again. -/
theorem splitFirst_some {sep : Char} {cs before after : List Char}
    (h : splitFirst sep cs = some (before, after)) :
    cs = before ++ sep :: after ∧ sep ∉ before := by
  induction cs generalizing before with
  | nil => simp at h
  | cons c rest ih =>
      rw [splitFirst] at h
      split at h
      · simp_all
      · simp only [Option.map_eq_some_iff, Prod.mk.injEq, Prod.exists] at h
        obtain ⟨b, a, hba, rfl, rfl⟩ := h
        obtain ⟨rfl, hb⟩ := ih hba
        exact ⟨rfl, by simp_all [eq_comm]⟩

/-- The cut is made at a separator in front of which there is none. -/
theorem splitFirst_append {sep : Char} {before : List Char} (h : sep ∉ before)
    (after : List Char) : splitFirst sep (before ++ sep :: after) = some (before, after) := by
  induction before with
  | nil => simp [splitFirst]
  | cons c rest ih =>
      have other : c ≠ sep := fun same => h (same ▸ List.mem_cons_self)
      rw [List.cons_append, splitFirst, if_neg other, ih (h ∘ List.mem_cons_of_mem c),
        Option.map_some]

/-- There is no cut exactly where there is no separator. -/
theorem splitFirst_eq_none {sep : Char} {cs : List Char} :
    splitFirst sep cs = none ↔ sep ∉ cs := by
  induction cs with
  | nil => simp
  | cons c rest ih =>
      rw [splitFirst]
      split
      · next h => simp [h]
      · next h => simp [Option.map_eq_none_iff, ih, Ne.symm h]

/-- There is no cut at the last separator exactly where there is no separator. -/
theorem splitLast_eq_none {sep : Char} {cs : List Char} :
    splitLast sep cs = none ↔ sep ∉ cs := by
  induction cs with
  | nil => simp
  | cons c rest ih =>
      rw [splitLast]
      split
      · next h =>
          have hmem : sep ∈ rest := by
            by_cases hin : sep ∈ rest
            · exact hin
            · simp [ih.2 hin] at h
          simp [hmem]
      · next h =>
          have hnot := ih.1 h
          split
          · next hc => simp [hc]
          · next hc => simp [hnot, Ne.symm hc]

/-- A cut at the last separator puts the text together again. -/
theorem splitLast_some {sep : Char} {cs before after : List Char}
    (h : splitLast sep cs = some (before, after)) :
    cs = before ++ sep :: after ∧ sep ∉ after := by
  induction cs generalizing before with
  | nil => simp at h
  | cons c rest ih =>
      rw [splitLast] at h
      split at h
      · next b a hba =>
          simp only [Option.some.injEq, Prod.mk.injEq] at h
          obtain ⟨rfl, rfl⟩ := h
          obtain ⟨rfl, ha⟩ := ih hba
          exact ⟨rfl, ha⟩
      · next hnone =>
          split at h
          · simp only [Option.some.injEq, Prod.mk.injEq] at h
            obtain ⟨rfl, rfl⟩ := h
            exact ⟨by simp_all, splitLast_eq_none.1 hnone⟩
          · simp at h

/-- The cut is made at a separator behind which there is none. -/
theorem splitLast_append {sep : Char} {after : List Char} (h : sep ∉ after)
    (before : List Char) : splitLast sep (before ++ sep :: after) = some (before, after) := by
  induction before with
  | nil => rw [List.nil_append, splitLast, splitLast_eq_none.2 h, if_pos rfl]
  | cons c rest ih => rw [List.cons_append, splitLast, ih]

/-- There is one part more than there are separators. -/
theorem length_splitAll [DecidableEq α] (sep : α) (cs : List α) :
    (splitAll sep cs).length = cs.count sep + 1 := by
  induction cs with
  | nil => rfl
  | cons c rest ih =>
      rw [splitAll]
      split
      · next same => rw [List.length_cons, ih, same, List.count_cons_self]
      · next other =>
          rw [List.count_cons_of_ne other]
          cases parts : splitAll sep rest with
          | nil => simp [parts] at ih
          | cons part more => rw [← ih, parts]; rfl

/-- Cutting at every separator is the splitting of lists. -/
theorem splitAll_eq_splitOn [DecidableEq α] (sep : α) (cs : List α) :
    splitAll sep cs = cs.splitOn sep := by
  induction cs with
  | nil => rw [splitAll, List.splitOn_nil]
  | cons c rest ih =>
      simp only [splitAll, ih, List.splitOn, List.splitOnP_cons_eq_if_modifyHead, beq_iff_eq]
      cases parts : rest.splitOnP (· == sep) with
      | nil => exact absurd parts (List.splitOnP_ne_nil _ _)
      | cons part more => rfl

end Purse.Text
