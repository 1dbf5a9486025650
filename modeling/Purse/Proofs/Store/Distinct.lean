/-
  Purse.Proofs.Store.Distinct

  Lists of records in which no identifier stands twice.  Replacing one record or removing it
  changes a sum over such a list by what the record contributes, and nothing else.
-/
import Mathlib.Data.List.Nodup
import Purse.Proofs.Store.Table

namespace Purse.Store

variable {α ρ : Type} [Table ρ] [Record α ρ]

/-- No two of the records share an identifier. -/
def Distinct (as : List α) : Prop := (as.map Record.ident).Nodup

theorem distinct_cons {a : α} {as : List α} :
    Distinct (a :: as) ↔ (∀ b ∈ as, Record.ident b ≠ Record.ident a) ∧ Distinct as := by
  simp only [Distinct, List.map_cons, List.nodup_cons, List.mem_map, not_exists, not_and]

theorem eq_of_ident {as : List α} (distinct : Distinct as) {a b : α} (ha : a ∈ as) (hb : b ∈ as)
    (same : Record.ident a = Record.ident b) : a = b :=
  List.inj_on_of_nodup_map distinct ha hb same

theorem find?_of_mem {as : List α} (distinct : Distinct as) {a : α} (member : a ∈ as) :
    as.find? (Record.ident · = Record.ident a) = some a := by
  induction as with
  | nil => cases member
  | cons b as ih =>
      obtain ⟨others, distinct⟩ := distinct_cons.1 distinct
      rcases List.mem_cons.1 member with rfl | member
      · rw [List.find?_cons_of_pos (by simp)]
      · rw [List.find?_cons_of_neg (by simpa using (others a member).symm), ih distinct member]

/-- A stored record whose row can be read is found under its identifier. -/
theorem findById_of_mem [LawfulRecord α] {as : List α} {db : Database}
    (h : Table.rows db = as.map Record.toRow) (distinct : Distinct as) {stored a : α}
    (member : stored ∈ as) (read : Record.ofRow (Record.toRow stored) = .ok a) :
    findById α (Record.ident stored) db = .ok (some a) := by
  have found : Table.find? (ρ := ρ) db (Record.ident stored).text = some (Record.toRow stored) := by
    rw [find?_eq h, find?_of_mem distinct member]
    rfl
  simp only [findById, found, readRow, read]
  rfl

/-- Under an identifier that no stored record has, nothing is found. -/
theorem findById_of_absent [LawfulRecord α] {as : List α} {db : Database}
    (h : Table.rows db = as.map Record.toRow) {id : Ident}
    (absent : ∀ a ∈ as, Record.ident a ≠ id) : findById α id db = .ok none := by
  have missing : as.find? (Record.ident · = id) = none :=
    List.find?_eq_none.2 fun a member => by simpa using absent a member
  have nothing : Table.find? (ρ := ρ) db id.text = none := by
    rw [find?_eq h, missing]
    rfl
  simp only [findById, nothing]

/-- Where all rows can be read, an identifier finds the stored record that has it. -/
theorem findById_eq [LawfulRecord α] {as : List α} {db : Database}
    (h : Table.rows db = as.map Record.toRow)
    (legible : ∀ a ∈ as, Record.ofRow (Record.toRow a) = .ok a) (id : Ident) :
    findById α id db = .ok (as.find? (Record.ident · = id)) := by
  rw [findById, find?_eq h]
  cases found : as.find? (Record.ident · = id) with
  | none => rfl
  | some a =>
      have read := legible a (List.mem_of_find?_eq_some found)
      simp only [Option.map_some, readRow, read]
      rfl

/-! ## Replacing a record -/

@[simp] theorem ident_putRecord (a : α) (as : List α) :
    (putRecord a as).map Record.ident = as.map Record.ident := by
  rw [putRecord, List.map_map]
  apply List.map_congr_left
  intro b _
  rw [Function.comp_apply]
  split
  · next same => exact same.symm
  · rfl

theorem distinct_putRecord (a : α) {as : List α} (h : Distinct as) : Distinct (putRecord a as) := by
  rw [Distinct, ident_putRecord]
  exact h

theorem mem_of_mem_putRecord {a b : α} {as : List α} (h : b ∈ putRecord a as) :
    (b ∈ as ∧ Record.ident b ≠ Record.ident a) ∨
      (b = a ∧ ∃ c ∈ as, Record.ident c = Record.ident a) := by
  obtain ⟨c, member, hc⟩ := List.mem_map.1 h
  split at hc
  · next same => exact Or.inr ⟨hc.symm, c, member, same⟩
  · next other => exact Or.inl ⟨hc ▸ member, hc ▸ other⟩

theorem mem_putRecord_of_ne {a b : α} {as : List α} (member : b ∈ as)
    (other : Record.ident b ≠ Record.ident a) : b ∈ putRecord a as :=
  List.mem_map.2 ⟨b, member, if_neg other⟩

/-- A record takes the place of a stored one. -/
theorem mem_putRecord_self {a stored : α} {as : List α} (member : stored ∈ as)
    (same : Record.ident stored = Record.ident a) : a ∈ putRecord a as :=
  List.mem_map.2 ⟨stored, member, if_pos same⟩

/-- Under every identifier there is still a record. -/
theorem exists_mem_putRecord (a : α) {b : α} {as : List α} (member : b ∈ as) :
    ∃ c ∈ putRecord a as, Record.ident c = Record.ident b := by
  have idents : Record.ident b ∈ (putRecord a as).map Record.ident := by
    rw [ident_putRecord]
    exact List.mem_map_of_mem member
  exact List.mem_map.1 idents

/-- A sum over records changes by what the replaced one contributes. -/
theorem sum_putRecord (f : α → Int) {as : List α} (distinct : Distinct as) {a stored : α}
    (member : stored ∈ as) (same : Record.ident stored = Record.ident a) :
    ((putRecord a as).map f).sum = (as.map f).sum + (f a - f stored) := by
  induction as with
  | nil => cases member
  | cons b as ih =>
      obtain ⟨others, distinct⟩ := distinct_cons.1 distinct
      have split : putRecord a (b :: as) =
          (if Record.ident b = Record.ident a then a else b) :: putRecord a as := rfl
      rw [split, List.map_cons, List.sum_cons, List.map_cons, List.sum_cons]
      -- The record is found once: behind it, or before it, nothing is replaced.
      rcases List.mem_cons.1 member with rfl | member
      · rw [if_pos same, putRecord_of_absent (same ▸ others)]
        omega
      · have other : Record.ident b ≠ Record.ident a := by
          rw [← same]
          exact (others stored member).symm
        rw [if_neg other, ih distinct member]
        omega

/-! ## Adding and removing records -/

theorem distinct_append {a : α} {as : List α} (h : Distinct as)
    (new : ∀ b ∈ as, Record.ident b ≠ Record.ident a) : Distinct (as ++ [a]) := by
  simp only [Distinct, List.map_append, List.map_cons, List.map_nil]
  rw [List.nodup_append]
  refine ⟨h, List.nodup_singleton _, ?_⟩
  intro id idOf other single
  obtain ⟨b, member, rfl⟩ := List.mem_map.1 idOf
  rw [List.mem_singleton.1 single]
  exact new b member

theorem distinct_filter {as : List α} (h : Distinct as) (p : α → Bool) : Distinct (as.filter p) :=
  h.sublist (List.filter_sublist.map _)

/-- A sum over records changes by what the removed one contributes. -/
theorem sum_filter_ne (f : α → Int) {as : List α} (distinct : Distinct as) {stored : α}
    (member : stored ∈ as) :
    ((as.filter (Record.ident · ≠ Record.ident stored)).map f).sum =
      (as.map f).sum - f stored := by
  induction as with
  | nil => cases member
  | cons b as ih =>
      obtain ⟨others, distinct⟩ := distinct_cons.1 distinct
      rw [List.map_cons, List.sum_cons]
      rcases List.mem_cons.1 member with rfl | member
      · rw [List.filter_cons_of_neg (by simp), List.filter_eq_self.2 (by simpa using others)]
        omega
      · rw [List.filter_cons_of_pos (by simpa using (others stored member).symm), List.map_cons,
          List.sum_cons, ih distinct member]
        omega

end Purse.Store
