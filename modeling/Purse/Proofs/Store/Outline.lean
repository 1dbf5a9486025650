/-
  Purse.Proofs.Store.Outline

  What the constraints of a table look at in the rows that stand beside a new one: their keys and
  their unique values, which make up the outline of a row.  A statement is refused for the same
  reason, or taken, in two databases whose rows have the same outlines (`agree_replace?`,
  `agree_insert`).  Times are not part of an outline, so no refusal depends on them.
-/
import Purse.Proofs.Store.Table

namespace Purse.Store

/-! ## Outlines -/

/-- The part of a row that the constraints look at in other rows. -/
class Outlined (ρ : Type) [Table ρ] where
  outline : ρ → ρ
  key_outline (r : ρ) : Table.key (outline r) = Table.key r
  clashes_outline (a b : ρ) : Table.clashes (outline a) (outline b) = Table.clashes a b

open Outlined (outline)

instance : Outlined WalletRow where
  outline row := { row with balance := .null, lastMovedAt := none, createdAt := "" }
  key_outline _ := rfl
  clashes_outline _ _ := rfl

instance : Outlined ProductRow where
  outline row := { id := row.id, name := row.name, description := none, price := .null
                   quantity := .null, available := .null, createdAt := "", updatedAt := "" }
  key_outline _ := rfl
  clashes_outline _ _ := rfl

section

variable {ρ : Type} [Table ρ] [Outlined ρ]

theorem conflicts_outline (a b : ρ) :
    Table.conflicts (outline a) (outline b) = Table.conflicts a b := by
  simp only [Table.conflicts, Outlined.key_outline, Outlined.clashes_outline]

/-- A row meets the same conflicts beside rows with the same outlines. -/
theorem any_conflicts_congr {others others' : List ρ} {row row' : ρ}
    (same : others.map outline = others'.map outline) (sameRow : outline row = outline row') :
    others.any (Table.conflicts · row) = others'.any (Table.conflicts · row') := by
  have seen (rows : List ρ) (r : ρ) : rows.any (Table.conflicts · r) =
      (rows.map outline).any (Table.conflicts · (outline r)) := by
    simp only [List.any_map, Function.comp_def, conflicts_outline]
  rw [seen others row, seen others' row', same, sameRow]

theorem isSome_find?_congr {db db' : Database}
    (same : (Table.rows db).map (outline (ρ := ρ)) = (Table.rows db').map outline) (k : String) :
    (Table.find? (ρ := ρ) db k).isSome = (Table.find? (ρ := ρ) db' k).isSome := by
  have seen (base : Database) : (Table.find? (ρ := ρ) base k).isSome =
      ((Table.rows base).map (outline (ρ := ρ))).any (Table.key · = some k) := by
    simp only [Table.find?, List.isSome_find?, List.any_map, Function.comp_def,
      Outlined.key_outline]
  rw [seen db, seen db', same]

theorem outline_filter_congr {rows rows' : List ρ} (same : rows.map outline = rows'.map outline)
    (k : Option String) :
    (rows.filter (Table.key · ≠ k)).map outline = (rows'.filter (Table.key · ≠ k)).map outline := by
  have seen (rows : List ρ) : (rows.filter (Table.key · ≠ k)).map outline =
      (rows.map outline).filter (Table.key · ≠ k) := by
    simp only [List.filter_map, Function.comp_def, Outlined.key_outline]
  rw [seen rows, seen rows', same]

theorem outline_replace_congr {rows rows' : List ρ} (same : rows.map outline = rows'.map outline)
    {row row' : ρ} (sameRow : outline row = outline row') (k : Option String) :
    (rows.map fun r => if Table.key r = k then row else r).map outline =
      (rows'.map fun r => if Table.key r = k then row' else r).map outline := by
  have seen (rows : List ρ) (row : ρ) :
      (rows.map fun r => if Table.key r = k then row else r).map outline =
        (rows.map outline).map fun r => if Table.key r = k then outline row else r := by
    simp only [List.map_map, Function.comp_def, Outlined.key_outline, apply_ite outline]
  rw [seen rows row, seen rows' row', same, sameRow]

end

/-! ## Statements -/

section

variable {ρ : Type} [Table ρ]

theorem verify_congr {db db' : Database} {others others' : List ρ} {row row' : ρ}
    (admissible : Table.admissible row = Table.admissible row')
    (conflicts : others.any (Table.conflicts · row) = others'.any (Table.conflicts · row'))
    (resolves : Table.resolves db row = Table.resolves db' row') :
    Table.verify db others row = Table.verify db' others' row' := by
  simp only [Table.verify, admissible, conflicts, resolves]

/-- Rows that meet the same conflicts are inserted, or refused for the same reason. -/
theorem agree_insert {db db' : Database} {row row' : ρ}
    (admissible : Table.admissible row = Table.admissible row')
    (conflicts : (Table.rows db).any (Table.conflicts · row) =
      (Table.rows db').any (Table.conflicts · row'))
    (resolves : Table.resolves db row = Table.resolves db' row') :
    Agree (fun after after' => after = Table.withRows db (Table.rows db ++ [row]) ∧
      after' = Table.withRows db' (Table.rows db' ++ [row'])) (Table.insert row db)
      (Table.insert row' db') := by
  rw [Table.insert, Table.insert, verify_congr admissible conflicts resolves]
  exact Agree.bind_same fun _ _ => .ok ⟨rfl, rfl⟩

/-- Rows with the same outline are replaced among rows with the same outlines, or refused for
    the same reason. -/
theorem agree_replace? [Outlined ρ] {db db' : Database} {row row' : ρ} {k : String}
    (key : Table.key row = some k)
    (same : (Table.rows db).map (outline (ρ := ρ)) = (Table.rows db').map outline)
    (sameRow : outline row = outline row')
    (admissible : Table.admissible row = Table.admissible row')
    (resolves : Table.resolves db row = Table.resolves db' row') :
    Agree (fun after? after?' => (after? = none ∧ after?' = none) ∨
      ∃ rows rows' : List ρ, after? = some (Table.withRows db rows) ∧
        after?' = some (Table.withRows db' rows') ∧ rows.map outline = rows'.map outline)
      (Table.replace? row db) (Table.replace? row' db') := by
  have key' : Table.key row' = some k := by
    rw [← Outlined.key_outline row', ← sameRow, Outlined.key_outline, key]
  have present := isSome_find?_congr same k
  simp only [Table.replace?, key, key', Option.bind_some]
  -- The row to replace is stored in both databases or in neither.
  cases found : Table.find? (ρ := ρ) db k with
  | none =>
      cases found' : Table.find? (ρ := ρ) db' k with
      | none => exact .ok (Or.inl ⟨rfl, rfl⟩)
      | some old' => simp [found, found'] at present
  | some old =>
      cases found' : Table.find? (ρ := ρ) db' k with
      | none => simp [found, found'] at present
      | some old' =>
          -- Beside the other rows the new ones meet the same conflicts.
          have conflicts := any_conflicts_congr (outline_filter_congr same (some k)) sameRow
          simp only [verify_congr admissible conflicts resolves]
          refine Agree.bind_same fun _ _ => .ok (Or.inr ?_)
          exact ⟨_, _, rfl, rfl, outline_replace_congr same sameRow (some k)⟩

end

end Purse.Store
