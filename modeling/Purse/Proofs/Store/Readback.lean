/-
  Purse.Proofs.Store.Readback

  Records that are read right after they were written.  A record is read back with its times to the
  whole second and is otherwise the one that was written (`ofRow_toRow_truncate`).  In any database
  a record that was stored or replaced is the one that is found under its identifier, and all that
  stands beside its row stays as it was (`written_of_create`, `written_of_update`).  A replacement
  finds nothing to replace exactly where the identifier is not stored (`update_eq_false_iff`).
-/
import Purse.Proofs.Store.Answers

namespace Purse.Store

/-- A stored row is read as the record that was written, with its times to the whole second. -/
theorem ofRow_toRow_truncate {α ρ : Type} [Table ρ] [Record α ρ] [Described α] [LawfulDescribed α]
    [Truncates α] {a : α} (plain : ∀ t ∈ Described.times a, t.WellFormed ∧ t.InPlainYear) :
    Record.ofRow (Record.toRow a) = .ok (Truncates.truncate a) := by
  rw [← Truncates.toRow_truncate a]
  exact LawfulDescribed.ofRow_toRow _ (storable_truncate plain)

/-! ## Rows beside one -/

/-- The laws of a table whose rows can be looked at and replaced as one list. -/
class LawfulTable (ρ : Type) [Table ρ] : Prop where
  rows_withRows (db : Database) (rows : List ρ) : Table.rows (Table.withRows db rows) = rows
  withRows_withRows (db : Database) (rows rows' : List ρ) :
    Table.withRows (Table.withRows db rows) rows' = Table.withRows db rows'

instance : LawfulTable WalletRow := ⟨fun _ _ => rfl, fun _ _ _ => rfl⟩

instance : LawfulTable ProductRow := ⟨fun _ _ => rfl, fun _ _ _ => rfl⟩

instance : LawfulTable EntryRow := ⟨fun _ _ => rfl, fun _ _ _ => rfl⟩

variable {ρ : Type} [Table ρ]

variable (ρ) in
/-- All that is stored beside the row with a key: the other rows of its table, in their order, and
    the other tables. -/
def beside (k : String) (db : Database) : Database :=
  Table.withRows db ((Table.rows (ρ := ρ) db).filter (Table.key · ≠ some k))

theorem beside_withRows [LawfulTable ρ] {db : Database} {rows : List ρ} {k : String}
    (same : rows.filter (Table.key · ≠ some k) =
      (Table.rows db).filter (Table.key · ≠ some k)) :
    beside ρ k (Table.withRows db rows) = beside ρ k db := by
  rw [beside, beside, LawfulTable.rows_withRows, same, LawfulTable.withRows_withRows]

/-! ### Replacing a row -/

/-- What is replaced by a row under the same key is found as that row. -/
theorem find?_replaced {row : ρ} {k : String} {rows : List ρ} (key : Table.key row = some k)
    (stored : (rows.find? (Table.key · = some k)).isSome) :
    (rows.map fun r => if Table.key r = some k then row else r).find? (Table.key · = some k) =
      some row := by
  induction rows with
  | nil => cases stored
  | cons r rows ih =>
      rw [List.map_cons]
      by_cases here : Table.key r = some k
      · rw [if_pos here, List.find?_cons_of_pos (by simpa using key)]
      · rw [List.find?_cons_of_neg (by simpa using here)] at stored
        rw [if_neg here, List.find?_cons_of_neg (by simpa using here), ih stored]

/-- Rows under other keys are not touched. -/
theorem filter_replaced {row : ρ} {k : String} (rows : List ρ) (key : Table.key row = some k) :
    (rows.map fun r => if Table.key r = some k then row else r).filter (Table.key · ≠ some k) =
      rows.filter (Table.key · ≠ some k) := by
  induction rows with
  | nil => rfl
  | cons r rows ih =>
      rw [List.map_cons]
      by_cases here : Table.key r = some k
      · rw [if_pos here, List.filter_cons_of_neg (by simp [key]), ih,
          List.filter_cons_of_neg (by simp [here])]
      · rw [if_neg here, List.filter_cons_of_pos (by simpa using here), ih,
          List.filter_cons_of_pos (by simpa using here)]

/-! ## Writes and what they leave -/

/-- What a write of a record leaves: the record is found as its row is read, and nothing beside it
    has changed. -/
structure Written {α : Type} [Record α ρ] (a read : α) (db after : Database) : Prop where
  found : findById α (Record.ident a) after = .ok (some read)
  others : beside ρ (Record.ident a).text after = beside ρ (Record.ident a).text db

section

variable {α : Type} [Record α ρ] {a read : α} {db after : Database}

theorem findById_of_find? {id : Ident} (found : Table.find? db id.text = some (Record.toRow a))
    (reads : Record.ofRow (Record.toRow a) = .ok read) : findById α id db = .ok (some read) := by
  simp only [findById, found, readRow, reads]
  rfl

variable [LawfulRecord α]

/-- A replacement that finds nothing to replace changes nothing, and this happens exactly where the
    identifier is not stored. -/
theorem update_eq_false_iff :
    update a db = (.ok false, after) ↔
      after = db ∧ Table.find? (ρ := ρ) db (Record.ident a).text = none := by
  rw [update_eq_ok, Table.replace?_eq_ok (LawfulRecord.key_toRow a)]
  simp

variable [LawfulTable ρ]

theorem written_of_create (reads : Record.ofRow (Record.toRow a) = .ok read)
    (done : create a db = (.ok (), after)) : Written a read db after := by
  obtain ⟨checked, rfl⟩ := Table.insert_eq_ok.1 (create_eq_ok.1 done)
  obtain ⟨-, free, -⟩ := Table.verify_eq_ok.1 checked
  have key := LawfulRecord.key_toRow a
  have new : ∀ row ∈ Table.rows (ρ := ρ) db, Table.key row ≠ some (Record.ident a).text := by
    intro row member same
    have clash := free row member
    simp [Table.conflicts, same, key] at clash
  constructor
  · refine findById_of_find? ?_ reads
    rw [Table.find?, LawfulTable.rows_withRows]
    exact List.find?_eq_some_iff_append.2
      ⟨by simpa using key, _, [], rfl, by simpa using new⟩
  · refine beside_withRows ?_
    rw [List.filter_append, List.filter_cons_of_neg (by simp [key]), List.filter_nil,
      List.append_nil]

theorem written_of_update (reads : Record.ofRow (Record.toRow a) = .ok read)
    (done : update a db = (.ok true, after)) : Written a read db after := by
  have key := LawfulRecord.key_toRow a
  rcases update_eq_ok.1 done with ⟨⟨⟩, -⟩ | ⟨-, replaced⟩
  rcases (Table.replace?_eq_ok key).1 replaced with ⟨-, ⟨⟩⟩ | ⟨stored, -, left⟩
  obtain rfl := Option.some.inj left
  constructor
  · refine findById_of_find? ?_ reads
    rw [Table.find?, LawfulTable.rows_withRows]
    exact find?_replaced key stored
  · exact beside_withRows (filter_replaced _ key)

end

end Purse.Store
