/-
  Purse.Proofs.Store.Table

  What a statement that took effect has checked, and what it left.  The lemmas speak of any
  table, and of writes of any record; those on the records of a table ask for the laws of
  `LawfulRecord`, which the wallets, the products and the entries obey.
-/
import Purse.Proofs.Codec.Record
import Purse.Store.Repository

namespace Purse.Store

/-! ## Statements -/

namespace Table

variable {ρ : Type} [Table ρ]

theorem verify_eq_ok {db : Database} {others : List ρ} {row : ρ} :
    verify db others row = .ok () ↔
      admissible row = true ∧ (∀ r ∈ others, conflicts r row = false) ∧
        resolves db row = true := by
  unfold verify
  split
  · next h => simp_all
  · split
    · next h1 h2 =>
        simp only [reduceCtorEq, false_iff, not_and]
        obtain ⟨r, member, clash⟩ := List.any_eq_true.1 h2
        intro _ free
        rw [free r member] at clash
        exact absurd clash (by decide)
    · split
      · next h1 h2 h3 => simp_all
      · next h1 h2 h3 => simp_all

theorem insert_eq_ok {row : ρ} {db after : Database} :
    insert row db = .ok after ↔
      verify db (rows db) row = .ok () ∧ withRows db (rows db ++ [row]) = after := by
  simp only [insert, bind_eq_ok, pure_eq_ok]
  constructor
  · rintro ⟨⟨⟩, checked, rfl⟩
    exact ⟨checked, rfl⟩
  · rintro ⟨checked, rfl⟩
    exact ⟨(), checked, rfl⟩

theorem replace?_eq_ok {row : ρ} {k : String} {db : Database} {after? : Option Database}
    (hkey : key row = some k) :
    replace? row db = .ok after? ↔
      (find? (ρ := ρ) db k = none ∧ after? = none) ∨
        ((find? (ρ := ρ) db k).isSome ∧
          verify db ((rows db).filter (key · ≠ some k)) row = .ok () ∧
          after? = some
            (withRows db ((rows db).map fun r => if key r = some k then row else r))) := by
  simp only [replace?, hkey, Option.bind_some]
  cases find? (ρ := ρ) db k with
  | none => cases after? <;> simp [pure, Except.pure]
  | some old =>
      simp only [reduceCtorEq, false_and, false_or, Option.isSome_some, true_and, bind_eq_ok,
        pure_eq_ok]
      constructor
      · rintro ⟨⟨⟩, checked, rfl⟩
        exact ⟨checked, rfl⟩
      · rintro ⟨checked, rfl⟩
        exact ⟨(), checked, rfl⟩

end Table

/-! ## Writes of records -/

section

variable {α ρ : Type} [Table ρ] [Record α ρ] {a : α} {db after : Database}

/-- A record is stored when its table takes its row and every link table its set. -/
theorem create_eq_ok_iff :
    create a db = (.ok (), after) ↔ ∃ stored, Table.insert (Record.toRow a) db = .ok stored ∧
      replaceAllLinks (Record.ident a).text (Record.links a) stored = (.ok (), after) := by
  rw [create]
  cases Table.insert (Record.toRow a) db with
  | error v => simp
  | ok stored => simp

/-- A record is replaced when its table has its identifier and takes its row, and every link table
    takes its set. -/
theorem update_eq_ok_iff {changed : Bool} :
    update a db = (.ok changed, after) ↔
      (changed = false ∧ after = db ∧ Table.replace? (Record.toRow a) db = .ok none) ∨
      (changed = true ∧ ∃ stored, Table.replace? (Record.toRow a) db = .ok (some stored) ∧
        replaceAllLinks (Record.ident a).text (Record.links a) stored = (.ok (), after)) := by
  rw [update]
  cases Table.replace? (Record.toRow a) db with
  | error v => simp
  | ok stored? =>
      cases stored? with
      | none => simp [eq_comm]
      | some stored =>
          rcases links : replaceAllLinks (Record.ident a).text (Record.links a) stored with
            ⟨_ | _, left⟩
          · simp [links]
          · simp [links, eq_comm]

end

/-! ## Records without links -/

/-- The laws of a kind of record that stands in its table under the text of its identifier and
    owns no links. -/
class LawfulRecord (α : Type) {ρ : outParam Type} [Table ρ] [Record α ρ] : Prop where
  key_toRow (a : α) : Table.key (Record.toRow a) = some (Record.ident a).text
  links_eq_nil (a : α) : Record.links a = []
  withRows_rows (db : Database) : Table.withRows db (Table.rows (ρ := ρ) db) = db

instance : LawfulRecord Wallet := ⟨fun _ => rfl, fun _ => rfl, fun _ => rfl⟩

instance : LawfulRecord Product := ⟨fun _ => rfl, fun _ => rfl, fun _ => rfl⟩

instance : LawfulRecord Entry := ⟨fun _ => rfl, fun _ => rfl, fun _ => rfl⟩

section

variable {α ρ : Type} [Table ρ] [Record α ρ]

/-- Records with one of them in the place of the one with its identifier. -/
def putRecord (a : α) (as : List α) : List α :=
  as.map fun b => if Record.ident b = Record.ident a then a else b

theorem putRecord_of_absent {a : α} {as : List α} (h : ∀ b ∈ as, Record.ident b ≠ Record.ident a) :
    putRecord a as = as := by
  rw [putRecord, List.map_congr_left fun b member => if_neg (h b member)]
  exact List.map_id' as

variable [LawfulRecord α]

theorem key_toRow_eq {a : α} {id : Ident} :
    Table.key (Record.toRow a) = some id.text ↔ Record.ident a = id := by
  rw [LawfulRecord.key_toRow, Option.some.injEq, Ident.text_inj]

/-- A record is found under the text of its identifier. -/
theorem find?_eq {as : List α} {db : Database} (h : Table.rows db = as.map Record.toRow)
    (id : Ident) :
    Table.find? db id.text = (as.find? (Record.ident · = id)).map (Record.toRow (α := α)) := by
  have same : (fun row : ρ => decide (Table.key row = some id.text)) ∘ Record.toRow =
      fun a : α => decide (Record.ident a = id) := by
    funext a
    simp only [Function.comp_apply, key_toRow_eq]
  rw [Table.find?, h, List.find?_map, same]

theorem find?_eq_some {as : List α} {db : Database} (h : Table.rows db = as.map Record.toRow)
    {id : Ident} {row : ρ} (found : Table.find? db id.text = some row) :
    ∃ a ∈ as, Record.ident a = id ∧ Record.toRow a = row := by
  rw [find?_eq h, Option.map_eq_some_iff] at found
  obtain ⟨a, found, rfl⟩ := found
  exact ⟨a, List.mem_of_find?_eq_some found, by simpa using List.find?_some found, rfl⟩

theorem isSome_find?_eq {as : List α} {db : Database} (h : Table.rows db = as.map Record.toRow)
    (id : Ident) :
    (Table.find? (ρ := ρ) db id.text).isSome = as.any (Record.ident · = id) := by
  rw [find?_eq h, Option.isSome_map, List.isSome_find?]

theorem filter_key_ne (as : List α) (id : Ident) :
    (as.map Record.toRow).filter (fun r => decide (Table.key r ≠ some id.text)) =
      (as.filter (Record.ident · ≠ id)).map Record.toRow := by
  rw [List.filter_map]
  congr 2
  funext a
  simp only [Function.comp_apply, ne_eq, key_toRow_eq]

/-- Two records conflict when they share their identifier or clash otherwise. -/
theorem conflicts_toRow_eq_false {a b : α} :
    Table.conflicts (Record.toRow a) (Record.toRow b) = false ↔
      Record.ident a ≠ Record.ident b ∧
        Table.clashes (Record.toRow a) (Record.toRow b) = false := by
  simp [Table.conflicts, LawfulRecord.key_toRow]

/-- Storing a new record takes one statement. -/
theorem create_eq_ok {a : α} {db after : Database} :
    create a db = (.ok (), after) ↔ Table.insert (Record.toRow a) db = .ok after := by
  rw [create_eq_ok_iff, LawfulRecord.links_eq_nil]
  simp [replaceAllLinks]

/-- A record that was stored stands at the end, beside records that it does not conflict with. -/
theorem create_records {as : List α} {a : α} {db after : Database}
    (h : Table.rows db = as.map Record.toRow) (done : create a db = (.ok (), after)) :
    Table.admissible (Record.toRow a) = true ∧
      (∀ b ∈ as, Record.ident b ≠ Record.ident a ∧
        Table.clashes (Record.toRow b) (Record.toRow a) = false) ∧
      Table.resolves db (Record.toRow a) = true ∧
      after = Table.withRows db ((as ++ [a]).map Record.toRow) := by
  rw [create_eq_ok, Table.insert_eq_ok, Table.verify_eq_ok, h] at done
  obtain ⟨⟨admissible, free, resolves⟩, rfl⟩ := done
  refine ⟨admissible, ?_, resolves, by simp⟩
  intro b member
  exact conflicts_toRow_eq_false.1 (free _ (List.mem_map_of_mem member))

theorem map_toRow_putRecord (a : α) (as : List α) :
    (putRecord a as).map Record.toRow =
      (as.map Record.toRow).map fun r =>
        if Table.key r = some (Record.ident a).text then Record.toRow a else r := by
  simp only [putRecord, List.map_map]
  apply List.map_congr_left
  intro b _
  simp only [Function.comp_apply, key_toRow_eq]
  split <;> rfl

/-- Replacing a record takes one statement. -/
theorem update_eq_ok {a : α} {db after : Database} {changed : Bool} :
    update a db = (.ok changed, after) ↔
      (changed = false ∧ after = db ∧ Table.replace? (Record.toRow a) db = .ok none) ∨
        (changed = true ∧ Table.replace? (Record.toRow a) db = .ok (some after)) := by
  rw [update_eq_ok_iff, LawfulRecord.links_eq_nil]
  simp [replaceAllLinks]

/-- A record that was replaced stands in its place, beside records that it does not clash with. -/
theorem update_records {as : List α} {a : α} {db after : Database} {changed : Bool}
    (h : Table.rows db = as.map Record.toRow) (done : update a db = (.ok changed, after)) :
    after = Table.withRows db ((putRecord a as).map Record.toRow) ∧
      ((∃ b ∈ as, Record.ident b = Record.ident a) →
        Table.admissible (Record.toRow a) = true ∧
        (∀ b ∈ as, Record.ident b ≠ Record.ident a →
          Table.clashes (Record.toRow b) (Record.toRow a) = false) ∧
        Table.resolves db (Record.toRow a) = true) := by
  have hkey := LawfulRecord.key_toRow a
  rw [update_eq_ok, Table.replace?_eq_ok hkey, Table.replace?_eq_ok hkey] at done
  -- Either no row has the key, and nothing changes, or the row stands in the place of the old one.
  rcases done with ⟨-, rfl, ⟨absent, -⟩ | ⟨-, -, ⟨⟩⟩⟩ | ⟨-, ⟨-, ⟨⟩⟩ | ⟨-, checked, rest⟩⟩
  · have missing : ∀ b ∈ as, Record.ident b ≠ Record.ident a := by
      intro b member same
      have stored : as.any (Record.ident · = Record.ident a) = true :=
        List.any_eq_true.2 ⟨b, member, by simpa using same⟩
      rw [← isSome_find?_eq h, absent] at stored
      exact Bool.false_ne_true stored
    refine ⟨?_, fun ⟨b, member, same⟩ => absurd same (missing b member)⟩
    rw [putRecord_of_absent missing, ← h, LawfulRecord.withRows_rows (α := α)]
  · obtain ⟨admissible, free, resolves⟩ := Table.verify_eq_ok.1 checked
    refine ⟨?_, fun _ => ⟨admissible, ?_, resolves⟩⟩
    · rw [map_toRow_putRecord, ← h]
      exact Option.some.inj rest
    · intro b member other
      have row : Record.toRow b ∈ (Table.rows db).filter
          fun r => decide (Table.key r ≠ some (Record.ident a).text) := by
        rw [h, List.mem_filter]
        exact ⟨List.mem_map_of_mem member, by simpa [key_toRow_eq] using other⟩
      exact (conflicts_toRow_eq_false.1 (free _ row)).2

end

end Purse.Store
