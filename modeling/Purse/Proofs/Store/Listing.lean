/-
  Purse.Proofs.Store.Listing

  What a listing brings.  A statement selects the rows that its plan accepts, each as often as it
  is stored, on whatever route it goes through the table (`Plan.select_perm`), so rows of records
  give the records that it accepts (`exists_selected`).  Without conditions it brings all records
  (`findAll_records`), and where it goes along the rows it brings them as they are stored
  (`findAll_of_scan`).
-/
import Mathlib.Data.List.Basic
import Purse.Proofs.Store.Table
import Purse.Query.Limits

namespace Purse.Query

/-! ## Rows -/

theorem Plan.visit_perm (plan : Plan) (layout : Layout) (aim : Aim) (view : ρ → RowView)
    (rows : List ρ) : (plan.visit layout aim view rows).Perm rows := by
  simp only [Plan.visit]
  split
  · exact List.Perm.refl rows
  · split
    · exact (List.reverse_perm _).trans (List.mergeSort_perm rows _)
    · exact List.mergeSort_perm rows _

theorem Plan.arrange_perm (plan : Plan) (view : ρ → RowView) (rows : List ρ) :
    (plan.arrange view rows).Perm rows := by
  unfold Plan.arrange
  split
  · exact List.Perm.refl rows
  · exact List.mergeSort_perm rows _

/-- A plan selects the rows that it accepts, each as often as it is stored. -/
theorem Plan.select_perm (plan : Plan) (layout : Layout) (aim : Aim) (view : ρ → RowView)
    (rows : List ρ) :
    (plan.select layout aim view rows).Perm
      (rows.filter fun row => plan.accepts (view row)) :=
  (plan.arrange_perm view _).trans (plan.visit_perm layout aim view _)

/-- Off the indexes rows come as they are stored. -/
theorem Plan.visit_of_scan {plan : Plan} {layout : Layout} {aim : Aim} {view : ρ → RowView}
    {rows : List ρ} (scans : (plan.survey layout aim).route.index = none) :
    plan.visit layout aim view rows = rows := by
  unfold Plan.visit
  dsimp only
  rw [scans]

/-- A plan without conditions accepts every row, and its statement runs. -/
theorem Plan.runsOn_of_nil {order : Option (String × SortOrder)} {layout : Layout}
    {view : ρ → RowView} {rows : List ρ} :
    Plan.runsOn ⟨[], order⟩ layout .all view rows = true := by
  rw [Plan.runsOn_eq_isRunnable (by simp)]
  rfl

end Purse.Query

namespace Purse.Store

open Query

/-! ## Records -/

section

variable {α ρ : Type} [Table ρ] [Record α ρ]

theorem readRow_of_ofRow {row : ρ} {a : α} (h : Record.ofRow row = .ok a) :
    readRow row = .ok a := by
  rw [readRow, h]

/-- Rows that can be read are read one by one. -/
theorem mapM_readRow {rows : List ρ} (legible : ∀ row ∈ rows, ∃ a : α, readRow row = .ok a) :
    rows.mapM readRow = .ok (rows.filterMap fun row => (readRow (α := α) row).toOption) := by
  induction rows with
  | nil => rfl
  | cons row rows ih =>
      obtain ⟨a, read⟩ := legible row List.mem_cons_self
      have rest := ih fun r member => legible r (List.mem_cons_of_mem row member)
      rw [List.mapM_cons, read, rest, List.filterMap_cons, read]
      rfl

/-- The rows of records that can be read back give these records. -/
theorem filterMap_readRow {as : List α}
    (legible : ∀ a ∈ as, Record.ofRow (Record.toRow a) = .ok a) :
    (as.map Record.toRow).filterMap (fun row => (readRow (α := α) row).toOption) = as := by
  have back : ∀ a ∈ as, (readRow (α := α) (Record.toRow a)).toOption = some a := by
    intro a member
    rw [readRow_of_ofRow (legible a member)]
    rfl
  calc
    _ = as.filterMap fun a => (readRow (α := α) (Record.toRow a)).toOption := List.filterMap_map
    _ = as.filterMap some := List.filterMap_congr back
    _ = as := List.filterMap_some

theorem ofStore_eq_ok {result : Except StoreError β} {b : β} :
    ofStore result = .ok b ↔ result = .ok b := by
  cases result <;> simp [ofStore]

theorem exists_map_toRow {P : α → Prop} {rows : List ρ}
    (h : ∀ row ∈ rows, ∃ a : α, P a ∧ Record.toRow a = row) :
    ∃ as : List α, rows = as.map Record.toRow ∧ ∀ a ∈ as, P a := by
  induction rows with
  | nil => exact ⟨[], rfl, List.forall_mem_nil _⟩
  | cons row rows ih =>
      obtain ⟨⟨a, first, rfl⟩, rest⟩ := List.forall_mem_cons.1 h
      obtain ⟨as, rfl, others⟩ := ih rest
      exact ⟨a :: as, rfl, List.forall_mem_cons.2 ⟨first, others⟩⟩

theorem mapM_readRow_toRow {as : List α}
    (legible : ∀ a ∈ as, Record.ofRow (Record.toRow a) = .ok a) :
    (as.map Record.toRow).mapM readRow = .ok as := by
  have readable : ∀ row ∈ as.map Record.toRow, ∃ a : α, readRow row = .ok a :=
    List.forall_mem_map.2 fun a member => ⟨a, readRow_of_ofRow (legible a member)⟩
  rw [mapM_readRow readable, filterMap_readRow legible]

/-- What a plan selects are rows of records, and these are the stored ones that it accepts. -/
theorem exists_selected {as : List α} (legible : ∀ a ∈ as, Record.ofRow (Record.toRow a) = .ok a)
    (plan : Plan) (aim : Aim) :
    ∃ found : List α,
      plan.select (Table.layout ρ) aim Table.cell (as.map Record.toRow) =
        found.map Record.toRow ∧
      (∀ a ∈ found, a ∈ as) ∧
      found.Perm (as.filter fun a => plan.accepts (Table.cell (Record.toRow a))) := by
  have stored : ∀ row ∈ plan.select (Table.layout ρ) aim Table.cell (as.map Record.toRow),
      ∃ a : α, a ∈ as ∧ Record.toRow a = row := fun row member =>
    List.mem_map.1 (Plan.mem_select.1 member).1
  obtain ⟨found, rows, members⟩ := exists_map_toRow stored
  refine ⟨found, rows, members, ?_⟩
  have selected := plan.select_perm (Table.layout ρ) aim Table.cell
    (as.map (Record.toRow : α → ρ))
  rw [rows, List.filter_map] at selected
  -- Reading the rows back turns an arrangement of rows into one of records.
  have read := selected.filterMap fun row => (readRow (α := α) row).toOption
  rw [filterMap_readRow fun a member => legible a (members a member),
    filterMap_readRow fun a member => legible a (List.mem_filter.1 member).1] at read
  exact read

variable (α) in
/-- A listing without conditions brings all records, in some order. -/
theorem findAll_records {as : List α} {db : Database} (h : Table.rows db = as.map Record.toRow)
    (legible : ∀ a ∈ as, Record.ofRow (Record.toRow a) = .ok a) :
    ∃ read, findAll α [] none db = .ok read ∧ read.Perm as := by
  have planned : planFor α [] none = .ok ⟨[], none⟩ := rfl
  obtain ⟨read, selected, members, perm⟩ := exists_selected legible ⟨[], none⟩ .all
  refine ⟨read, ?_, ?_⟩
  · rw [findAll, planned, ok_bind, selectRows, if_pos Plan.runsOn_of_nil, ok_bind, h, selected,
      mapM_readRow_toRow fun a member => legible a (members a member)]
    rfl
  · have accepted : ∀ a ∈ as, Plan.accepts ⟨[], none⟩ (Table.cell (Record.toRow a)) = true :=
      fun a _ => rfl
    rwa [List.filter_eq_self.2 accepted] at perm

variable (α) in
/-- A listing without conditions that goes along the rows brings what they say, one after the
    other. -/
theorem findAll_of_scan
    (scans : (Plan.survey ⟨[], none⟩ (Table.layout ρ) .all).route.index = none) (db : Database) :
    findAll α [] none db = ofStore ((Table.rows (ρ := ρ) db).mapM readRow) := by
  have planned : planFor α [] none = .ok ⟨[], none⟩ := rfl
  have all : (Table.rows (ρ := ρ) db).filter (fun row => Plan.accepts ⟨[], none⟩ (Table.cell row)) =
      Table.rows db := List.filter_eq_self.2 fun _ _ => rfl
  have selected : Plan.select ⟨[], none⟩ (Table.layout ρ) .all Table.cell (Table.rows db) =
      Table.rows (ρ := ρ) db := by
    rw [Plan.select, Plan.visit_of_scan scans, all]
    rfl
  rw [findAll, planned, ok_bind, selectRows, if_pos Plan.runsOn_of_nil, ok_bind, selected]

end

end Purse.Store
