/-
  Purse.Proofs.Store.Access

  Statements that do not fail.  A record that the constraints of its table admit is stored
  (`exists_create`, `exists_update`).  Rows that are all records are found and listed without a
  failure of the store, as long as the statement itself runs (`findAll_ne_store` and its
  companions); one that only compares, with a few conditions, always does
  (`Plan.runsOn_of_compares`).
-/
import Purse.Proofs.Store.Listing

namespace Purse.Query

/-! ## Plans that only compare -/

/-- True for a condition that compares its field with one value. -/
def Condition.Compares (condition : Condition) : Prop := ∃ c, condition.op = .comparison c

/-- True for a comparison with one value. -/
def Predicate.Compares (p : Predicate) : Prop := ∃ column c value, p = .compare column c value

/-- What a plan checks: each of the conditions, and the sort rule. -/
theorem Plan.build_eq_ok {entity : String} {fields : List Field} {filter : Filter}
    {sort : Option SortRule} {plan : Plan} :
    Plan.build entity fields filter sort = .ok plan ↔
      List.Forall₂ (fun condition p => Condition.plan entity fields condition = .ok p) filter
        plan.predicates ∧ sort.mapM (SortRule.plan entity fields) = .ok plan.order := by
  simp only [Plan.build, bind_eq_ok, pure_eq_ok, mapM_eq_ok]
  constructor
  · rintro ⟨predicates, planned, order, sorted, rfl⟩
    exact ⟨planned, sorted⟩
  · rintro ⟨planned, sorted⟩
    exact ⟨_, planned, _, sorted, rfl⟩

/-- The first condition that is refused decides. -/
theorem Plan.build_of_refused {entity : String} {fields : List Field} (before : Filter)
    {after : Filter} {condition : Condition} {error : QueryError}
    (planned : ∀ c ∈ before, ∃ p, Condition.plan entity fields c = .ok p)
    (refused : condition.plan entity fields = .error error) (sort : Option SortRule) :
    Plan.build entity fields (before ++ condition :: after) sort = .error error := by
  rw [Plan.build, mapM_eq_error planned refused, error_bind]

theorem Condition.compares_of_plan {entity : String} {fields : List Field} {condition : Condition}
    {p : Predicate} (compares : condition.Compares)
    (planned : condition.plan entity fields = .ok p) : p.Compares := by
  obtain ⟨c, op⟩ := compares
  obtain ⟨field, -, rest⟩ := bind_eq_ok.1 planned
  rw [op] at rest
  obtain ⟨value, -, rest⟩ := bind_eq_ok.1 rest
  exact ⟨field.name, c, value, (pure_eq_ok.1 rest).symm⟩

/-- The plan of conditions that only compare has a comparison for each of them. -/
theorem Plan.compares_of_build {entity : String} {fields : List Field} {filter : Filter}
    {sort : Option SortRule} {plan : Plan} (compares : ∀ condition ∈ filter, condition.Compares)
    (built : Plan.build entity fields filter sort = .ok plan) :
    (∀ p ∈ plan.predicates, p.Compares) ∧ plan.predicates.length = filter.length := by
  obtain ⟨planned, -⟩ := Plan.build_eq_ok.1 built
  refine ⟨?_, planned.length_eq.symm⟩
  clear built
  generalize plan.predicates = predicates at planned
  induction planned with
  | nil => exact List.forall_mem_nil _
  | cons first _ ih =>
      obtain ⟨comparesFirst, comparesRest⟩ := List.forall_mem_cons.1 compares
      exact List.forall_mem_cons.2
        ⟨Condition.compares_of_plan comparesFirst first, ih comparesRest⟩

theorem conjunctionDepth_of_compares {predicates : List Predicate}
    (compares : ∀ p ∈ predicates, p.Compares) :
    conjunctionDepth predicates ≤ predicates.length + 1 := by
  have grows {ps : List Predicate} (flat : ∀ p ∈ ps, p.Compares) (depth : Nat) (deep : 2 ≤ depth) :
      ps.foldl (fun depth q => max depth q.depth + 1) depth = depth + ps.length := by
    induction ps generalizing depth with
    | nil => rfl
    | cons p ps ih =>
        obtain ⟨⟨column, c, value, rfl⟩, others⟩ := List.forall_mem_cons.1 flat
        have joined : max depth (Predicate.compare column c value).depth + 1 = depth + 1 :=
          congrArg (· + 1) (Nat.max_eq_left deep)
        rw [List.foldl_cons, joined, ih others (depth + 1) (by omega), List.length_cons]
        omega
  cases predicates with
  | nil => exact Nat.zero_le _
  | cons p ps =>
      obtain ⟨⟨column, c, value, rfl⟩, flat⟩ := List.forall_mem_cons.1 compares
      have first : (Predicate.compare column c value).depth = 2 := rfl
      rw [conjunctionDepth, first, grows flat 2 (Nat.le_refl 2), List.length_cons]
      omega

theorem length_params_of_compares {predicates : List Predicate}
    (compares : ∀ p ∈ predicates, p.Compares) :
    (whereClause predicates).params.length = predicates.length := by
  have behind {ps : List Predicate} (flat : ∀ p ∈ ps, p.Compares) :
      (Statement.params (ps.flatMap fun q => .code " AND " :: q.fragments)).length = ps.length := by
    induction ps with
    | nil => rfl
    | cons p ps ih =>
        obtain ⟨⟨column, c, value, rfl⟩, others⟩ := List.forall_mem_cons.1 flat
        exact congrArg (· + 1) (ih others)
  cases predicates with
  | nil => rfl
  | cons p ps =>
      obtain ⟨⟨column, c, value, rfl⟩, flat⟩ := List.forall_mem_cons.1 compares
      exact congrArg (· + 1) (behind flat)

/-- A statement with a few comparisons runs on every table. -/
theorem Plan.runsOn_of_compares {plan : Plan} {layout : Layout} {aim : Aim} {view : ρ → RowView}
    {rows : List ρ} (compares : ∀ p ∈ plan.predicates, p.Compares)
    (few : plan.predicates.length < deepestConditions) :
    plan.runsOn layout aim view rows = true := by
  have short : ∀ p ∈ plan.predicates, p.isTooLong = false := by
    intro p member
    obtain ⟨column, c, value, rfl⟩ := compares p member
    rfl
  have depth := conjunctionDepth_of_compares compares
  have parameters : aim.parameters ≤ 2 := by cases aim <;> decide
  rw [Plan.runsOn_eq_isRunnable short, Plan.isRunnable, length_params_of_compares compares]
  refine Bool.and_eq_true_iff.2 ⟨decide_eq_true ?_, decide_eq_true ?_⟩
  · omega
  · simp only [deepestConditions, mostParameters] at few ⊢
    omega

end Purse.Query

namespace Purse.Store

open Query

section

variable {α ρ : Type} [Table ρ] [Record α ρ]

/-! ## Writes -/

section

variable [LawfulRecord α] {as : List α} {a : α} {db : Database}

/-- A new record that the constraints admit is stored. -/
theorem exists_create (h : Table.rows db = as.map Record.toRow)
    (admissible : Table.admissible (Record.toRow a) = true)
    (free : ∀ b ∈ as, Record.ident b ≠ Record.ident a ∧
      Table.clashes (Record.toRow b) (Record.toRow a) = false)
    (resolves : Table.resolves db (Record.toRow a) = true) :
    ∃ after, create a db = (.ok (), after) := by
  have verified : Table.verify db (Table.rows db) (Record.toRow a) = .ok () := by
    rw [Table.verify_eq_ok, h]
    exact ⟨admissible,
      List.forall_mem_map.2 fun b member => conflicts_toRow_eq_false.2 (free b member), resolves⟩
  exact ⟨_, create_eq_ok.2 (Table.insert_eq_ok.2 ⟨verified, rfl⟩)⟩

/-- A record that the constraints admit in the place of the one with its identifier, if there is
    one, is stored there. -/
theorem exists_update (h : Table.rows db = as.map Record.toRow)
    (admitted : (∃ b ∈ as, Record.ident b = Record.ident a) →
      Table.admissible (Record.toRow a) = true ∧
      (∀ b ∈ as, Record.ident b ≠ Record.ident a →
        Table.clashes (Record.toRow b) (Record.toRow a) = false) ∧
      Table.resolves db (Record.toRow a) = true) :
    ∃ changed after, update a db = (.ok changed, after) := by
  have key := LawfulRecord.key_toRow a
  cases found : Table.find? (ρ := ρ) db (Record.ident a).text with
  | none =>
      exact ⟨false, db, update_eq_ok.2
        (.inl ⟨rfl, rfl, (Table.replace?_eq_ok key).2 (.inl ⟨found, rfl⟩)⟩)⟩
  | some old =>
      obtain ⟨b, member, same, -⟩ := find?_eq_some h found
      obtain ⟨admissible, free, resolves⟩ := admitted ⟨b, member, same⟩
      have verified : Table.verify db ((Table.rows db).filter
          (Table.key · ≠ some (Record.ident a).text)) (Record.toRow a) = .ok () := by
        rw [Table.verify_eq_ok, h, filter_key_ne]
        refine ⟨admissible, List.forall_mem_map.2 fun b member => ?_, resolves⟩
        obtain ⟨member, other⟩ := List.mem_filter.1 member
        have other := of_decide_eq_true other
        exact conflicts_toRow_eq_false.2 ⟨other, free b member other⟩
      have stored := Option.isSome_iff_exists.2 ⟨old, found⟩
      exact ⟨true, _, update_eq_ok.2
        (.inr ⟨rfl, (Table.replace?_eq_ok key).2 (.inr ⟨stored, verified, rfl⟩)⟩)⟩

end

/-! ## Reads -/

variable (α) in
/-- True when every row of a table is a record. -/
def Readable (db : Database) : Prop := ∀ row ∈ Table.rows (ρ := ρ) db, ∃ a : α, readRow row = .ok a

variable (α) in
/-- True when the statement of a query runs, if the query has a plan. -/
def StatementRuns (filter : Filter) (sort : Option SortRule) (aim : Aim) (db : Database) : Prop :=
  ∀ plan, planFor α filter sort = .ok plan →
    plan.runsOn (Table.layout ρ) aim Table.cell (Table.rows (ρ := ρ) db) = true

variable {filter : Filter} {sort : Option SortRule} {db : Database}

theorem readable_of_records {as : List α} (h : Table.rows db = as.map Record.toRow)
    (legible : ∀ a ∈ as, Record.ofRow (Record.toRow a) = .ok a) : Readable α db := by
  intro row member
  rw [h] at member
  obtain ⟨a, stored, rfl⟩ := List.mem_map.1 member
  exact ⟨a, readRow_of_ofRow (legible a stored)⟩

theorem planFor_eq_ok {plan : Plan} :
    planFor α filter sort = .ok plan ↔
      Plan.build (Record.entity α) (Record.fields α) filter sort = .ok plan := by
  unfold planFor
  split <;> simp_all

theorem planFor_eq_error {error : QueryError} :
    planFor α filter sort = .error (.query error) ↔
      Plan.build (Record.entity α) (Record.fields α) filter sort = .error error := by
  unfold planFor
  split <;> simp_all

theorem planFor_ne_store (e : StoreError) : planFor α filter sort ≠ .error (.store e) := by
  unfold planFor
  split <;> simp

variable (α) in
/-- A query with a few comparisons runs. -/
theorem statementRuns_of_compares (compares : ∀ condition ∈ filter, condition.Compares)
    (few : filter.length < deepestConditions) (sort : Option SortRule) (aim : Aim)
    (db : Database) : StatementRuns α filter sort aim db := by
  intro plan planned
  obtain ⟨flat, length⟩ := Plan.compares_of_build compares (planFor_eq_ok.1 planned)
  exact Plan.runsOn_of_compares flat (length ▸ few)

theorem selectRows_of_runsOn {attempt : Attempt} {aim : Aim} {plan : Plan}
    (runs : plan.runsOn (Table.layout ρ) aim Table.cell (Table.rows (ρ := ρ) db) = true) :
    selectRows attempt aim plan db =
      .ok (plan.select (Table.layout ρ) aim Table.cell (Table.rows (ρ := ρ) db)) :=
  if_pos runs

/-- Rows of a table are records, whichever of them are read. -/
theorem exists_mapM_readRow (readable : Readable α db) {rows : List ρ}
    (stored : ∀ row ∈ rows, row ∈ Table.rows db) :
    ∃ records : List α, rows.mapM readRow = .ok records :=
  ⟨_, mapM_readRow fun row member => readable row (stored row member)⟩

theorem exists_findById (readable : Readable α db) (id : Ident) :
    ∃ found, findById α id db = .ok found := by
  unfold findById
  split
  · exact ⟨none, rfl⟩
  · next row found =>
      obtain ⟨a, read⟩ := readable row (List.mem_of_find?_eq_some found)
      exact ⟨some a, by rw [read]; rfl⟩

theorem findAll_ne_store (readable : Readable α db) (runs : StatementRuns α filter sort .all db)
    (e : StoreError) : findAll α filter sort db ≠ .error (.store e) := by
  cases planned : planFor α filter sort with
  | error e' =>
      rw [findAll, planned]
      intro failed
      cases failed
      exact planFor_ne_store e planned
  | ok plan =>
      obtain ⟨records, read⟩ := exists_mapM_readRow readable fun row member =>
        (Plan.mem_select.1 member).1
      rw [findAll, planned, ok_bind, selectRows_of_runsOn (runs plan planned), ok_bind, read]
      intro failed
      cases failed

theorem findPage_ne_store (readable : Readable α db)
    (counts : StatementRuns α filter sort .count db)
    (runs : StatementRuns α filter sort .page db) (request : PageRequest) (e : StoreError) :
    findPage α request filter sort db ≠ .error (.store e) := by
  cases planned : planFor α filter sort with
  | error e' =>
      rw [findPage, planned]
      intro failed
      cases failed
      exact planFor_ne_store e planned
  | ok plan =>
      obtain ⟨records, read⟩ := exists_mapM_readRow readable fun row member =>
        (Plan.mem_select.1 (List.mem_of_mem_drop (List.mem_of_mem_take member))).1
      rw [findPage, planned, ok_bind, selectRows_of_runsOn (counts plan planned), ok_bind,
        selectRows_of_runsOn (runs plan planned), ok_bind, PageRequest.window, read]
      intro failed
      cases failed

variable (α) in
/-- A search for the first record that meets conditions finds one that does, if there is any. -/
theorem exists_findFirst {as : List α} (h : Table.rows db = as.map Record.toRow)
    (legible : ∀ a ∈ as, Record.ofRow (Record.toRow a) = .ok a) {plan : Plan}
    (planned : planFor α filter sort = .ok plan) (runs : StatementRuns α filter sort .first db) :
    ∃ found, findFirst α filter sort db = .ok found ∧
      (∀ a ∈ found, a ∈ as ∧ plan.accepts (Table.cell (Record.toRow a)) = true) ∧
      (found = none → ∀ a ∈ as, plan.accepts (Table.cell (Record.toRow a)) = false) := by
  rw [findFirst, planned, ok_bind, selectRows_of_runsOn (runs plan planned), ok_bind]
  have selected {row : ρ} :
      row ∈ plan.select (Table.layout ρ) .first Table.cell (Table.rows (ρ := ρ) db) ↔
        row ∈ Table.rows db ∧ plan.accepts (Table.cell row) = true := Plan.mem_select
  cases rows : plan.select (Table.layout ρ) .first Table.cell (Table.rows (ρ := ρ) db) with
  | nil =>
      refine ⟨none, rfl, nofun, fun _ a member => Bool.eq_false_iff.2 fun accepted => ?_⟩
      have row := selected.2 ⟨h ▸ List.mem_map_of_mem member, accepted⟩
      rw [rows] at row
      cases row
  | cons row rest =>
      obtain ⟨stored, accepted⟩ := selected.1 (rows ▸ List.mem_cons_self)
      rw [h] at stored
      obtain ⟨a, member, rfl⟩ := List.mem_map.1 stored
      refine ⟨some a, ?_, ?_, nofun⟩
      · simp only [readRow_of_ofRow (legible a member)]
        rfl
      · rintro b ⟨⟩
        exact ⟨member, accepted⟩

end

end Purse.Store
