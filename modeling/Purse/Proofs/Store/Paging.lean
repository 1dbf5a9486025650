/-
  Purse.Proofs.Store.Paging

  Pages of a query are windows of its whole listing.  The count, the pages and the first record
  come from statements of their own, made from one plan; `pages_of_listing` says what they answer
  beside the whole listing.  A statement that is too large for the engine answers nothing
  (`checkRuns`), which smaller ones never do (`checkRuns_of_small`).
-/
import Purse.Proofs.Query.Windows
import Purse.Proofs.Store.Answers
import Purse.Store.Scope

namespace Purse.Query

theorem Plan.runsOn_of_small {plan : Plan} (short : ∀ p ∈ plan.predicates, p.isTooLong = false)
    (flat : conjunctionDepth plan.predicates ≤ deepestConditions)
    (few : (whereClause plan.predicates).params.length + 2 ≤ mostParameters) (layout : Layout)
    (aim : Aim) (view : ρ → RowView) (rows : List ρ) :
    plan.runsOn layout aim view rows = true := by
  have parameters : aim.parameters ≤ 2 := by cases aim <;> decide
  have fits : (whereClause plan.predicates).params.length + aim.parameters ≤ mostParameters :=
    Nat.le_trans (Nat.add_le_add_left parameters _) few
  rw [Plan.runsOn_eq_isRunnable short, Plan.isRunnable, decide_eq_true flat, decide_eq_true fits,
    Bool.and_self]

/-- Without a sort the first row is looked for as the whole listing is. -/
theorem Plan.select_first_of_unsorted {plan : Plan} (unsorted : plan.order = none)
    (layout : Layout) (view : ρ → RowView) (rows : List ρ) :
    plan.select layout .first view rows = plan.select layout .all view rows := by
  obtain ⟨predicates, order⟩ := plan
  cases unsorted
  rfl

/-- Every statement of a plan comes across the same number of rows. -/
theorem Plan.length_select (plan : Plan) (layout : Layout) (aim aim' : Aim) (view : ρ → RowView)
    (rows : List ρ) :
    (plan.select layout aim view rows).length = (plan.select layout aim' view rows).length := by
  rw [(plan.select_perm layout aim view rows).length_eq,
    (plan.select_perm layout aim' view rows).length_eq]

end Purse.Query

namespace Purse.Store

open Query

/-! ## Statements that run -/

section

variable (ρ : Type) [Table ρ]

/-- Fails when the engine does not run the statement of a plan. -/
def checkRuns (attempt : Attempt) (aim : Aim) (plan : Plan) (db : Database) :
    Except LookupError Unit :=
  if plan.runsOn (Table.layout ρ) aim Table.cell (Table.rows (ρ := ρ) db) then .ok ()
  else .error (.store (.unavailable attempt))

theorem checkRuns_of_small {plan : Plan} (short : ∀ p ∈ plan.predicates, p.isTooLong = false)
    (flat : conjunctionDepth plan.predicates ≤ deepestConditions)
    (few : (whereClause plan.predicates).params.length + 2 ≤ mostParameters) (attempt : Attempt)
    (aim : Aim) (db : Database) : checkRuns ρ attempt aim plan db = .ok () :=
  if_pos (Plan.runsOn_of_small short flat few _ _ _ _)

end

/-- Rows are selected when the statement runs. -/
theorem selectRows_bind {ρ β : Type} [Table ρ] (attempt : Attempt) (aim : Aim) (plan : Plan)
    (db : Database) (f : List ρ → Except LookupError β) :
    (selectRows attempt aim plan db >>= f) = (do
      checkRuns ρ attempt aim plan db
      f (plan.select (Table.layout ρ) aim Table.cell (Table.rows db))) := by
  unfold selectRows checkRuns
  dsimp only
  split <;> rfl

/-! ## Kinds of records -/

/-- A kind of records as the steps of a scope know it. -/
class Kind (α : Type) {ρ : outParam Type} [Table ρ] [Record α ρ] where
  /-- The kind. -/
  entity : Entity
  /-- A record of the kind among all records. -/
  wrap : α → AnyRecord
  /-- In a scope the first record is found as it is outside. -/
  run_first (filter : Filter) (sort : Option SortRule) (db : Database) :
    (Step.first entity filter sort).run db = readResult wrap db (findFirst α filter sort db)

instance : Kind Wallet := ⟨.wallet, .wallet, fun _ _ _ => rfl⟩

instance : Kind Product := ⟨.product, .product, fun _ _ _ => rfl⟩

instance : Kind Entry := ⟨.entry, .entry, fun _ _ _ => rfl⟩

instance : Kind Group := ⟨.group, .group, fun _ _ _ => rfl⟩

/-! ## Pages -/

section

variable {α ρ : Type} [Table ρ] [Record α ρ] {db : Database} {filter : Filter}
  {sort : Option SortRule} {plan : Plan} {all : List α}

/-- The records of the rows that a plan selects. -/
def Lists (plan : Plan) (db : Database) (all : List α) : Prop :=
  List.Forall₂ (fun row a => readRow row = .ok a)
    (plan.select (Table.layout ρ) .all Table.cell (Table.rows db)) all

theorem exists_lists (readable : Readable α db) (plan : Plan) :
    ∃ all : List α, Lists plan db all := by
  have stored : ∀ row ∈ plan.select (Table.layout ρ) .all Table.cell (Table.rows (ρ := ρ) db),
      row ∈ Table.rows (ρ := ρ) db := fun row member => (Plan.mem_select.1 member).1
  obtain ⟨all, read⟩ := exists_mapM_readRow readable stored
  exact ⟨all, mapM_eq_ok.1 read⟩

theorem findAll_of_lists (planned : planFor α filter sort = .ok plan) (lists : Lists plan db all) :
    findAll α filter sort db = (do
      checkRuns ρ (.list (Table.name ρ)) .all plan db
      return all) := by
  rw [findAll, planned, ok_bind, selectRows_bind, mapM_eq_ok.2 lists]
  rfl

/-- Counting and listing come across the same number of rows, and the rows on a page are read one
    by one like those of the whole listing. -/
theorem findPage_of_lists (planned : planFor α filter sort = .ok plan) (lists : Lists plan db all)
    (request : PageRequest) :
    findPage α request filter sort db = (do
      checkRuns ρ (.count (Table.name ρ)) .count plan db
      checkRuns ρ (.list (Table.name ρ)) .page plan db
      return Page.ofRows request all.length (request.window all)) := by
  have onPage : (request.window
      (plan.select (Table.layout ρ) .page Table.cell (Table.rows (ρ := ρ) db))).mapM readRow =
        .ok (request.window all) := by
    rw [Plan.select_page]
    exact mapM_eq_ok.2 (List.forall₂_take _ (List.forall₂_drop _ lists))
  have counted : (plan.select (Table.layout ρ) .count Table.cell
      (Table.rows (ρ := ρ) db)).length = all.length := by
    rw [plan.length_select _ .count .all, lists.length_eq]
  rw [findPage, planned, ok_bind, selectRows_bind]
  simp only [selectRows_bind]
  rw [onPage, counted]
  rfl

theorem findFirst_of_lists (planned : planFor α filter sort = .ok plan) (lists : Lists plan db all)
    (same : plan.select (Table.layout ρ) .first Table.cell (Table.rows (ρ := ρ) db) =
      plan.select (Table.layout ρ) .all Table.cell (Table.rows db)) :
    findFirst α filter sort db = (do
      checkRuns ρ (.fetch (Record.entity α)) .first plan db
      return all.head?) := by
  unfold Lists at lists
  rw [findFirst, planned, ok_bind, selectRows_bind, same]
  clear same
  generalize plan.select (Table.layout ρ) .all Table.cell (Table.rows (ρ := ρ) db) = rows
    at lists ⊢
  cases lists with
  | nil => rfl
  | cons top _ =>
      dsimp only
      rw [top]
      rfl

end

/-- Pages of an accepted query on rows that are records. They are the windows of the whole listing
    `all` that `Cuts` describes, each with the number of rows and of pages. The first record is the
    first one of the listing, in a scope and outside; with a sort this takes that rows come in the
    same order when only the first one is asked for. All statements within the sizes of the engine
    run. -/
theorem pages_of_listing {α ρ : Type} [Table ρ] [Record α ρ] [Kind α] {db : Database}
    (readable : Readable α db) {filter : Filter} {sort : Option SortRule} {plan : Plan}
    (planned : planFor α filter sort = .ok plan) :
    ∃ all : List α,
      findAll α filter sort db = (do
        checkRuns ρ (.list (Table.name ρ)) .all plan db
        return all) ∧
      (∀ request : PageRequest, findPage α request filter sort db = (do
        checkRuns ρ (.count (Table.name ρ)) .count plan db
        checkRuns ρ (.list (Table.name ρ)) .page plan db
        return {
          page := request.page, size := request.size
          totalPages := all.length ⌈/⌉ request.size, totalCount := all.length
          rows := all.extract ((request.page - 1) * request.size)
            (min (request.page * request.size) all.length) })) ∧
      (∀ request : PageRequest, Cuts request all) ∧
      ((sort.isSome → plan.select (Table.layout ρ) .first Table.cell (Table.rows (ρ := ρ) db) =
          plan.select (Table.layout ρ) .all Table.cell (Table.rows (ρ := ρ) db)) →
        findFirst α filter sort db = (do
          checkRuns ρ (.fetch (Record.entity α)) .first plan db
          return all.head?) ∧
        (Step.first (Kind.entity α) filter sort).run db = readResult Kind.wrap db (do
          checkRuns ρ (.fetch (Record.entity α)) .first plan db
          return all.head?)) ∧
      ((∀ p ∈ plan.predicates, p.isTooLong = false) →
        conjunctionDepth plan.predicates ≤ deepestConditions →
        (whereClause plan.predicates).params.length + 2 ≤ mostParameters →
          ∀ attempt aim, checkRuns ρ attempt aim plan db = .ok ()) ∧
      ∀ page size, (∃ request, PageRequest.make page size = .ok request ∧ request.page = page ∧
        request.size = size) ↔ 1 ≤ page ∧ 1 ≤ size ∧ size ≤ 100 := by
  obtain ⟨all, lists⟩ := exists_lists readable plan
  refine ⟨all, findAll_of_lists planned lists, fun request => ?_, fun request => request.cuts all,
    fun assumed => ?_, fun short flat few attempt aim =>
      checkRuns_of_small ρ short flat few attempt aim db, fun _ _ => PageRequest.exists_make⟩
  · rw [findPage_of_lists planned lists, ← request.window_eq_extract]
    rfl
  · have same : plan.select (Table.layout ρ) .first Table.cell (Table.rows (ρ := ρ) db) =
        plan.select (Table.layout ρ) .all Table.cell (Table.rows (ρ := ρ) db) := by
      cases sort with
      | none =>
          obtain ⟨-, sorted⟩ := Plan.build_eq_ok.1 (planFor_eq_ok.1 planned)
          exact Plan.select_first_of_unsorted (pure_eq_ok.1 sorted).symm _ _ _
      | some rule => exact assumed rfl
    have first := findFirst_of_lists planned lists same
    exact ⟨first, by rw [Kind.run_first, first]⟩

/-- The poorer one of two wallets is on the second page of one row. -/
theorem pages_of_listing_twoWallets :
    let db : Database := { Database.fresh with wallets := twoWallets.map Record.toRow }
    let rule : SortRule := ⟨"balance", .descending⟩
    let second : PageRequest := ⟨2, 1, by decide, by decide, by decide⟩
    ∃ all, findAll Wallet [] (some rule) db = .ok all ∧
      findPage Wallet second [] (some rule) db =
        .ok ⟨2, 1, all.length ⌈/⌉ 1, all.length, all.extract 1 (min 2 all.length)⟩ ∧
      Cuts second all ∧ findFirst Wallet [] (some rule) db = .ok all.head? := by
  intro db rule second
  have legible : ∀ w ∈ twoWallets, Record.ofRow (Record.toRow w) = .ok w := by decide +kernel
  have readable : Readable Wallet db := readable_of_records rfl legible
  have planned : planFor Wallet [] (some rule) = .ok ⟨[], some ("balance", .descending)⟩ := by
    decide +kernel
  obtain ⟨all, listed, page, cuts, first, runs, -⟩ := pages_of_listing readable planned
  have runs := runs (List.forall_mem_nil _) (by decide) (by decide)
  -- Neither statement goes along an index, as none has the balance.
  have scans : ∀ aim ∈ [Aim.first, .all], (Plan.survey ⟨[], some ("balance", .descending)⟩
      (Table.layout WalletRow) aim).route.index = none := by
    decide +kernel
  rw [runs, ok_bind] at listed
  have page := page second
  rw [runs, runs, ok_bind, ok_bind] at page
  obtain ⟨first, -⟩ := first fun _ => by
    rw [Plan.select, Plan.select, Plan.visit_of_scan (scans .first (by decide)),
      Plan.visit_of_scan (scans .all (by decide))]
  rw [runs, ok_bind] at first
  exact ⟨all, listed, page, cuts second, first⟩

end Purse.Store
