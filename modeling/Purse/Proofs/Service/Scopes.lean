/-
  Purse.Proofs.Service.Scopes

  Scopes of steps that are one statement each.  Such a step takes effect as a whole or leaves
  everything as it was (`Step.eq_of_failed`), so it makes no difference whether steps run in one
  scope that is committed or each in a scope of its own (`runApart_eq_runSteps`).  All steps are of
  that kind but the writes of groups, whose members are written by further statements.

  A row is locked by writing one of its columns with the value that it has.  Where the constraints
  let the row stand, this changes nothing (`Table.putColumn_own`).
-/
import Purse.Proofs.Ledger.Effects
import Purse.Proofs.Service.Writers

namespace Purse.Store

/-! ## Steps of one statement -/

/-- True for a step that is one statement. -/
def Step.IsSingle : Step → Prop
  | .create (.group _) | .update (.group _) => False
  | _ => True

section

variable {α : Type} {db after : Database} {e : LookupError}

theorem eq_of_failed_write {answer : α → StepAnswer} {written : Except StoreError α × Database}
    (clean : IsClean db written) (failed : writeResult answer written = (.error e, after)) :
    after = db := by
  rcases clean with ⟨a, left, rfl⟩ | idle
  · cases failed
  · have same : written.2 = after := by rw [← writeResult_database answer, failed]
    exact same.symm.trans idle

theorem run_lock (entity : Entity) (id : Ident) (db : Database) :
    ((Step.lock entity id).run db).2 = db := by
  cases entity <;> exact readResult_database _ _ _

theorem run_first (entity : Entity) (filter : Query.Filter) (sort : Option Query.SortRule)
    (db : Database) : ((Step.first entity filter sort).run db).2 = db := by
  cases entity <;> exact readResult_database _ _ _

theorem eq_of_failed_put {table : String} {written : Except Violation (Nat × Database)}
    (failed : putResult table db written = (.error e, after)) : after = db := by
  cases written with
  | error v => exact (Prod.mk.inj failed).2.symm
  | ok left => cases failed

/-- A step of one statement that fails leaves everything as it was. -/
theorem Step.eq_of_failed {step : Step} (single : step.IsSingle)
    (failed : step.run db = (.error e, after)) : after = db := by
  cases step with
  | create record =>
      cases record with
      | wallet a => exact eq_of_failed_write (isClean_create a db) failed
      | product a => exact eq_of_failed_write (isClean_create a db) failed
      | entry a => exact eq_of_failed_write (isClean_create a db) failed
      | group a => cases single
  | update record =>
      cases record with
      | wallet a => exact eq_of_failed_write (isClean_update a db) failed
      | product a => exact eq_of_failed_write (isClean_update a db) failed
      | entry a => exact eq_of_failed_write (isClean_update a db) failed
      | group a => cases single
  | delete entity id => cases entity <;> cases failed
  | lock entity id => exact (congrArg Prod.snd failed).symm.trans (run_lock entity id db)
  | first entity filter sort =>
      exact (congrArg Prod.snd failed).symm.trans (run_first entity filter sort db)
  | put entity key column value => cases entity <;> exact eq_of_failed_put failed

end

/-! ## Scopes -/

/-- Runs steps one after the other, each in a scope of its own. -/
def runApart : List Step → Database → List (Except LookupError StepAnswer) × Database
  | [], db => ([], db)
  | step :: steps, db =>
      let (outcome, db) := step.runAlone db
      let (outcomes, db) := runApart steps db
      (outcome :: outcomes, db)

/-- A scope of its own makes no difference to a step of one statement. -/
theorem Step.runAlone_eq_run {step : Step} (single : step.IsSingle) (db : Database) :
    step.runAlone db = step.run db := by
  unfold Step.runAlone
  split
  · next ran => exact ran.symm
  · next ran => rw [ran, Step.eq_of_failed single ran]

theorem runApart_eq_runSteps {steps : List Step} (single : ∀ step ∈ steps, step.IsSingle)
    (db : Database) : runApart steps db = runSteps steps db := by
  induction steps generalizing db with
  | nil => rfl
  | cons step steps ih =>
      obtain ⟨first, rest⟩ := List.forall_mem_cons.1 single
      simp only [runApart, runSteps, Step.runAlone_eq_run first, ih rest]

/-! ## Locks -/

namespace Table

variable {ρ : Type} [Table ρ]

/-- True of a stored row that the constraints of its table let stand. -/
structure Stands (db : Database) (row : ρ) : Prop where
  stored : row ∈ rows db
  admissible : admissible row = true
  alone : ∀ r ∈ rows db, r ≠ row → conflicts r row = false
  resolves : resolves db row = true

theorem eq_of_key {db : Database} {row r : ρ} (stands : Stands db row) {k : String}
    (key : key row = some k) (member : r ∈ rows db) (same : Table.key r = some k) : r = row := by
  by_contra other
  have free := stands.alone r member other
  simp [conflicts, key, same] at free

/-- Writing a column of a row with what makes the same row of it changes nothing. -/
theorem putColumn_own {db : Database} {row : ρ} (stands : Stands db row)
    (restored : withRows db (rows (ρ := ρ) db) = db) {k column : String} {value : Cell}
    (key : key row = some k) (own : put? row column value = some row) :
    putColumn ρ k column value db = .ok (1, db) := by
  have found : find? db k = some row := by
    have there : (find? (ρ := ρ) db k).isSome :=
      List.find?_isSome.2 ⟨row, stands.stored, decide_eq_true key⟩
    obtain ⟨r, found⟩ := Option.isSome_iff_exists.1 there
    have same : Table.key r = some k := by simpa using List.find?_some found
    rw [found, eq_of_key stands key (List.mem_of_find?_eq_some found) same]
  have verified : verify db ((rows db).filter (Table.key · ≠ some k)) row = .ok () := by
    refine verify_eq_ok.2 ⟨stands.admissible, fun r member => ?_, stands.resolves⟩
    obtain ⟨member, other⟩ := List.mem_filter.1 member
    refine stands.alone r member ?_
    rintro rfl
    exact of_decide_eq_true other key
  have left : ((rows db).map fun r => if Table.key r = some k then row else r) = rows db := by
    refine (List.map_congr_left fun r member => ?_).trans (List.map_id _)
    split
    · next same => exact (eq_of_key stands key member same).symm
    · rfl
  rw [putColumn, found]
  simp only [own, verified, ok_bind, key, ne_eq, not_true_eq_false, false_and, if_false, left,
    restored]
  rfl

theorem putCell_own {db : Database} {row : ρ} (stands : Stands db row)
    (restored : withRows db (rows (ρ := ρ) db) = db) {k column : String} {value : Cell}
    (key : key row = some k) (named : columnNamed? ρ column = some column)
    (own : put? row column value = some row) : putCell ρ k column value db = .ok (1, db) := by
  rw [putCell, named]
  exact putColumn_own stands restored key own

end Table

/-- True of a database in which the statements that lock rows change nothing: writing a balance, a
    quantity or an amount with its own value, where the constraints let the row stand and the
    column keeps the value as it is. -/
structure LocksInPlace (db : Database) : Prop where
  wallet : ∀ row : WalletRow, Table.Stands db row → numberValue? row.balance = some row.balance →
    (Step.put .wallet row.id "balance" row.balance).run db = (.ok (.rows 1), db)
  product : ∀ row : ProductRow, Table.Stands db row →
    numberValue? row.quantity = some row.quantity →
    (Step.put .product row.id "quantity" row.quantity).run db = (.ok (.rows 1), db)
  entry : ∀ row : EntryRow, Table.Stands db row → numberValue? row.amount = some row.amount →
    (Step.put .entry row.id "amount" row.amount).run db = (.ok (.rows 1), db)

theorem locksInPlace (db : Database) : LocksInPlace db where
  wallet row stands settled := by
    have named : Table.columnNamed? WalletRow "balance" = some "balance" := by decide +kernel
    have own : Table.put? row "balance" row.balance = some row := by
      simp [Table.put?, settled]
    rw [Step.run, Table.putCell_own stands rfl rfl named own]
    rfl
  product row stands settled := by
    have named : Table.columnNamed? ProductRow "quantity" = some "quantity" := by decide +kernel
    have own : Table.put? row "quantity" row.quantity = some row := by
      simp [Table.put?, settled]
    rw [Step.run, Table.putCell_own stands rfl rfl named own]
    rfl
  entry row stands settled := by
    have named : Table.columnNamed? EntryRow "amount" = some "amount" := by decide +kernel
    have own : Table.put? row "amount" row.amount = some row := by
      simp [Table.put?, settled]
    rw [Step.run, Table.putCell_own stands rfl rfl named own]
    rfl

/-- Steps of one statement, some of which may fail, answer the same and leave the same rows whether
    they run in one scope that is committed or each in a scope of its own; in a scope that is not
    committed they answer the same and leave every row as it was. A step that fails leaves what it
    found, and locking a row changes none. -/
theorem scopes_are_atomic :
    (∀ steps : List Step, (∀ step ∈ steps, step.IsSingle) → ∀ db : Database,
      runScope true steps db = runApart steps db ∧
      runScope false steps db = ((runApart steps db).1, db)) ∧
    (∀ step : Step, step.IsSingle → ∀ (db after : Database) (e : LookupError),
      step.run db = (.error e, after) → after = db) ∧
    ∀ db : Database, LocksInPlace db ∧
      ∀ (entity : Entity) (id : Ident), ((Step.lock entity id).run db).2 = db := by
  refine ⟨fun steps single db => ?_, fun step single db after e => Step.eq_of_failed single,
    fun db => ⟨locksInPlace db, fun entity id => run_lock entity id db⟩⟩
  rw [runApart_eq_runSteps single]
  exact ⟨rfl, rfl⟩

section

open Service

/-- Steps on the market day, of which the first fails because the name is taken and the third
    because the second has removed the wallet. -/
def marketSteps : List Step := [
  .create (.wallet ⟨.ofBits 20, "Main", default, 0, none, ⟨96, 0⟩⟩), .delete .wallet (.ofBits 2),
  .create (.entry (incomeEntry (.ofBits 21) (.ofBits 2) 5 ⟨97, 0⟩)), .lock .wallet (.ofBits 4)]

/-- The steps of a scope go on after one that fails, and nothing is left of a scope that is not
    committed. -/
theorem scopes_are_atomic_of_marketSteps :
    (runApart marketSteps marketRows).1.map Except.isOk = [false, true, false, true] ∧
      (runApart marketSteps marketRows).2.entries.length = 1 ∧
      runScope true marketSteps marketRows = runApart marketSteps marketRows ∧
      runScope false marketSteps marketRows = ((runApart marketSteps marketRows).1, marketRows) ∧
      ∀ row ∈ marketRows.wallets,
        (Step.put .wallet row.id "balance" row.balance).run marketRows =
          (.ok (.rows 1), marketRows) := by
  obtain ⟨scopes, -, locks⟩ := scopes_are_atomic
  have single : ∀ step ∈ marketSteps, step.IsSingle := by simp [marketSteps, Step.IsSingle]
  obtain ⟨committed, undone⟩ := scopes marketSteps single marketRows
  refine ⟨by decide +kernel, by decide +kernel, committed, undone, fun row member => ?_⟩
  have rows : ∀ row ∈ marketRows.wallets, Table.admissible row = true ∧
      (∀ r ∈ marketRows.wallets, r ≠ row → Table.conflicts r row = false) ∧
      numberValue? row.balance = some row.balance := by
    decide +kernel
  obtain ⟨admissible, alone, settled⟩ := rows row member
  exact (locks marketRows).1.wallet row ⟨member, admissible, alone, rfl⟩ settled

end

/-- A group is written by several statements: one that names a member twice fails when the group
    itself is already stored. -/
example : let steps := [Step.create (.group ⟨default, "Family", [default, default]⟩)]
    (runScope true steps Database.fresh).2.groups.length = 1 ∧
      (runApart steps Database.fresh).2 = Database.fresh := by
  decide +kernel

end Purse.Store
