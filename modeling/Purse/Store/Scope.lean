/-
  Purse.Store.Scope

  Steps on the store and the scopes that hold them.  In a scope each step sees what the
  steps before it left, a step that fails does not end the scope, and at the end
  either everything stays or everything is undone.  A step in a scope of its own
  stays exactly when it succeeds.
-/
import Purse.Store.Repository

namespace Purse.Store

open Query

/-- The kinds of records. -/
inductive Entity where
  | wallet
  | product
  | entry
  | group
  deriving DecidableEq, Repr

/-- A record of any kind. -/
inductive AnyRecord where
  | wallet (wallet : Wallet)
  | product (product : Product)
  | entry (entry : Entry)
  | group (group : Group)
  deriving DecidableEq

/-- One step on the store. -/
inductive Step where
  | create (record : AnyRecord)
  | update (record : AnyRecord)
  | delete (entity : Entity) (id : Ident)
  /-- Reads a record for the rest of the scope. -/
  | lock (entity : Entity) (id : Ident)
  /-- Finds the first record that a query selects. -/
  | first (entity : Entity) (filter : Filter) (sort : Option SortRule)
  /-- Writes one column of the row with a key, under the constraints but past the records. -/
  | put (entity : Entity) (key column : String) (value : Cell)

/-- The answer of a step that succeeded. -/
inductive StepAnswer where
  | done
  | changed (any : Bool)
  | found (record : Option AnyRecord)
  | rows (count : Nat)
  deriving DecidableEq

/-- The outcome of a step, and the database that it leaves. -/
abbrev StepResult := Except LookupError StepAnswer × Database

/-- The outcome of a write. -/
def writeResult (answer : α → StepAnswer) : Except StoreError α × Database → StepResult
  | (.ok a, db) => (.ok (answer a), db)
  | (.error e, db) => (.error (.store e), db)

/-- The outcome of a removal, which never fails. -/
def deleteResult : Bool × Database → StepResult
  | (any, db) => (.ok (.changed any), db)

/-- The outcome of a look-up, which changes nothing. -/
def readResult (wrap : α → AnyRecord) (db : Database) :
    Except LookupError (Option α) → StepResult
  | .ok a => (.ok (.found (a.map wrap)), db)
  | .error e => (.error e, db)

/-- The outcome of writing a column. -/
def putResult (table : String) (db : Database) : Except Violation (Nat × Database) → StepResult
  | .ok (count, db) => (.ok (.rows count), db)
  | .error v => (.error (.store (.refused (.put table) v)), db)

/-- Runs one step. -/
def Step.run (step : Step) (db : Database) : StepResult :=
  match step with
  | .create (.wallet a) => writeResult (fun _ => .done) (Store.create a db)
  | .create (.product a) => writeResult (fun _ => .done) (Store.create a db)
  | .create (.entry a) => writeResult (fun _ => .done) (Store.create a db)
  | .create (.group a) => writeResult (fun _ => .done) (Store.create a db)
  | .update (.wallet a) => writeResult .changed (Store.update a db)
  | .update (.product a) => writeResult .changed (Store.update a db)
  | .update (.entry a) => writeResult .changed (Store.update a db)
  | .update (.group a) => writeResult .changed (Store.update a db)
  | .delete .wallet id => deleteResult (Store.delete WalletRow id db)
  | .delete .product id => deleteResult (Store.delete ProductRow id db)
  | .delete .entry id => deleteResult (Store.delete EntryRow id db)
  | .delete .group id => deleteResult (Store.delete GroupRow id db)
  | .lock .wallet id => readResult .wallet db (ofStore (findById Wallet id db))
  | .lock .product id => readResult .product db (ofStore (findById Product id db))
  | .lock .entry id => readResult .entry db (ofStore (findById Entry id db))
  | .lock .group id => readResult .group db (ofStore (findById Group id db))
  | .first .wallet filter sort => readResult .wallet db (findFirst Wallet filter sort db)
  | .first .product filter sort => readResult .product db (findFirst Product filter sort db)
  | .first .entry filter sort => readResult .entry db (findFirst Entry filter sort db)
  | .first .group filter sort => readResult .group db (findFirst Group filter sort db)
  | .put .wallet key column value =>
      putResult "wallets" db (Table.putCell WalletRow key column value db)
  | .put .product key column value =>
      putResult "products" db (Table.putCell ProductRow key column value db)
  | .put .entry key column value =>
      putResult "transactions" db (Table.putCell EntryRow key column value db)
  | .put .group key column value =>
      putResult "wallet_groups" db (Table.putCell GroupRow key column value db)

/-- Runs a step in a scope of its own, which is undone when the step fails. -/
def Step.runAlone (step : Step) (db : Database) : StepResult :=
  match step.run db with
  | (.ok answer, after) => (.ok answer, after)
  | (.error e, _) => (.error e, db)

/-- Runs steps one after the other, whatever their outcomes. -/
def runSteps : List Step → Database → List (Except LookupError StepAnswer) × Database
  | [], db => ([], db)
  | step :: steps, db =>
      let (outcome, db) := step.run db
      let (outcomes, db) := runSteps steps db
      (outcome :: outcomes, db)

/-- Runs steps in one scope, and keeps what they did only if the scope is committed. -/
def runScope (commit : Bool) (steps : List Step) (db : Database) :
    List (Except LookupError StepAnswer) × Database :=
  let (outcomes, after) := runSteps steps db
  (outcomes, if commit then after else db)

end Purse.Store
