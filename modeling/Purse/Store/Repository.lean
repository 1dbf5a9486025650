/-
  Purse.Store.Repository

  Storing and finding records.  Writes yield the database that they leave, also when they
  fail: a write of a record and its links is made of several statements, and each of
  them undoes only itself.  For a record without links there is one statement, so a
  failed write leaves everything as it was.
-/
import Purse.Query.Limits
import Purse.Query.Page
import Purse.Store.Record

namespace Purse.Store

open Query

/-! ## Failures -/

/-- What a statement set out to do. -/
inductive Attempt where
  | create (entity : String)
  | update (entity : String)
  | delete (entity : String)
  | lock (entity : String)
  | fetch (entity : String)
  | list (table : String)
  | count (table : String)
  | link (table : String)
  | put (table : String)
  deriving DecidableEq, Repr

/-- The message of an attempt that failed. -/
def Attempt.message : Attempt → String
  | .create entity => "Failed to create " ++ entity
  | .update entity => "Failed to update " ++ entity
  | .delete entity => "Failed to delete " ++ entity
  | .lock entity => "Failed to lock " ++ entity
  | .fetch entity => "Failed to fetch " ++ entity
  | .list table => "Failed to list " ++ table
  | .count table => "Failed to count " ++ table
  | .link table => "Failed to link " ++ table
  | .put table => "Failed to put a value into " ++ table

/-- Why the store failed. -/
inductive StoreError where
  /-- A constraint refused a statement. -/
  | refused (attempt : Attempt) (violation : Violation)
  /-- A statement could not run: its table is missing, the store may not be written, or the
      statement is too large. -/
  | unavailable (attempt : Attempt)
  /-- A row is no record. -/
  | unreadable (fault : DecodeFault)
  deriving DecidableEq, Repr

/-- The message of a failure. -/
def StoreError.message : StoreError → String
  | .refused attempt _ => attempt.message
  | .unavailable attempt => attempt.message
  | .unreadable fault => fault.message

/-- True for a failure that comes from a key or value that is already taken. -/
def StoreError.isUnique : StoreError → Bool
  | .refused _ .unique => true
  | _ => false

/-- Why a look-up failed: its query was refused, or the store failed. -/
inductive LookupError where
  | query (error : QueryError)
  | store (error : StoreError)
  deriving DecidableEq, Repr

section

variable {α ρ : Type} [Table ρ] [Record α ρ]

/-! ## Writes -/

/-- Replaces the links of an owner in one link table. One statement stores the new links, so more
    targets than it can name are refused, and two equal ones are; either leaves the owner
    without links in that table. -/
def replaceLinks (owner : String) (set : LinkSet) (db : Database) :
    Except StoreError Unit × Database :=
  let cleared := db.links.filter fun l => ¬ (l.table = set.table ∧ l.owner = owner)
  let db := { db with links := cleared }
  let targets := set.targets.map Ident.text
  if mostParameters < 2 * targets.length then (.error (.unavailable (.link set.table)), db)
  else if targets.Nodup then
    (.ok (), { db with links := cleared ++ targets.map fun t => ⟨set.table, owner, t⟩ })
  else (.error (.refused (.link set.table) .unique), db)

/-- Replaces the links of an owner, table by table, up to the first failure. -/
def replaceAllLinks (owner : String) : List LinkSet → Database → Except StoreError Unit × Database
  | [], db => (.ok (), db)
  | set :: sets, db =>
      match replaceLinks owner set db with
      | (.ok (), db) => replaceAllLinks owner sets db
      | failed => failed

/-- Stores a new record with its links. -/
def create (a : α) (db : Database) : Except StoreError Unit × Database :=
  match Table.insert (Record.toRow a) db with
  | .error v => (.error (.refused (.create (Record.entity α)) v), db)
  | .ok db => replaceAllLinks (Record.ident a).text (Record.links a) db

/-- Replaces a stored record and its links; false when its identifier is not stored. -/
def update (a : α) (db : Database) : Except StoreError Bool × Database :=
  match Table.replace? (Record.toRow a) db with
  | .error v => (.error (.refused (.update (Record.entity α)) v), db)
  | .ok none => (.ok false, db)
  | .ok (some db) =>
      match replaceAllLinks (Record.ident a).text (Record.links a) db with
      | (.ok (), db) => (.ok true, db)
      | (.error e, db) => (.error e, db)

variable (ρ) in
/-- Removes the row of a record; false when its identifier is not stored. -/
def delete (id : Ident) (db : Database) : Bool × Database :=
  match Table.erase? ρ id.text db with
  | none => (false, db)
  | some db => (true, db)

/-! ## Reads -/

/-- The record of a row. -/
def readRow (row : ρ) : Except StoreError α :=
  match Record.ofRow row with
  | .ok a => .ok a
  | .error fault => .error (.unreadable fault)

/-- Lifts a failure of the store into a look-up. -/
def ofStore (result : Except StoreError β) : Except LookupError β :=
  match result with
  | .ok b => .ok b
  | .error e => .error (.store e)

variable (α) in
/-- The record with an identifier. -/
def findById (id : Ident) (db : Database) : Except StoreError (Option α) :=
  match Table.find? (ρ := ρ) db id.text with
  | none => .ok none
  | some row => (readRow row).map some

variable (α) in
/-- The plan of a query on records of this kind. -/
def planFor (filter : Filter) (sort : Option SortRule) : Except LookupError Plan :=
  match Plan.build (Record.entity α) (Record.fields α) filter sort with
  | .ok plan => .ok plan
  | .error e => .error (.query e)

/-- The rows that a plan selects, in its order, when a statement can ask for them. -/
def selectRows (attempt : Attempt) (aim : Aim) (plan : Plan) (db : Database) :
    Except LookupError (List ρ) :=
  let rows : List ρ := Table.rows db
  let layout := Table.layout ρ
  if plan.runsOn layout aim Table.cell rows then
    .ok (plan.select layout aim Table.cell rows)
  else .error (.store (.unavailable attempt))

variable (α) in
/-- All records that a query selects, in its order. -/
def findAll (filter : Filter) (sort : Option SortRule) (db : Database) :
    Except LookupError (List α) := do
  let plan ← planFor α filter sort
  let rows : List ρ ← selectRows (.list (Table.name ρ)) .all plan db
  ofStore (rows.mapM readRow)

variable (α) in
/-- The first record that a query selects. Later rows are not looked at. -/
def findFirst (filter : Filter) (sort : Option SortRule) (db : Database) :
    Except LookupError (Option α) := do
  let plan ← planFor α filter sort
  let rows : List ρ ← selectRows (.fetch (Record.entity α)) .first plan db
  match rows with
  | [] => return none
  | row :: _ => ofStore ((readRow row).map some)

variable (α) in
/-- One page of the records that a query selects. The rows are counted first; those outside
    the page are not read. -/
def findPage (request : PageRequest) (filter : Filter) (sort : Option SortRule) (db : Database) :
    Except LookupError (Page α) := do
  let plan ← planFor α filter sort
  let counted : List ρ ← selectRows (.count (Table.name ρ)) .count plan db
  let rows : List ρ ← selectRows (.list (Table.name ρ)) .page plan db
  let records ← ofStore ((request.window rows).mapM readRow)
  return Page.ofRows request counted.length records

end

end Purse.Store
