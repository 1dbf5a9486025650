/-
  Purse.Store.Table

  Tables with constraints, and the statements that change one row.  A statement either
  takes effect as a whole or is refused and leaves the database as it was.  The
  constraints are looked at in a fixed order: first what the row itself must
  satisfy, then what no two rows may share, then what the row refers to.
-/
import Purse.Query.Index
import Purse.Store.Row

namespace Purse.Store

/-- The constraint that refused a statement. -/
inductive Violation where
  /-- The row breaks a condition of its table. -/
  | check
  /-- Another row has the same key or the same unique values. -/
  | unique
  /-- A row that is referred to is missing. -/
  | reference
  /-- The table has no such column. -/
  | column
  deriving DecidableEq, Repr

/-- The rows of one kind: where they are kept, and what constrains them. -/
class Table (ρ : Type) where
  /-- The table's name. -/
  name : String
  /-- The rows in a database. -/
  rows : Database → List ρ
  /-- The database with other rows of this kind. -/
  withRows : Database → List ρ → Database
  /-- The primary key; only a table that allows it has rows without one. -/
  key : ρ → Option String
  /-- The columns, in the declared order. -/
  columns : List String
  /-- The values of a row's columns, in the same order. -/
  values : ρ → List Cell
  /-- The columns by type, and the indexes. -/
  layout : Query.Layout
  /-- The row with another value in a column, when the column can hold it. -/
  put? : ρ → String → Cell → Option ρ
  /-- The condition on a single row. -/
  admissible : ρ → Bool
  /-- True for two rows that may not both be stored, keys apart. -/
  clashes : ρ → ρ → Bool
  /-- True when every row that the row refers to is stored. -/
  resolves : Database → ρ → Bool
  /-- True when a stored row refers to the key. -/
  referenced : Database → String → Bool
  /-- What happens to the rows that refer to a key when its row goes. -/
  release : Database → String → Database

namespace Table

variable {ρ : Type} [Table ρ]

/-- The columns with their values, in the declared order. -/
def cells (row : ρ) : List (String × Cell) := (columns ρ).zip (values row)

/-- The value of a column; absent for a column that the row does not have. -/
def cell (row : ρ) (column : String) : Cell := ((cells row).lookup column).getD .null

/-- The row with a key. -/
def find? (db : Database) (k : String) : Option ρ := (rows db).find? (key · = some k)

/-- True for two rows with the same key, and for two that clash otherwise. -/
def conflicts (a b : ρ) : Bool := ((key a).isSome && key a = key b) || clashes a b

/-- Checks a row against the constraints, where `others` are the rows it will stand
    beside. -/
def verify (db : Database) (others : List ρ) (row : ρ) : Except Violation Unit :=
  if !admissible row then .error .check
  else if others.any (conflicts · row) then .error .unique
  else if !resolves db row then .error .reference
  else .ok ()

/-- Adds a row at the end. -/
def insert (row : ρ) (db : Database) : Except Violation Database := do
  verify db (rows db) row
  return withRows db (rows db ++ [row])

/-- Writes a row in the place of the one with its key; nothing when there is none. -/
def replace? (row : ρ) (db : Database) : Except Violation (Option Database) := do
  match (key row).bind fun k => find? (ρ := ρ) db k with
  | none => return none
  | some _ =>
      verify db ((rows db).filter (key · ≠ key row)) row
      return some (withRows db ((rows db).map fun r => if key r = key row then row else r))

variable (ρ) in
/-- Removes the row with a key, and releases the rows that referred to it; nothing when there
    is none. -/
def erase? (k : String) (db : Database) : Option Database :=
  match find? (ρ := ρ) db k with
  | none => none
  | some _ => some (release ρ (withRows db ((rows (ρ := ρ) db).filter (key · ≠ some k))) k)

variable (ρ) in
/-- The column that a name means; the case of ASCII letters does not matter. -/
def columnNamed? (name : String) : Option String :=
  (columns ρ).find? fun column => column.toLower = name.toLower

variable (ρ) in
/-- Writes one column of the row with a key, and yields the number of rows changed. A key
    that other rows refer to cannot change. -/
def putColumn (k column : String) (value : Cell) (db : Database) :
    Except Violation (Nat × Database) :=
  match find? (ρ := ρ) db k with
  | none => .ok (0, db)
  | some row => do
      match put? row column value with
      | none => .error .check
      | some new =>
          verify db ((rows db).filter (key · ≠ some k)) new
          if key new ≠ some k ∧ referenced ρ db k then .error .reference
          else
            return (1, withRows db ((rows db).map fun r => if key r = some k then new else r))

variable (ρ) in
/-- `putColumn` under a caller's name for the column. A name that means no column is refused even
    when no row has the key. -/
def putCell (k name : String) (value : Cell) (db : Database) : Except Violation (Nat × Database) :=
  match columnNamed? ρ name with
  | none => .error .column
  | some column => putColumn ρ k column value db

end Table

end Purse.Store
