/-
  Purse.Query.Index

  How the rows of a table are laid out: the rows themselves, in the order in which they came,
  and indexes, each with an entry for every row, in the order of some of its columns.
  Entries that agree in these columns stand in the order in which their rows came.
-/
import Purse.Cell
import Purse.Query.Estimate

namespace Purse.Query

/-- An index. Its columns hold texts. -/
structure Index where
  columns : List String
  /-- No two rows agree in all columns. -/
  unique : Bool
  deriving DecidableEq, Repr

/-- The number of columns of each type in a table, and its indexes, those that were made last
    first. -/
structure Layout where
  texts : Nat
  numbers : Nat
  indexes : List Index
  deriving DecidableEq, Repr

/-- The size of a record with some texts and numbers and the place of a row. A text is taken to be
    five times as long as a number. -/
def recordSize (texts numbers : Nat) : Int := Estimate.ofCount (4 * (5 * texts + numbers + 1))

/-- What reading an entry of an index costs, against reading a row. -/
def Layout.entryCost (layout : Layout) (index : Index) : Int :=
  1 + 15 * recordSize index.columns.length 0 / recordSize layout.texts layout.numbers

/-- The number of rows that every table is taken to have. -/
def assumedRows : Int := 200

/-- The number of rows that are taken to agree in the first `count` columns of an index. -/
def Index.alike (index : Index) (count : Nat) : Int :=
  if count = 0 then assumedRows
  else if index.unique && count = index.columns.length then 0
  else 34 - count

/-- The order of lists of cells: by the first cell in which they differ. -/
def cellsLe : List Cell → List Cell → Bool
  | [], _ => true
  | _ :: _, [] => false
  | a :: as, b :: bs => Cell.lt a b || (a = b && cellsLe as bs)

/-- Rows in the order of an index. -/
def Index.arrange (index : Index) (view : ρ → String → Cell) (rows : List ρ) : List ρ :=
  rows.mergeSort fun a b => cellsLe (index.columns.map (view a)) (index.columns.map (view b))

/-- An index has every row. -/
theorem Index.mem_arrange {index : Index} {view : ρ → String → Cell} {rows : List ρ} {row : ρ} :
    row ∈ index.arrange view rows ↔ row ∈ rows := by
  simp [Index.arrange, List.mem_mergeSort]

end Purse.Query
