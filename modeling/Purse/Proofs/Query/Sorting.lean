/-
  Purse.Proofs.Query.Sorting

  The order of cells and the rows that it sorts.  Cells have places in a linear order
  (`Cell.le_iff_place`), so any two can be compared and a sort by a column leaves no row behind
  one that has to come after it (`Plan.select_pairwise`).
-/
import Mathlib.Data.Prod.Lex
import Mathlib.Data.String.Basic
import Purse.Query.Selection

namespace Purse.Cell

/-- The place of a cell in the order: nothing, then the numbers by their size, then the texts. -/
def place : Cell → Nat ×ₗ Int ×ₗ String
  | .null => toLex (0, toLex (0, ""))
  | .integer n => toLex (1, toLex (n * Decimal.unitsPerOne, ""))
  | .real units => toLex (1, toLex (units, ""))
  | .text s => toLex (2, toLex (0, s))

theorem lt_iff_place (a b : Cell) : Cell.lt a b = true ↔ place a < place b := by
  have one : 0 < Decimal.unitsPerOne := by decide +kernel
  have positive : 0 < (Decimal.unitsPerOne : Int) := Int.natCast_pos.2 one
  cases a <;> cases b <;>
    simp only [Cell.lt, place, Prod.Lex.toLex_lt_toLex, Int.mul_lt_mul_right positive,
      decide_eq_true_eq, lt_irrefl, Nat.reduceLT, Nat.reduceEqDiff, true_and, false_and, and_false,
      or_false, false_or, reduceCtorEq, Bool.false_eq_true]

theorem le_iff_place (a b : Cell) : Cell.le a b = true ↔ place a ≤ place b := by
  rw [Cell.le, Bool.not_eq_true', Bool.eq_false_iff, ne_eq, lt_iff_place, not_lt]

end Purse.Cell

namespace Purse.Query

theorem SortOrder.admits_trans (order : SortOrder) (a b c : Cell) (hab : order.admits a b = true)
    (hbc : order.admits b c = true) : order.admits a c = true := by
  cases order with
  | ascending =>
      rw [SortOrder.admits, Cell.le_iff_place] at hab hbc ⊢
      exact le_trans hab hbc
  | descending =>
      rw [SortOrder.admits, Cell.le_iff_place] at hab hbc ⊢
      exact le_trans hbc hab

theorem SortOrder.admits_total (order : SortOrder) (a b : Cell) :
    (order.admits a b || order.admits b a) = true := by
  cases order with
  | ascending =>
      rw [SortOrder.admits, SortOrder.admits, Bool.or_eq_true, Cell.le_iff_place,
        Cell.le_iff_place]
      exact le_total _ _
  | descending =>
      rw [SortOrder.admits, SortOrder.admits, Bool.or_eq_true, Cell.le_iff_place,
        Cell.le_iff_place]
      exact le_total _ _

/-- The selected rows stand in the order of the plan, on whatever route they were found. -/
theorem Plan.select_pairwise {plan : Plan} {column : String} {order : SortOrder}
    (sorted : plan.order = some (column, order)) (layout : Layout) (aim : Aim)
    (view : ρ → RowView) (rows : List ρ) :
    (plan.select layout aim view rows).Pairwise fun a b =>
      order.admits (view a column) (view b column) = true := by
  rw [Plan.select, Plan.arrange, sorted]
  exact List.pairwise_mergeSort
    (fun a b c => order.admits_trans (view a column) (view b column) (view c column))
    (fun a b => order.admits_total (view a column) (view b column)) _

end Purse.Query
