/-
  Purse.Query.Selection

  What a plan selects.  A row is seen through its columns; a comparison with an absent
  value holds for no row.  Sorting is stable: rows with equal sort cells keep the order
  in which they were come across, in both directions.
-/
import Purse.Query.Route

namespace Purse.Query

/-- A row as a query sees it: the cell of each column. -/
abbrev RowView := String → Cell

/-- A comparison of two cells; with an absent one it does not hold. -/
def Comparison.holds (comparison : Comparison) (a b : Cell) : Bool :=
  a ≠ .null && b ≠ .null &&
    match comparison with
    | .eq => a = b
    | .lt => Cell.lt a b
    | .gt => Cell.lt b a
    | .lte => Cell.le a b
    | .gte => Cell.le b a

/-- True when a condition holds for a row. -/
def Predicate.holds (row : RowView) : Predicate → Bool
  | .compare column comparison value => comparison.holds (row column) value
  | .oneOf column values => values.any fun value => Comparison.eq.holds (row column) value
  | .like column pattern => match row column with
    | .text text => likeMatches pattern text
    | _ => false

/-- True when all conditions of a plan hold for a row. -/
def Plan.accepts (plan : Plan) (row : RowView) : Bool :=
  plan.predicates.all (Predicate.holds row)

/-- True when the first cell does not have to come after the second one. -/
def SortOrder.admits : SortOrder → Cell → Cell → Bool
  | .ascending, a, b => Cell.le a b
  | .descending, a, b => Cell.le b a

/-- Puts rows into the order of a plan. -/
def Plan.arrange (plan : Plan) (view : ρ → RowView) (rows : List ρ) : List ρ :=
  match plan.order with
  | none => rows
  | some (column, order) => rows.mergeSort fun a b => order.admits (view a column) (view b column)

/-- What the choice of a route for a statement depends on. The number of rows is the same in every
    order. -/
def Plan.survey (plan : Plan) (layout : Layout) (aim : Aim) : Survey where
  layout
  terms := termsOf plan.predicates
  order := if aim = .count then none else plan.order
  counting := aim = .count
  stopsAtFirst := aim = .first

/-- Rows in the order in which a statement comes across them. -/
def Plan.visit (plan : Plan) (layout : Layout) (aim : Aim) (view : ρ → RowView) (rows : List ρ) :
    List ρ :=
  let survey := plan.survey layout aim
  let route := survey.route
  match route.index with
  | none => rows
  | some index =>
      let found := index.arrange view rows
      if survey.isBackwards route then found.reverse else found

/-- The rows that a plan selects, in its order. Rows that its sort leaves open stand as a statement
    with the given aim comes across them. -/
def Plan.select (plan : Plan) (layout : Layout) (aim : Aim) (view : ρ → RowView) (rows : List ρ) :
    List ρ :=
  plan.arrange view (plan.visit layout aim view (rows.filter fun row => plan.accepts (view row)))

/-- A page comes out of the same rows, in the same order, as the whole listing. -/
theorem Plan.select_page {plan : Plan} {layout : Layout} {view : ρ → RowView} {rows : List ρ} :
    plan.select layout .page view rows = plan.select layout .all view rows := rfl

/-- A statement comes across every row. -/
theorem Plan.mem_visit {plan : Plan} {layout : Layout} {aim : Aim} {view : ρ → RowView}
    {rows : List ρ} {row : ρ} : row ∈ plan.visit layout aim view rows ↔ row ∈ rows := by
  simp only [Plan.visit]
  split
  · rfl
  · split <;> simp [Index.mem_arrange]

theorem Plan.mem_arrange {plan : Plan} {view : ρ → RowView} {rows : List ρ} {row : ρ} :
    row ∈ plan.arrange view rows ↔ row ∈ rows := by
  unfold Plan.arrange
  split <;> simp [List.mem_mergeSort]

/-- A plan selects the rows that it accepts, and no others. -/
theorem Plan.mem_select {plan : Plan} {layout : Layout} {aim : Aim} {view : ρ → RowView}
    {rows : List ρ} {row : ρ} :
    row ∈ plan.select layout aim view rows ↔ row ∈ rows ∧ plan.accepts (view row) = true := by
  simp [Plan.select, Plan.mem_arrange, Plan.mem_visit, List.mem_filter]

end Purse.Query
