/-
  Purse.Query.Limits

  How large a statement may grow.  Before it looks at any row, the store refuses a
  statement whose conditions nest too deeply or which has too many parameters.  A
  pattern that is too long is refused when a value is held against it for the first time.
  Conditions on a column with a fixed value are tried before any row is looked at; then, for
  each row on the way, those that pick the stretch of an index, those that the entries of the
  index decide, and the others.  So such a pattern does no harm behind a condition that is
  never met.
-/
import Purse.Query.Selection
import Purse.Query.Statement

namespace Purse.Query

/-- The largest depth of a statement's conditions. -/
def deepestConditions : Nat := 1000

/-- The largest number of parameters of a statement. -/
def mostParameters : Nat := 32766

/-- The largest number of bytes of a pattern. -/
def longestPattern : Nat := 50000

/-- The depth of a condition. With one alternative only, that one is a level of its own. -/
def Predicate.depth : Predicate → Nat
  | .oneOf _ [_] => 3
  | _ => 2

/-- The depth of conditions that all have to hold: each is joined to all before it. -/
def conjunctionDepth : List Predicate → Nat
  | [] => 0
  | p :: ps => ps.foldl (fun depth q => max depth q.depth + 1) p.depth

/-- True when a statement with a plan's conditions is small enough. -/
def Plan.isRunnable (plan : Plan) (aim : Aim) : Bool :=
  conjunctionDepth plan.predicates ≤ deepestConditions &&
    (whereClause plan.predicates).params.length + aim.parameters ≤ mostParameters

/-- True for a condition whose pattern is too long. -/
def Predicate.isTooLong : Predicate → Bool
  | .like _ pattern => longestPattern < pattern.utf8ByteSize
  | _ => false

/-- True when a row meets all conditions before one whose pattern is too long. -/
def reachesTooLong (row : RowView) : List Predicate → Bool
  | [] => false
  | p :: ps => p.isTooLong || (p.holds row && reachesTooLong row ps)

/-- The values that conditions give to columns. -/
def fixedValues (predicates : List Predicate) : RowView := fun column =>
  match fixing? predicates column with
  | some (.compare _ _ value, _) => value
  | some (.oneOf _ (value :: _), _) => value
  | _ => .null

/-- The conditions that are tried before any row is looked at. -/
def settledFirst (terms : List Term) : List Predicate :=
  (terms.filter (·.settled)).map (·.predicate)

/-- The conditions that are tried on each row of a route, in the order in which they are. -/
def triedOn (route : Route) (terms : List Term) : List Predicate :=
  let rest := terms.filter fun term => !term.settled && !route.terms.contains term
  let early (term : Term) : Bool :=
    (route.index.map fun index => !route.covers && index.columns.contains term.column).getD false
  (route.terms ++ rest.filter early ++ rest.filter (!early ·)).map (·.predicate)

/-- True when a plan's statement holds a value against a pattern that is too long. -/
def Plan.meetsTooLong (plan : Plan) (layout : Layout) (aim : Aim) (view : ρ → RowView)
    (rows : List ρ) : Bool :=
  let survey := plan.survey layout aim
  let settled := settledFirst survey.terms
  let values := fixedValues plan.predicates
  reachesTooLong values settled ||
    (settled.all (Predicate.holds values) &&
      rows.any fun row => reachesTooLong (view row) (triedOn survey.route survey.terms))

/-- True when a plan's statement runs to its end. -/
def Plan.runsOn (plan : Plan) (layout : Layout) (aim : Aim) (view : ρ → RowView)
    (rows : List ρ) : Bool :=
  plan.isRunnable aim &&
    !(plan.predicates.any Predicate.isTooLong && plan.meetsTooLong layout aim view rows)

/-- Without patterns that are too long, a statement runs if it is small enough. -/
theorem Plan.runsOn_eq_isRunnable {plan : Plan} {layout : Layout} {aim : Aim}
    {view : ρ → RowView} {rows : List ρ} (h : ∀ p ∈ plan.predicates, p.isTooLong = false) :
    plan.runsOn layout aim view rows = plan.isRunnable aim := by
  have none : plan.predicates.any Predicate.isTooLong = false := by
    simpa using h
  simp [Plan.runsOn, none]

end Purse.Query
