/-
  Purse.Query.Statement

  The statement text of a plan.  A statement is a list of fragments: fixed text, or the
  place of a parameter.  The text shows a question mark for each parameter, and the
  parameters are the values in the order of their places, so no value is ever part
  of the text.
-/
import Purse.Query.Plan

namespace Purse.Query

/-- A piece of a statement. -/
inductive Fragment where
  | code (text : String)
  | param (value : Cell)
  deriving DecidableEq, Repr

/-- A statement before it is sent. -/
abbrev Statement := List Fragment

/-- The text of a fragment. -/
def Fragment.text : Fragment → String
  | .code text => text
  | .param _ => "?"

/-- The value of a parameter's place. -/
def Fragment.value? : Fragment → Option Cell
  | .code _ => none
  | .param value => some value

/-- The text of a statement. -/
def Statement.text (statement : Statement) : String :=
  String.join (statement.map Fragment.text)

/-- The parameters of a statement, in the order of their places. -/
def Statement.params (statement : Statement) : List Cell :=
  statement.filterMap Fragment.value?

/-- The sign of a comparison. -/
def Comparison.sign : Comparison → String
  | .eq => " = "
  | .lt => " < "
  | .gt => " > "
  | .lte => " <= "
  | .gte => " >= "

/-- Parameters with commas between them. -/
def params : List Cell → Statement
  | [] => []
  | [value] => [.param value]
  | value :: values => .param value :: .code ", " :: params values

/-- The fragments of a condition. -/
def Predicate.fragments : Predicate → Statement
  | .compare column comparison value => [.code column, .code comparison.sign, .param value]
  | .oneOf column values => [.code column, .code " IN ", .code "("] ++ params values ++ [.code ")"]
  | .like column pattern =>
      [.code column, .code " LIKE ", .param (.text pattern), .code " ESCAPE '\\'"]

/-- The conditions of a plan. -/
def whereClause : List Predicate → Statement
  | [] => []
  | p :: ps => .code " WHERE " :: p.fragments ++ ps.flatMap fun q => .code " AND " :: q.fragments

/-- The word for a direction. -/
def SortOrder.code : SortOrder → String
  | .ascending => " ASC"
  | .descending => " DESC"

/-- The sort of a plan. -/
def orderClause : Option (String × SortOrder) → Statement
  | none => []
  | some (column, order) => [.code " ORDER BY ", .code column, .code order.code]

/-- The statement that starts with `lead` and goes on with the plan's clauses. -/
def Plan.statement (plan : Plan) (lead : String) : Statement :=
  .code lead :: whereClause plan.predicates ++ orderClause plan.order

end Purse.Query
