/-
  Purse.Query.Sort

  Sort rules as callers write them: `field:direction`, ascending when no direction is
  given.
-/
import Purse.Query.Error
import Purse.Text.Split

namespace Purse.Query

open Text

/-- The direction of a sort. -/
inductive SortOrder where
  | ascending
  | descending
  deriving DecidableEq, Repr

/-- A sort rule, not yet checked against any entity. -/
structure SortRule where
  field : String
  order : SortOrder
  deriving DecidableEq, Repr

/-- The word for a direction. -/
def SortOrder.word : SortOrder → String
  | .ascending => "asc"
  | .descending => "desc"

/-- Reads a direction; blanks and case do not matter. -/
def SortOrder.parse (s : String) : Except QueryError SortOrder :=
  match lookupWord s with
  | "asc" => .ok .ascending
  | "desc" => .ok .descending
  | word => .error (.unknownDirection word)

/-- Reads a sort rule. The direction is looked at before the field. -/
def SortRule.parse (raw : String) : Except QueryError SortRule := do
  let rule := trim raw.toList
  let (field, order) ← match splitFirst ':' rule with
    | some (field, direction) => do
        let order ← SortOrder.parse (String.ofList direction)
        pure (trim field, order)
    | none => pure (rule, .ascending)
  if field = [] then .error (.malformedSort (String.ofList rule))
  else return ⟨String.ofList field, order⟩

end Purse.Query
