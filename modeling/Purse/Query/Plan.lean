/-
  Purse.Query.Plan

  Plans: queries that passed the checks of an entity.  Field names are resolved
  against the entity's list of fields and values are read as the field's kind, so a
  plan holds column names of the entity and typed values only.  A statement puts a plan to use:
  it is after all rows, the first one, a page, or their number.
-/
import Purse.Cell
import Purse.Ident
import Purse.Instant.Reader
import Purse.Query.Condition
import Purse.Query.Like
import Purse.Query.Sort

namespace Purse.Query

open Text

/-- How the values of a field are written. -/
inductive FieldKind where
  | ident
  | text
  | money
  | integer
  | bool
  | instant
  deriving DecidableEq, Repr

/-- A column that callers may filter and sort on; its name is the column's. -/
structure Field where
  name : String
  kind : FieldKind
  deriving DecidableEq, Repr

/-- A condition of a plan. -/
inductive Predicate where
  | compare (column : String) (comparison : Comparison) (value : Cell)
  | oneOf (column : String) (values : List Cell)
  | like (column pattern : String)
  deriving DecidableEq, Repr

/-- A checked query: conditions that all have to hold, and a column to sort by. -/
structure Plan where
  predicates : List Predicate
  order : Option (String × SortOrder)
  deriving DecidableEq, Repr

/-- What a statement is after: all rows that a plan selects, the first one, a page of them, or only
    their number. -/
inductive Aim where
  | all
  | first
  | page
  | count
  deriving DecidableEq, Repr

/-- The number of parameters that a statement has besides those of its plan. A page is cut out by
    two. -/
def Aim.parameters : Aim → Nat
  | .page => 2
  | _ => 0

/-- Reads a truth value in any case. -/
def parseBool? (s : String) : Option Bool :=
  match lower s with
  | "true" => some true
  | "1" => some true
  | "false" => some false
  | "0" => some false
  | _ => none

/-- Reads a trimmed text as a value of a kind. -/
def FieldKind.parse (kind : FieldKind) (s : String) : Except ValueFault Cell :=
  match kind with
  | .text => .ok (.text s)
  | .ident => match Ident.ofText? s with
    | some id => .ok (.text id.text)
    | none => .error .notAnIdent
  | .money => match Cents.parse s with
    | .ok amount => .ok (.integer amount)
    | .error error => .error (.notAnAmount error)
  | .integer => match (integer? s.toList).bind storable? with
    | some n => .ok (.integer n)
    | none => .error .notAnInteger
  | .bool => match parseBool? s with
    | some b => .ok (.ofBool b)
    | none => .error .notABool
  | .instant => match Instant.parse? s with
    | some t => .ok (.text t.text)
    | none => .error .notAnInstant

/-- Reads the value of a condition on a field. Blanks around it do not matter, but a message
    shows them. -/
def Field.parse (field : Field) (raw : String) : Except QueryError Cell :=
  match field.kind.parse (trimmed raw) with
  | .ok value => .ok value
  | .error fault => .error (.invalidValue field.name raw fault)

/-- The field of a name. -/
def lookupField (entity : String) (fields : List Field) (name : String) :
    Except QueryError Field :=
  match fields.find? (·.name = name) with
  | some field => .ok field
  | none => .error (.unknownField entity name)

/-- The parts of the value of a condition on several values. -/
def alternatives (value : String) : List String :=
  (splitAll '|' value.toList).map String.ofList

/-- Checks the operator and the value of a condition on a known field. -/
def Field.predicate (field : Field) (op : Operator) (value : String) :
    Except QueryError Predicate :=
  match op with
  | .comparison c => return .compare field.name c (← field.parse value)
  | .oneOf => return .oneOf field.name (← (alternatives value).mapM field.parse)
  | .like =>
      if field.kind = .text then .ok (.like field.name (containing value))
      else .error (.unsupportedOperator field.name .like)

/-- Checks one condition. -/
def Condition.plan (entity : String) (fields : List Field) (condition : Condition) :
    Except QueryError Predicate := do
  let field ← lookupField entity fields (trimmed condition.field)
  field.predicate condition.op condition.value

/-- Checks a sort rule. -/
def SortRule.plan (entity : String) (fields : List Field) (sort : SortRule) :
    Except QueryError (String × SortOrder) := do
  let field ← lookupField entity fields (trimmed sort.field)
  return (field.name, sort.order)

/-- Checks a query against an entity: the conditions in their order, then the sort rule. -/
def Plan.build (entity : String) (fields : List Field) (filter : Filter) (sort : Option SortRule) :
    Except QueryError Plan := do
  let predicates ← filter.mapM (Condition.plan entity fields)
  let order ← sort.mapM (SortRule.plan entity fields)
  return ⟨predicates, order⟩

end Purse.Query
