/-
  Purse.Query.Error

  Why a query is refused, and the message of each refusal.  Messages show the text
  as the caller gave it.
-/
import Purse.Money
import Purse.Query.Operator

namespace Purse.Query

open Text

/-- Why a value does not fit its field. -/
inductive ValueFault where
  | notAnIdent
  | notAnAmount (error : MoneyError)
  | notAnInteger
  | notABool
  | notAnInstant
  /-- A date of a command line that cannot be read. -/
  | notADate
  /-- A time window whose start lies after its end. -/
  | reversedWindow
  deriving DecidableEq, Repr

/-- The reason that a message gives. -/
def ValueFault.reason : ValueFault → String
  | .notAnIdent => "expected a UUID"
  | .notAnAmount error => error.message
  | .notAnInteger => "expected an integer"
  | .notABool => "expected true or false"
  | .notAnInstant => "expected RFC 3339 or YYYY-MM-DD"
  | .notADate => "use YYYY-MM-DD or RFC 3339"
  | .reversedWindow => "start of the window is after its end"

/-- The largest page that can be asked for. -/
def largestPage : Nat := 100

/-- Why a page cannot be asked for. -/
inductive PageFault where
  | pageBelowOne
  | sizeOutOfBounds
  deriving DecidableEq, Repr

/-- The reason that a message gives. -/
def PageFault.reason : PageFault → String
  | .pageBelowOne => "page must be at least 1"
  | .sizeOutOfBounds =>
      "page size must be between 1 and " ++ String.ofList (numeral largestPage)

/-- Why a query is refused. -/
inductive QueryError where
  | unknownField (entity field : String)
  | malformedCondition (condition : String)
  | unknownOperator (word : String)
  | unsupportedOperator (field : String) (op : Operator)
  | invalidValue (field value : String) (fault : ValueFault)
  | malformedSort (rule : String)
  | unknownDirection (word : String)
  | invalidPage (fault : PageFault)
  deriving DecidableEq, Repr

/-- The message of a refused query. -/
def QueryError.message : QueryError → String
  | .unknownField entity field => "unknown field '" ++ field ++ "' for " ++ entity
  | .malformedCondition condition =>
      "malformed filter condition: " ++ quoted condition ++ " (expected field:value:operator)"
  | .unknownOperator word => "unknown filter operator: " ++ quoted word
  | .unsupportedOperator field op =>
      "operator '" ++ op.word ++ "' is not supported on field '" ++ field ++ "'"
  | .invalidValue field value fault =>
      "invalid value " ++ quoted value ++ " for field '" ++ field ++ "': " ++ fault.reason
  | .malformedSort rule =>
      "malformed sort rule: " ++ quoted rule ++ " (expected field:direction)"
  | .unknownDirection word => "unknown sort direction: " ++ quoted word
  | .invalidPage fault => "invalid page request: " ++ fault.reason

end Purse.Query
