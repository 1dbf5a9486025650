/-
  Purse.Query.Operator

  The closed set of filter operators and the words that name them.
-/
import Purse.Text.Blank
import Purse.Text.Lowercase

namespace Purse.Query

open Text

/-- A comparison of a column with one value. -/
inductive Comparison where
  | eq
  | lt
  | gt
  | lte
  | gte
  deriving DecidableEq, Repr

/-- A filter operator. -/
inductive Operator where
  | comparison (c : Comparison)
  /-- The column equals one of several values. -/
  | oneOf
  /-- The column contains a text. -/
  | like
  deriving DecidableEq, Repr

/-- The word for a comparison. -/
def Comparison.word : Comparison → String
  | .eq => "eq"
  | .lt => "lt"
  | .gt => "gt"
  | .lte => "lte"
  | .gte => "gte"

/-- The word for an operator. -/
def Operator.word : Operator → String
  | .comparison c => c.word
  | .oneOf => "in"
  | .like => "like"

/-- The operator of a word or sign in lower case. -/
def Operator.ofWord? : String → Option Operator
  | "eq" => some (.comparison .eq)
  | "=" => some (.comparison .eq)
  | "lt" => some (.comparison .lt)
  | "<" => some (.comparison .lt)
  | "gt" => some (.comparison .gt)
  | ">" => some (.comparison .gt)
  | "lte" => some (.comparison .lte)
  | "<=" => some (.comparison .lte)
  | "gte" => some (.comparison .gte)
  | ">=" => some (.comparison .gte)
  | "in" => some .oneOf
  | "like" => some .like
  | _ => none

/-- A word as it is looked up: without blanks around it and in lower case. -/
def lookupWord (s : String) : String := lower (trimmed s)

end Purse.Query
