/-
  Purse.Query.Condition

  Filters as callers write them: conditions `field:value:operator`, separated by
  commas.  The operator may be left out and is then equality.  Because a value may
  hold colons (a time of day does), the operator is looked for after the last
  colon only; a word there that is no operator is refused rather than taken
  for part of the value.
-/
import Purse.Query.Error
import Purse.Text.Split

namespace Purse.Query

open Text

/-- A condition on one field, not yet checked against any entity. -/
structure Condition where
  field : String
  op : Operator
  value : String
  deriving DecidableEq, Repr

/-- Reads an operator; blanks and case do not matter. -/
def Operator.parse (s : String) : Except QueryError Operator :=
  match Operator.ofWord? (lookupWord s) with
  | some op => .ok op
  | none => .error (.unknownOperator (lookupWord s))

/-- True for the ASCII letters. -/
def isLetter (c : Char) : Bool := ('a' ≤ c && c ≤ 'z') || ('A' ≤ c && c ≤ 'Z')

/-- True for a text that is one word of letters, so that it must be meant as an operator. -/
def looksLikeOperator (segment : List Char) : Bool :=
  !(trim segment).isEmpty && (trim segment).all isLetter

/-- Reads the part of a condition after its field: a value, and an operator if the text after
    the last colon is one. -/
def parseValueAndOperator (rest : List Char) : Except QueryError (String × Operator) :=
  match splitLast ':' rest with
  | none => .ok (String.ofList rest, .comparison .eq)
  | some (value, segment) =>
      match Operator.parse (String.ofList segment) with
      | .ok op => .ok (String.ofList value, op)
      | .error error =>
          if looksLikeOperator segment then .error error
          else .ok (String.ofList rest, .comparison .eq)

/-- Reads one condition. -/
def Condition.parse (raw : String) : Except QueryError Condition :=
  match splitFirst ':' raw.toList with
  | none => .error (.malformedCondition raw)
  | some (field, rest) =>
      if trim field = [] then .error (.malformedCondition raw)
      else do
        let (value, op) ← parseValueAndOperator rest
        return ⟨String.ofList (trim field), op, value⟩

/-- A filter: all its conditions have to hold, and without any it selects everything. -/
abbrev Filter := List Condition

/-- The filter with one more condition. -/
def Filter.and (filter : Filter) (field : String) (op : Operator) (value : String) : Filter :=
  filter ++ [⟨field, op, value⟩]

/-- The condition that a field equals a value. -/
def equals (field value : String) : Condition := ⟨field, .comparison .eq, value⟩

/-- The conditions that a filter text is made of, not yet read: the trimmed parts between
    commas that are not empty. -/
def conditionTexts (raw : String) : List String :=
  (((splitAll ',' raw.toList).map trim).filter (· ≠ [])).map String.ofList

/-- Reads a filter; the first condition that is refused decides. -/
def Filter.parse (raw : String) : Except QueryError Filter :=
  (conditionTexts raw).mapM Condition.parse

end Purse.Query
