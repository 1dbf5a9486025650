/-
  Purse.Proofs.Query.Meaning

  What a query means for a record, apart from how the record is stored.  A record is seen as the
  values of its fields; a condition compares such a value with the values that it names, and a
  sort rule compares the values of two records.  A plan works on cells instead, and on those it
  says the same: `Condition.holds_plan` for its conditions, `SortRule.admits_plan` for its order.

  Cells are compared as numbers and texts.  `FieldKind.Has.lt_cell` is what makes this right: the
  cells of two values of one kind stand in the order of the values.
-/
import Purse.Proofs.Codec.Order
import Purse.Proofs.Query.Sorting
import Purse.Proofs.Store.Access

namespace Purse.Query

open Text

/-! ## Values -/

/-- The value of a field. -/
inductive FieldValue where
  | ident (id : Ident)
  | text (s : String)
  | number (n : Int)
  | flag (b : Bool)
  | instant (t : Instant)
  deriving DecidableEq

namespace FieldValue

/-- The order of values: numbers by their size, false before true, identifiers by their numbers,
    instants by time, and texts by code points. -/
def below : FieldValue → FieldValue → Bool
  | .ident a, .ident b => a < b
  | .text a, .text b => a < b
  | .number a, .number b => a < b
  | .flag a, .flag b => !a && b
  | .instant a, .instant b => a < b
  | _, _ => false

/-- The order of a sort, where records without a value come first. -/
def notAfter : Option FieldValue → Option FieldValue → Bool
  | none, _ => true
  | some _, none => false
  | some v, some w => v = w || v.below w

/-- The value as it is stored. -/
def cell : FieldValue → Cell
  | .ident id => .text id.text
  | .text s => .text s
  | .number n => .integer n
  | .flag b => .ofBool b
  | .instant t => .text t.text

end FieldValue

/-- The value of a kind that a caller writes. Blanks around it do not matter. -/
def FieldKind.read? (kind : FieldKind) (raw : String) : Option FieldValue :=
  match kind with
  | .ident => (Ident.ofText? (trimmed raw)).map .ident
  | .text => some (.text (trimmed raw))
  | .money => (Cents.parse (trimmed raw)).toOption.map .number
  | .integer => ((integer? (trimmed raw).toList).bind storable?).map .number
  | .bool => (parseBool? (trimmed raw)).map .flag
  | .instant => (Instant.parse? (trimmed raw)).map .instant

/-- The values of a kind, with times that the stored form holds without loss. -/
inductive FieldKind.Has : FieldKind → FieldValue → Prop
  | ident (id : Ident) : Has .ident (.ident id)
  | text (s : String) : Has .text (.text s)
  | money (n : Int) : Has .money (.number n)
  | integer (n : Int) : Has .integer (.number n)
  | bool (b : Bool) : Has .bool (.flag b)
  | instant {t : Instant} (h : t.Storable) : Has .instant (.instant t)

/-- The cells of a column of a kind, with the values that they stand for. -/
inductive FieldKind.Shows (kind : FieldKind) : Cell → Option FieldValue → Prop
  | null : kind.Shows .null none
  | value {v : FieldValue} (h : kind.Has v) : kind.Shows v.cell (some v)

/-! ## Queries -/

/-- True when a value stands in a relation to another one. -/
def Comparison.meets (comparison : Comparison) (v w : FieldValue) : Bool :=
  match comparison with
  | .eq => v = w
  | .lt => v.below w
  | .gt => w.below v
  | .lte => v = w || v.below w
  | .gte => v = w || w.below v

/-- The values that a condition on a field names. -/
def Field.operands (field : Field) (op : Operator) (value : String) : List FieldValue :=
  match op with
  | .comparison _ => (field.kind.read? value).toList
  | .oneOf => (alternatives value).filterMap field.kind.read?
  | .like => []

/-- True for the values of a field that a condition lets through. -/
def Field.accepts (field : Field) (op : Operator) (value : String) (v : FieldValue) : Bool :=
  match op with
  | .comparison c => (field.kind.read? value).any (c.meets v)
  | .oneOf => (alternatives value).any fun part => field.kind.read? part = some v
  | .like => match v with
    | .text s => likeMatches (containing value) s
    | _ => false

/-- The field that a caller means. -/
def fieldNamed? (fields : List Field) (name : String) : Option Field :=
  fields.find? (·.name = trimmed name)

/-- The values that a condition names. -/
def Condition.operands (fields : List Field) (condition : Condition) : List FieldValue :=
  match fieldNamed? fields condition.field with
  | some field => field.operands condition.op condition.value
  | none => []

/-- True when a condition holds for a record with the given values. It does not hold for a record
    without a value in its field. -/
def Condition.holds (fields : List Field) (value : String → Option FieldValue)
    (condition : Condition) : Bool :=
  match fieldNamed? fields condition.field with
  | some field => (value field.name).any (field.accepts condition.op condition.value)
  | none => false

/-- True when a record with the first values does not have to come after one with the second. -/
def SortRule.admits (rule : SortRule) (value value' : String → Option FieldValue) : Bool :=
  match rule.order with
  | .ascending => FieldValue.notAfter (value (trimmed rule.field)) (value' (trimmed rule.field))
  | .descending => FieldValue.notAfter (value' (trimmed rule.field)) (value (trimmed rule.field))

/-! ## Values and their cells -/

section

variable {kind : FieldKind} {v w : FieldValue}

theorem FieldValue.cell_ne_null (v : FieldValue) : v.cell ≠ .null := by
  cases v <;> simp [FieldValue.cell, Cell.ofBool]

/-- Values of one kind are equal when their cells are. -/
theorem FieldKind.Has.cell_inj (hv : kind.Has v) (hw : kind.Has w) : v.cell = w.cell ↔ v = w := by
  cases hv with
  | ident a =>
      cases hw with
      | ident b => simp [FieldValue.cell]
  | text s =>
      cases hw with
      | text t => simp [FieldValue.cell]
  | money n =>
      cases hw with
      | money m => simp [FieldValue.cell]
  | integer n =>
      cases hw with
      | integer m => simp [FieldValue.cell]
  | bool a =>
      cases hw with
      | bool b => cases a <;> cases b <;> decide
  | instant ht =>
      cases hw with
      | instant hu => simp [FieldValue.cell, Instant.text_inj ht hu]

/-- The cells of values of one kind stand in the order of the values. -/
theorem FieldKind.Has.lt_cell (hv : kind.Has v) (hw : kind.Has w) :
    Cell.lt v.cell w.cell = v.below w := by
  cases hv with
  | ident a =>
      cases hw with
      | ident b => simp only [FieldValue.cell, Cell.lt, FieldValue.below, Ident.text_lt]
  | text s =>
      cases hw with
      | text t => rfl
  | money n =>
      cases hw with
      | money m => rfl
  | integer n =>
      cases hw with
      | integer m => rfl
  | bool a =>
      cases hw with
      | bool b => cases a <;> cases b <;> rfl
  | instant ht =>
      cases hw with
      | instant hu => simp only [FieldValue.cell, Cell.lt, FieldValue.below, Instant.text_lt ht hu]

theorem le_text (s t : String) :
    Cell.le (.text s) (.text t) = (decide (s = t) || decide (s < t)) := by
  rw [Bool.eq_iff_iff, Bool.or_eq_true, decide_eq_true_iff, decide_eq_true_iff, ← le_iff_eq_or_lt,
    Cell.le, Bool.not_eq_true', Cell.lt, decide_eq_false_iff_not, not_lt]

theorem le_integer (n m : Int) :
    Cell.le (.integer n) (.integer m) = (decide (n = m) || decide (n < m)) := by
  rw [Bool.eq_iff_iff, Bool.or_eq_true, decide_eq_true_iff, decide_eq_true_iff, ← le_iff_eq_or_lt,
    Cell.le, Bool.not_eq_true', Cell.lt, decide_eq_false_iff_not, not_lt]

/-- Of two values of one kind the cell of the first does not come after the other one exactly when
    the values are equal or the first is below. -/
theorem FieldKind.Has.le_cell (hv : kind.Has v) (hw : kind.Has w) :
    Cell.le v.cell w.cell = (decide (v = w) || v.below w) := by
  -- Either both cells are numbers or both are texts, and these orders are total.
  have either : Cell.le v.cell w.cell = (decide (v.cell = w.cell) || Cell.lt v.cell w.cell) := by
    cases hv <;> cases hw <;>
      simp only [FieldValue.cell, Cell.ofBool, le_text, le_integer, Cell.text.injEq,
        Cell.integer.injEq, Cell.lt]
  rw [either, hv.lt_cell hw, decide_eq_decide.2 (hv.cell_inj hw)]

/-- A comparison of cells is the comparison of the values; without a value it does not hold. -/
theorem Comparison.holds_cell (c : Comparison) {a : Cell} {v? : Option FieldValue}
    (shows : kind.Shows a v?) (hw : kind.Has w) :
    c.holds a w.cell = v?.any (c.meets · w) := by
  cases shows with
  | null => rfl
  | @value v hv =>
      -- Both cells are there, so only the comparison itself is left.
      simp only [Comparison.holds, Option.any_some, ne_eq, v.cell_ne_null, w.cell_ne_null,
        not_false_eq_true, decide_true, Bool.true_and]
      cases c with
      | eq => exact decide_eq_decide.2 (hv.cell_inj hw)
      | lt => exact hv.lt_cell hw
      | gt => exact hw.lt_cell hv
      | lte => exact hv.le_cell hw
      | gte => simp only [hw.le_cell hv, Comparison.meets, eq_comm]

/-- Cells stand in the order of a sort. -/
theorem FieldKind.Shows.le_cell {a b : Cell} {v? w? : Option FieldValue} (ha : kind.Shows a v?)
    (hb : kind.Shows b w?) : Cell.le a b = FieldValue.notAfter v? w? := by
  cases ha with
  | null => cases hb with
    | null => rfl
    | @value w hw => cases w <;> rfl
  | @value v hv => cases hb with
    | null => cases v <;> rfl
    | value hw => exact hv.le_cell hw

/-! ## Values that callers write -/

/-- A value is refused exactly when it cannot be read, and else becomes the cell of what is read. -/
theorem FieldKind.parse_eq_ok {raw : String} {cell : Cell} :
    kind.parse (trimmed raw) = .ok cell ↔ ∃ v, kind.read? raw = some v ∧ v.cell = cell := by
  cases kind with
  | ident =>
      simp only [FieldKind.parse, FieldKind.read?]
      cases Ident.ofText? (trimmed raw) <;> simp [FieldValue.cell]
  | text => simp [FieldKind.parse, FieldKind.read?, FieldValue.cell]
  | money =>
      simp only [FieldKind.parse, FieldKind.read?]
      cases Cents.parse (trimmed raw) <;> simp [FieldValue.cell, Except.toOption]
  | integer =>
      simp only [FieldKind.parse, FieldKind.read?]
      cases (integer? (trimmed raw).toList).bind storable? <;> simp [FieldValue.cell]
  | bool =>
      simp only [FieldKind.parse, FieldKind.read?]
      cases parseBool? (trimmed raw) <;> simp [FieldValue.cell]
  | instant =>
      simp only [FieldKind.parse, FieldKind.read?]
      cases Instant.parse? (trimmed raw) <;> simp [FieldValue.cell]

theorem Field.parse_eq_ok {field : Field} {raw : String} {cell : Cell} :
    field.parse raw = .ok cell ↔ ∃ v, field.kind.read? raw = some v ∧ v.cell = cell := by
  rw [← FieldKind.parse_eq_ok, Field.parse]
  cases field.kind.parse (trimmed raw) <;> simp

/-- What is read is a value of its kind, and its time can be stored if it is whole and lies in a
    plain year. -/
theorem FieldKind.has_of_read? {raw : String} (read : kind.read? raw = some v)
    (whole : ∀ t, v = .instant t → t.truncate = t ∧ t.InPlainYear) : kind.Has v := by
  cases kind with
  | text =>
      obtain rfl : .text (trimmed raw) = v := Option.some.inj read
      exact .text (trimmed raw)
  | ident =>
      simp only [FieldKind.read?, Option.map_eq_some_iff] at read
      obtain ⟨id, -, rfl⟩ := read
      exact .ident id
  | money =>
      simp only [FieldKind.read?, Option.map_eq_some_iff] at read
      obtain ⟨n, -, rfl⟩ := read
      exact .money n
  | integer =>
      simp only [FieldKind.read?, Option.map_eq_some_iff] at read
      obtain ⟨n, -, rfl⟩ := read
      exact .integer n
  | bool =>
      simp only [FieldKind.read?, Option.map_eq_some_iff] at read
      obtain ⟨b, -, rfl⟩ := read
      exact .bool b
  | instant =>
      -- A time below the second would be lost when it is written for a comparison.
      simp only [FieldKind.read?, Option.map_eq_some_iff] at read
      obtain ⟨t, parsed, rfl⟩ := read
      obtain ⟨truncated, plain⟩ := whole t rfl
      exact .instant ⟨Instant.wellFormed_of_parse? parsed, plain, truncated⟩

end

/-! ## Conditions -/

section

variable {field : Field} {op : Operator} {value : String} {p : Predicate} {row : RowView}
  {v? : Option FieldValue}

/-- A cell equals one of several cells exactly when its value is written in one of the parts that
    these are read from. -/
theorem Field.any_holds {a : Cell} (shows : field.kind.Shows a v?) {parts : List String}
    {cells : List Cell}
    (read : List.Forall₂ (fun part cell => field.parse part = .ok cell) parts cells)
    (whole : ∀ t, (∃ part ∈ parts, field.kind.read? part = some (.instant t)) →
      t.truncate = t ∧ t.InPlainYear) :
    (cells.any fun cell => Comparison.eq.holds a cell) =
      v?.any fun v => parts.any fun part => field.kind.read? part = some v := by
  induction read with
  | nil => cases v? <;> rfl
  | @cons part cell parts cells first rest ih =>
      obtain ⟨w, read, rfl⟩ := Field.parse_eq_ok.1 first
      have hw : field.kind.Has w := FieldKind.has_of_read? read fun t same =>
        whole t ⟨part, List.mem_cons_self, same ▸ read⟩
      have others := ih fun t ⟨part, member, read⟩ =>
        whole t ⟨part, List.mem_cons_of_mem _ member, read⟩
      rw [List.any_cons, Comparison.eq.holds_cell shows hw, others]
      cases v? with
      | none => rfl
      | some v =>
          simp only [Option.any_some, List.any_cons, read, Comparison.meets, Option.some.injEq,
            eq_comm]

theorem Field.accepts_of_read? {w : FieldValue} (read : field.kind.read? value = some w)
    (c : Comparison) : field.accepts (.comparison c) value = (c.meets · w) := by
  funext v
  rw [Field.accepts, read, Option.any_some]

/-- A predicate holds for a row exactly when its condition lets the value of the field through. -/
theorem Field.holds_predicate (planned : field.predicate op value = .ok p)
    (shows : field.kind.Shows (row field.name) v?)
    (whole : ∀ t, .instant t ∈ field.operands op value → t.truncate = t ∧ t.InPlainYear) :
    p.holds row = v?.any (field.accepts op value) := by
  cases op with
  | comparison c =>
      obtain ⟨cell, parsed, planned⟩ := bind_eq_ok.1 planned
      cases planned
      obtain ⟨w, read, rfl⟩ := Field.parse_eq_ok.1 parsed
      have hw : field.kind.Has w := FieldKind.has_of_read? read fun t same =>
        whole t (Option.mem_toList.2 (same ▸ read))
      rw [Predicate.holds, c.holds_cell shows hw, Field.accepts_of_read? read]
  | oneOf =>
      obtain ⟨cells, parsed, planned⟩ := bind_eq_ok.1 planned
      cases planned
      rw [Predicate.holds]
      exact Field.any_holds shows (mapM_eq_ok.1 parsed) fun t part =>
        whole t (List.mem_filterMap.2 part)
  | like =>
      rw [Field.predicate] at planned
      split at planned
      · next text =>
          cases planned
          rw [Predicate.holds]
          -- Only fields of texts have patterns.
          rw [text] at shows
          generalize row field.name = cell at shows
          cases shows with
          | null => rfl
          | value has =>
              cases has with
              | text s => simp only [FieldValue.cell, Option.any_some, Field.accepts]
      · cases planned

end

/-! ## Queries and their plans -/

/-- True for a row that shows the given values in the columns of the fields. -/
def Shows (fields : List Field) (row : RowView) (value : String → Option FieldValue) : Prop :=
  ∀ field ∈ fields, field.kind.Shows (row field.name) (value field.name)

section

variable {entity : String} {fields : List Field} {row row' : RowView}
  {value value' : String → Option FieldValue}

theorem lookupField_eq_ok {name : String} {field : Field} :
    lookupField entity fields (trimmed name) = .ok field ↔
      fieldNamed? fields name = some field := by
  rw [lookupField, fieldNamed?]
  cases fields.find? (·.name = trimmed name) <;> simp

theorem mem_of_fieldNamed? {name : String} {field : Field}
    (known : fieldNamed? fields name = some field) :
    field ∈ fields ∧ field.name = trimmed name := by
  rw [fieldNamed?] at known
  have named := List.find?_some known
  exact ⟨List.mem_of_find?_eq_some known, of_decide_eq_true named⟩

theorem Condition.holds_plan {condition : Condition} {p : Predicate}
    (planned : condition.plan entity fields = .ok p) (shows : Shows fields row value)
    (whole : ∀ t, .instant t ∈ condition.operands fields → t.truncate = t ∧ t.InPlainYear) :
    p.holds row = condition.holds fields value := by
  obtain ⟨field, looked, planned⟩ := bind_eq_ok.1 planned
  have known := lookupField_eq_ok.1 looked
  rw [Condition.operands, known] at whole
  rw [Condition.holds, known]
  exact Field.holds_predicate planned (shows field (mem_of_fieldNamed? known).1) whole

/-- A plan accepts a row exactly when all conditions of its filter hold for the record. -/
theorem Plan.accepts_eq {filter : Filter} {sort : Option SortRule} {plan : Plan}
    (built : Plan.build entity fields filter sort = .ok plan) (shows : Shows fields row value)
    (whole : ∀ condition ∈ filter, ∀ t, .instant t ∈ condition.operands fields →
      t.truncate = t ∧ t.InPlainYear) :
    plan.accepts row = filter.all fun condition => condition.holds fields value := by
  obtain ⟨planned, -⟩ := Plan.build_eq_ok.1 built
  rw [Plan.accepts]
  clear built
  generalize plan.predicates = predicates at planned
  -- The plan has a predicate for each condition, in the same order.
  induction planned with
  | nil => rfl
  | cons first rest ih =>
      obtain ⟨wholeFirst, wholeRest⟩ := List.forall_mem_cons.1 whole
      rw [List.all_cons, List.all_cons, Condition.holds_plan first shows wholeFirst, ih wholeRest]

/-! ### Comparisons with a value that is read -/

section

variable {field : Field} {name raw : String} {v : FieldValue}

theorem Condition.plan_of_read? (entity : String) (known : fieldNamed? fields name = some field)
    (read : field.kind.read? raw = some v) (c : Comparison) :
    Condition.plan entity fields ⟨name, .comparison c, raw⟩ =
      .ok (.compare field.name c v.cell) := by
  rw [Condition.plan, lookupField_eq_ok.2 known, ok_bind, Field.predicate,
    Field.parse_eq_ok.2 ⟨v, read, rfl⟩]
  rfl

theorem Condition.operands_of_read? (known : fieldNamed? fields name = some field)
    (read : field.kind.read? raw = some v) (c : Comparison) :
    Condition.operands fields ⟨name, .comparison c, raw⟩ = [v] := by
  rw [Condition.operands, known]
  simp only [Field.operands, read, Option.toList_some]

theorem Condition.holds_of_read? (known : fieldNamed? fields name = some field)
    (read : field.kind.read? raw = some v) (c : Comparison) :
    Condition.holds fields value ⟨name, .comparison c, raw⟩ =
      (value field.name).any (c.meets · v) := by
  rw [Condition.holds, known]
  exact congrArg (Option.any · (value field.name)) (Field.accepts_of_read? read c)

end

theorem SortRule.admits_plan {rule : SortRule} {column : String} {order : SortOrder}
    (planned : rule.plan entity fields = .ok (column, order)) (shows : Shows fields row value)
    (shows' : Shows fields row' value') :
    order.admits (row column) (row' column) = rule.admits value value' := by
  obtain ⟨field, looked, planned⟩ := bind_eq_ok.1 planned
  cases planned
  obtain ⟨member, name⟩ := mem_of_fieldNamed? (lookupField_eq_ok.1 looked)
  rw [SortRule.admits, ← name]
  -- A descending sort compares the same cells the other way round.
  cases rule.order with
  | ascending => exact (shows field member).le_cell (shows' field member)
  | descending => exact (shows' field member).le_cell (shows field member)

end

end Purse.Query
