/-
  Purse.Proofs.Query.Rendering

  What callers write never becomes part of a statement's text.  Behind its start a statement is
  made of fixed texts, of columns of the entity, and of places of parameters (`Fragment.Plain`);
  the values that a filter names stand in these places, condition by condition (`Binds`).  Two
  queries of the same shape have the same text, because the text does not change when the values
  are taken out of a plan (`text_statement_blank`) and the shape determines what is left of it
  (`Plan.blank_of_build`).  `statement_of_build` puts all this together.
-/
import Purse.Proofs.Query.Meaning
import Purse.Store.Scope

namespace Purse.Query

open Text

variable {entity : String} {fields : List Field}

/-! ## Fragments -/

/-- The fixed texts that stand behind the start of a statement. -/
def fixedTexts : List String := [
  " WHERE ", " AND ", " = ", " < ", " > ", " <= ", " >= ", " IN ", "(", ", ", ")", " LIKE ",
  " ESCAPE '\\'", " ORDER BY ", " ASC", " DESC"]

/-- The fragments that no caller has written. -/
inductive Fragment.Plain (fields : List Field) : Fragment → Prop
  | fixed {text : String} (known : text ∈ fixedTexts) : Plain fields (.code text)
  | column {field : Field} (known : field ∈ fields) : Plain fields (.code field.name)
  | place (value : Cell) : Plain fields (.param value)

/-- True for a column of a field. -/
def IsColumn (fields : List Field) (column : String) : Prop := ∃ field ∈ fields, field.name = column

theorem plain_column {column : String} (known : IsColumn fields column) :
    Fragment.Plain fields (.code column) := by
  obtain ⟨field, member, rfl⟩ := known
  exact .column member

theorem plain_params (values : List Cell) : ∀ f ∈ params values, f.Plain fields := by
  -- The values stand alone or with a comma behind them, as in the recursion that lists them.
  induction values using params.induct with
  | case1 => exact List.forall_mem_nil _
  | case2 value => exact List.forall_mem_singleton.2 (.place value)
  | case3 value values more ih =>
      rw [params]
      · have comma : Fragment.Plain fields (.code ", ") := .fixed (by decide)
        exact List.forall_mem_cons.2 ⟨.place value, List.forall_mem_cons.2 ⟨comma, ih⟩⟩
      · exact more

theorem plain_fragments {p : Predicate} (known : IsColumn fields p.column) :
    ∀ f ∈ p.fragments, f.Plain fields := by
  have column : Fragment.Plain fields (.code p.column) := plain_column known
  cases p with
  | compare name comparison value =>
      have sign : comparison.sign ∈ fixedTexts := by cases comparison <;> decide
      exact List.forall_mem_cons.2 ⟨column, List.forall_mem_cons.2 ⟨.fixed sign,
        List.forall_mem_singleton.2 (.place value)⟩⟩
  | oneOf name values =>
      have opening : ∀ f ∈ [Fragment.code name, .code " IN ", .code "("], f.Plain fields :=
        List.forall_mem_cons.2 ⟨column, List.forall_mem_cons.2 ⟨.fixed (by decide),
          List.forall_mem_singleton.2 (.fixed (by decide))⟩⟩
      exact List.forall_mem_append.2 ⟨List.forall_mem_append.2 ⟨opening, plain_params values⟩,
        List.forall_mem_singleton.2 (.fixed (by decide))⟩
  | like name pattern =>
      exact List.forall_mem_cons.2 ⟨column, List.forall_mem_cons.2 ⟨.fixed (by decide),
        List.forall_mem_cons.2 ⟨.place _, List.forall_mem_singleton.2 (.fixed (by decide))⟩⟩⟩

theorem plain_whereClause {predicates : List Predicate}
    (known : ∀ p ∈ predicates, IsColumn fields p.column) :
    ∀ f ∈ whereClause predicates, f.Plain fields := by
  cases predicates with
  | nil => exact List.forall_mem_nil _
  | cons p ps =>
      obtain ⟨first, others⟩ := List.forall_mem_cons.1 known
      have behind : ∀ q ∈ ps, ∀ f ∈ Fragment.code " AND " :: q.fragments, f.Plain fields :=
        fun q member => List.forall_mem_cons.2
          ⟨.fixed (by decide), plain_fragments (others q member)⟩
      refine List.forall_mem_cons.2 ⟨.fixed (by decide), List.forall_mem_append.2
        ⟨plain_fragments first, fun f member => ?_⟩⟩
      obtain ⟨q, there, member⟩ := List.mem_flatMap.1 member
      exact behind q there f member

theorem plain_orderClause {order : Option (String × SortOrder)}
    (known : ∀ rule ∈ order, IsColumn fields rule.1) :
    ∀ f ∈ orderClause order, f.Plain fields := by
  cases order with
  | none => exact List.forall_mem_nil _
  | some rule =>
      have direction : rule.2.code ∈ fixedTexts := by cases rule.2 <;> decide
      exact List.forall_mem_cons.2 ⟨.fixed (by decide), List.forall_mem_cons.2
        ⟨plain_column (known rule rfl), List.forall_mem_singleton.2 (.fixed direction)⟩⟩

theorem Condition.isColumn_of_plan {condition : Condition} {p : Predicate}
    (planned : condition.plan entity fields = .ok p) : IsColumn fields p.column := by
  obtain ⟨field, looked, planned⟩ := bind_eq_ok.1 planned
  obtain ⟨member, -⟩ := mem_of_fieldNamed? (lookupField_eq_ok.1 looked)
  refine ⟨field, member, ?_⟩
  cases hop : condition.op with
  | comparison c =>
      rw [hop] at planned
      obtain ⟨cell, -, planned⟩ := bind_eq_ok.1 planned
      exact congrArg Predicate.column (pure_eq_ok.1 planned)
  | oneOf =>
      rw [hop] at planned
      obtain ⟨cells, -, planned⟩ := bind_eq_ok.1 planned
      exact congrArg Predicate.column (pure_eq_ok.1 planned)
  | like =>
      rw [hop, Field.predicate] at planned
      split at planned
      · exact congrArg Predicate.column (Except.ok.inj planned)
      · cases planned

theorem SortRule.isColumn_of_plan {rule : SortRule} {order : String × SortOrder}
    (planned : rule.plan entity fields = .ok order) : IsColumn fields order.1 := by
  obtain ⟨field, looked, planned⟩ := bind_eq_ok.1 planned
  obtain ⟨member, -⟩ := mem_of_fieldNamed? (lookupField_eq_ok.1 looked)
  exact ⟨field, member, congrArg Prod.fst (pure_eq_ok.1 planned)⟩

/-- Each condition of a plan is one of the filter. -/
theorem Plan.exists_condition {filter : Filter} {sort : Option SortRule} {plan : Plan}
    (built : Plan.build entity fields filter sort = .ok plan) {p : Predicate}
    (member : p ∈ plan.predicates) :
    ∃ condition ∈ filter, Condition.plan entity fields condition = .ok p := by
  obtain ⟨planned, -⟩ := Plan.build_eq_ok.1 built
  exact exists_of_mem_mapM (mapM_eq_ok.2 planned) member

/-- A plan names columns of the entity only, in its conditions and in its sort. -/
theorem Plan.isColumn_of_build {filter : Filter} {sort : Option SortRule} {plan : Plan}
    (built : Plan.build entity fields filter sort = .ok plan) :
    (∀ p ∈ plan.predicates, IsColumn fields p.column) ∧
      ∀ order ∈ plan.order, IsColumn fields order.1 := by
  obtain ⟨-, sorted⟩ := Plan.build_eq_ok.1 built
  constructor
  · intro p member
    obtain ⟨condition, -, planned⟩ := Plan.exists_condition built member
    exact Condition.isColumn_of_plan planned
  · intro order ordered
    cases sort with
    | none =>
        rw [← pure_eq_ok.1 sorted] at ordered
        cases ordered
    | some rule =>
        obtain ⟨made, plannedRule, same⟩ := map_eq_ok.1 sorted
        obtain rfl : made = order := Option.some.inj (same.trans ordered)
        exact SortRule.isColumn_of_plan plannedRule

theorem plain_of_build {filter : Filter} {sort : Option SortRule} {plan : Plan}
    (built : Plan.build entity fields filter sort = .ok plan) :
    ∀ f ∈ whereClause plan.predicates ++ orderClause plan.order, f.Plain fields := by
  obtain ⟨conditions, sorts⟩ := Plan.isColumn_of_build built
  exact List.forall_mem_append.2 ⟨plain_whereClause conditions, plain_orderClause sorts⟩

theorem text_cons (f : Fragment) (rest : Statement) :
    Statement.text (f :: rest) = f.text ++ Statement.text rest := by
  rw [Statement.text, List.map_cons, String.join_cons, Statement.text]

/-- Fragments with a question mark for each of their values and no others. -/
def Fragment.IsQuiet (f : Fragment) : Prop := f.text.toList.count '?' = f.value?.toList.length

theorem Fragment.Plain.isQuiet {f : Fragment} (plain : f.Plain fields)
    (names : ∀ field ∈ fields, '?' ∉ field.name.toList) : f.IsQuiet := by
  have fixed : ∀ text ∈ fixedTexts, '?' ∉ text.toList := by decide
  cases plain with
  | fixed known => exact List.count_eq_zero_of_not_mem (fixed _ known)
  | column known => exact List.count_eq_zero_of_not_mem (names _ known)
  | place value => exact (by decide : "?".toList.count '?' = 1)

/-- Question marks stand for parameters only. -/
theorem count_text {statement : Statement} (quiet : ∀ f ∈ statement, f.IsQuiet) :
    statement.text.toList.count '?' = statement.params.length := by
  induction statement with
  | nil => rfl
  | cons f rest ih =>
      obtain ⟨first, others⟩ := List.forall_mem_cons.1 quiet
      rw [text_cons, String.toList_append, List.count_append, ih others, first]
      cases f with
      | code text => exact Nat.zero_add _
      | param value => exact Nat.add_comm 1 _

/-! ## Values -/

/-- The values that a condition binds: what its value is read as, what each of its parts is, or the
    pattern of the texts that contain it. -/
inductive Binds (fields : List Field) : Condition → List Cell → Prop
  | comparison {name value : String} {field : Field} {cell : Cell} (c : Comparison)
      (known : fieldNamed? fields name = some field) (read : field.parse value = .ok cell) :
      Binds fields ⟨name, .comparison c, value⟩ [cell]
  | oneOf {name value : String} {field : Field} {cells : List Cell}
      (known : fieldNamed? fields name = some field)
      (read : List.Forall₂ (fun part cell => field.parse part = .ok cell) (alternatives value)
        cells) :
      Binds fields ⟨name, .oneOf, value⟩ cells
  | like {name value : String} {field : Field} (known : fieldNamed? fields name = some field)
      (text : field.kind = .text) :
      Binds fields ⟨name, .like, value⟩ [.text (containing value)]

/-- The values of a condition of a plan. -/
def Predicate.values : Predicate → List Cell
  | .compare _ _ value => [value]
  | .oneOf _ values => values
  | .like _ pattern => [.text pattern]

theorem Condition.binds_of_plan {condition : Condition} {p : Predicate}
    (planned : condition.plan entity fields = .ok p) : Binds fields condition p.values := by
  obtain ⟨name, op, value⟩ := condition
  obtain ⟨field, looked, planned⟩ := bind_eq_ok.1 planned
  have known := lookupField_eq_ok.1 looked
  cases op with
  | comparison c =>
      obtain ⟨cell, read, planned⟩ := bind_eq_ok.1 planned
      cases planned
      exact .comparison c known read
  | oneOf =>
      obtain ⟨cells, read, planned⟩ := bind_eq_ok.1 planned
      cases planned
      exact .oneOf known (mapM_eq_ok.1 read)
  | like =>
      rw [Field.predicate] at planned
      split at planned
      · next text =>
          cases planned
          exact .like known text
      · cases planned

theorem params_append (first rest : Statement) :
    Statement.params (first ++ rest) = first.params ++ rest.params :=
  List.filterMap_append

theorem params_params (values : List Cell) : (params values).params = values := by
  induction values using params.induct with
  | case1 => rfl
  | case2 value => rfl
  | case3 value values more ih =>
      rw [params]
      · exact congrArg _ ih
      · exact more

theorem params_fragments (p : Predicate) : p.fragments.params = p.values := by
  cases p with
  | compare column comparison value => rfl
  | oneOf column values =>
      rw [Predicate.fragments, params_append, params_append, params_params]
      exact List.append_nil values
  | like column pattern => rfl

/-- The parameters of the conditions are their values, one condition after the other. -/
theorem params_whereClause (predicates : List Predicate) :
    (whereClause predicates).params = (predicates.map Predicate.values).flatten := by
  cases predicates with
  | nil => rfl
  | cons p ps =>
      have behind : Statement.params (ps.flatMap fun q => .code " AND " :: q.fragments) =
          (ps.map Predicate.values).flatten := by
        induction ps with
        | nil => rfl
        | cons q ps ih =>
            rw [List.flatMap_cons, params_append, ih, List.map_cons, List.flatten_cons,
              ← params_fragments q]
            rfl
      rw [List.map_cons, List.flatten_cons, ← params_fragments p, ← behind, ← params_append]
      rfl

theorem params_orderClause (order : Option (String × SortOrder)) :
    (orderClause order).params = [] := by
  cases order <;> rfl

/-- The parameters of a plan's statement are those of its conditions. -/
theorem Plan.params_statement (plan : Plan) (lead : String) :
    (plan.statement lead).params = (plan.predicates.map Predicate.values).flatten := by
  have split : (plan.statement lead).params =
      (whereClause plan.predicates).params ++ (orderClause plan.order).params :=
    params_append (whereClause plan.predicates) (orderClause plan.order)
  rw [split, params_orderClause, List.append_nil, params_whereClause]

/-! ## Shapes -/

/-- What the text of a condition depends on: the field, the operator, and the number of parts of a
    condition on several values. -/
def Condition.shape (condition : Condition) : String × Operator × Nat :=
  (trimmed condition.field, condition.op,
    if condition.op = .oneOf then condition.value.toList.count '|' + 1 else 1)

/-- What the text of a sort depends on. -/
def SortRule.shape (rule : SortRule) : String × SortOrder := (trimmed rule.field, rule.order)

/-- A condition of a plan without its values. -/
def Predicate.blank : Predicate → Predicate
  | .compare column comparison _ => .compare column comparison .null
  | .oneOf column values => .oneOf column (List.replicate values.length .null)
  | .like column _ => .like column ""

theorem length_alternatives (value : String) :
    (alternatives value).length = value.toList.count '|' + 1 := by
  rw [alternatives, List.length_map, length_splitAll]

/-- Conditions of the same shape differ in their values only. -/
theorem Condition.blank_of_plan {condition condition' : Condition} {p p' : Predicate}
    (same : condition.shape = condition'.shape) (planned : condition.plan entity fields = .ok p)
    (planned' : condition'.plan entity fields = .ok p') : p.blank = p'.blank := by
  obtain ⟨name, op, value⟩ := condition
  obtain ⟨name', op', value'⟩ := condition'
  obtain ⟨sameName, sameOp, sameParts⟩ := by
    simpa only [Condition.shape, Prod.mk.injEq] using same
  subst sameOp
  obtain ⟨field, looked, planned⟩ := bind_eq_ok.1 planned
  obtain ⟨field', looked', planned'⟩ := bind_eq_ok.1 planned'
  -- Both mean the same field, as blanks around its name do not matter.
  simp only [sameName] at looked
  obtain rfl : field = field' := Except.ok.inj (looked.symm.trans looked')
  cases op with
  | comparison c =>
      obtain ⟨cell, -, planned⟩ := bind_eq_ok.1 planned
      obtain ⟨cell', -, planned'⟩ := bind_eq_ok.1 planned'
      cases planned
      cases planned'
      rfl
  | oneOf =>
      obtain ⟨cells, read, planned⟩ := bind_eq_ok.1 planned
      obtain ⟨cells', read', planned'⟩ := bind_eq_ok.1 planned'
      cases planned
      cases planned'
      have length : cells.length = cells'.length := by
        rw [← (mapM_eq_ok.1 read).length_eq, ← (mapM_eq_ok.1 read').length_eq,
          length_alternatives, length_alternatives]
        exact sameParts
      rw [Predicate.blank, Predicate.blank, length]
  | like =>
      simp only [Field.predicate] at planned planned'
      split at planned
      · next text =>
          rw [if_pos text] at planned'
          cases planned
          cases planned'
          rfl
      · cases planned

theorem SortRule.eq_of_plan {rule rule' : SortRule} (same : rule.shape = rule'.shape) :
    rule.plan entity fields = rule'.plan entity fields := by
  obtain ⟨sameName, sameOrder⟩ := Prod.mk.inj same
  rw [SortRule.plan, SortRule.plan, sameName, sameOrder]

/-- Two queries of the same shape have plans that differ in their values only. -/
theorem Plan.blank_of_build {filter filter' : Filter} {sort sort' : Option SortRule}
    {plan plan' : Plan} (built : Plan.build entity fields filter sort = .ok plan)
    (built' : Plan.build entity fields filter' sort' = .ok plan')
    (same : filter.map Condition.shape = filter'.map Condition.shape)
    (sameSort : sort.map SortRule.shape = sort'.map SortRule.shape) :
    plan.predicates.map Predicate.blank = plan'.predicates.map Predicate.blank ∧
      plan.order = plan'.order := by
  obtain ⟨planned, sorted⟩ := Plan.build_eq_ok.1 built
  obtain ⟨planned', sorted'⟩ := Plan.build_eq_ok.1 built'
  constructor
  · clear built built' sorted sorted'
    generalize plan.predicates = predicates at planned
    generalize plan'.predicates = predicates' at planned'
    induction planned generalizing filter' predicates' with
    | nil =>
        cases planned' with
        | nil => rfl
        | cons => cases same
    | cons first rest ih =>
        cases planned' with
        | nil => cases same
        | cons first' rest' =>
            obtain ⟨sameFirst, sameRest⟩ := List.cons.inj same
            rw [List.map_cons, List.map_cons, Condition.blank_of_plan sameFirst first first',
              ih sameRest _ rest']
  · have plans : sort.mapM (SortRule.plan entity fields) =
        sort'.mapM (SortRule.plan entity fields) := by
      cases sort with
      | none =>
          cases sort' with
          | none => rfl
          | some rule' => cases sameSort
      | some rule =>
          cases sort' with
          | none => cases sameSort
          | some rule' =>
              exact congrArg (some <$> ·) (SortRule.eq_of_plan (Option.some.inj sameSort))
    exact Except.ok.inj (sorted.symm.trans (plans.trans sorted'))

theorem text_append (first rest : Statement) :
    Statement.text (first ++ rest) = first.text ++ rest.text := by
  induction first with
  | nil => exact (String.empty_append).symm
  | cons f first ih => rw [List.cons_append, text_cons, ih, text_cons, String.append_assoc]

/-- The text of parameters depends on their number only. -/
theorem text_params {values values' : List Cell} (same : values.length = values'.length) :
    (params values).text = (params values').text := by
  induction values using params.induct generalizing values' with
  | case1 =>
      rw [List.length_nil, eq_comm, List.length_eq_zero_iff] at same
      rw [same]
  | case2 value =>
      obtain ⟨value', rfl⟩ := List.length_eq_one_iff.1 same.symm
      rfl
  | case3 value values more ih =>
      cases values' with
      | nil => cases same
      | cons value' values' =>
          have sameRest : values.length = values'.length := Nat.succ.inj same
          have more' : values' = [] → False := fun empty =>
            more (List.length_eq_zero_iff.1 (sameRest.trans (by rw [empty]; rfl)))
          rw [params, params, text_cons, text_cons, text_cons, text_cons, ih sameRest]
          · rfl
          · exact more'
          · exact more

theorem text_fragments_blank (p : Predicate) : p.blank.fragments.text = p.fragments.text := by
  cases p with
  | compare column comparison value => rfl
  | oneOf column values =>
      have places : (params (List.replicate values.length .null)).text = (params values).text :=
        text_params List.length_replicate
      rw [Predicate.blank, Predicate.fragments, Predicate.fragments, text_append, text_append,
        places, ← text_append, ← text_append]
  | like column pattern => rfl

theorem text_whereClause_blank (predicates : List Predicate) :
    (whereClause (predicates.map Predicate.blank)).text = (whereClause predicates).text := by
  cases predicates with
  | nil => rfl
  | cons p ps =>
      have behind : Statement.text ((ps.map Predicate.blank).flatMap fun q =>
          .code " AND " :: q.fragments) =
            Statement.text (ps.flatMap fun q => .code " AND " :: q.fragments) := by
        induction ps with
        | nil => rfl
        | cons q ps ih =>
            rw [List.map_cons, List.flatMap_cons, List.flatMap_cons, text_append, text_append, ih,
              text_cons, text_cons, text_fragments_blank]
      rw [List.map_cons, whereClause, whereClause, text_append, text_append, text_cons, text_cons,
        text_fragments_blank, behind]

/-- The text of a statement does not show the values of its plan. -/
theorem Plan.text_statement_blank (plan : Plan) (lead : String) :
    (Plan.statement ⟨plan.predicates.map Predicate.blank, plan.order⟩ lead).text =
      (plan.statement lead).text := by
  rw [Plan.statement, Plan.statement, text_append, text_append, text_cons, text_cons,
    text_whereClause_blank]

/-- Two queries of the same shape have the same text. -/
theorem Plan.text_statement_congr {filter filter' : Filter} {sort sort' : Option SortRule}
    {plan plan' : Plan} (built : Plan.build entity fields filter sort = .ok plan)
    (built' : Plan.build entity fields filter' sort' = .ok plan')
    (same : filter.map Condition.shape = filter'.map Condition.shape)
    (sameSort : sort.map SortRule.shape = sort'.map SortRule.shape) (lead : String) :
    (plan.statement lead).text = (plan'.statement lead).text := by
  obtain ⟨predicates, order⟩ := Plan.blank_of_build built built' same sameSort
  rw [← plan.text_statement_blank, ← plan'.text_statement_blank, predicates, order]

/-! ## Queries -/

/-- The value of a place stands where the question marks before it say. -/
theorem params_getElem? {statement before after : Statement} {value : Cell}
    (quiet : ∀ f ∈ statement, f.IsQuiet) (there : statement = before ++ .param value :: after) :
    statement.params[before.text.toList.count '?']? = some value := by
  subst there
  have before' : before.text.toList.count '?' = before.params.length :=
    count_text fun f member => quiet f (List.mem_append_left _ member)
  have behind : Statement.params (.param value :: after) = value :: after.params := rfl
  rw [before', params_append, behind, List.getElem?_append_right (Nat.le_refl _), Nat.sub_self,
    List.getElem?_cons_zero]

/-- The parameters of a statement are the values of the conditions, in the order of these. -/
theorem Plan.exists_binds {filter : Filter} {sort : Option SortRule} {plan : Plan}
    (built : Plan.build entity fields filter sort = .ok plan) (lead : String) :
    ∃ bound : List (List Cell), List.Forall₂ (Binds fields) filter bound ∧
      (plan.statement lead).params = bound.flatten := by
  obtain ⟨planned, -⟩ := Plan.build_eq_ok.1 built
  refine ⟨plan.predicates.map Predicate.values, ?_, plan.params_statement lead⟩
  exact List.forall₂_map_right_iff.2 (planned.imp fun _ _ => Condition.binds_of_plan)

/-- A condition on several values has at least one. -/
theorem Plan.oneOf_ne_nil {filter : Filter} {sort : Option SortRule} {plan : Plan}
    (built : Plan.build entity fields filter sort = .ok plan) {column : String}
    {values : List Cell} (member : .oneOf column values ∈ plan.predicates) : values ≠ [] := by
  obtain ⟨condition, -, planned⟩ := Plan.exists_condition built member
  have binds := Condition.binds_of_plan planned
  rintro rfl
  cases binds with
  | oneOf known read =>
      have parts := read.length_eq
      rw [length_alternatives] at parts
      cases parts

end Purse.Query

namespace Purse.Store

open Query

/-- What messages call records of a kind. -/
def Entity.name : Entity → String
  | .wallet => Record.entity Wallet
  | .product => Record.entity Product
  | .entry => Record.entity Entry
  | .group => Record.entity Group

/-- The columns of records of a kind that callers may filter and sort on. -/
def Entity.fields : Entity → List Field
  | .wallet => Record.fields Wallet
  | .product => Record.fields Product
  | .entry => Record.fields Entry
  | .group => Record.fields Group

theorem Entity.notMem_name (entity : Entity) :
    ∀ field ∈ entity.fields, '?' ∉ field.name.toList := by
  cases entity <;> decide

/-- The statement of an accepted query. Behind its start stand fixed texts, columns of the entity
    and places of parameters. There are as many question marks as parameters, each place has the
    value at its number, and the values are those of the conditions in their order, at least one
    for each. Accepted queries of the same shape have the same text. -/
theorem statement_of_build {entity : Entity} {filter : Filter} {sort : Option SortRule}
    {plan : Plan} (built : Plan.build entity.name entity.fields filter sort = .ok plan)
    {lead : String} (fixed : '?' ∉ lead.toList) :
    (∃ clauses : Statement, plan.statement lead = .code lead :: clauses ∧
      ∀ f ∈ clauses, f.Plain entity.fields) ∧
    (plan.statement lead).text.toList.count '?' = (plan.statement lead).params.length ∧
    (∀ before value after, plan.statement lead = before ++ .param value :: after →
      (plan.statement lead).params[(Statement.text before).toList.count '?']? = some value) ∧
    (∃ bound : List (List Cell), List.Forall₂ (Binds entity.fields) filter bound ∧
      (plan.statement lead).params = bound.flatten) ∧
    (∀ column values, .oneOf column values ∈ plan.predicates → values ≠ []) ∧
    ∀ filter' sort' plan', Plan.build entity.name entity.fields filter' sort' = .ok plan' →
      filter.map Condition.shape = filter'.map Condition.shape →
      sort.map SortRule.shape = sort'.map SortRule.shape →
        (plan.statement lead).text = (plan'.statement lead).text := by
  have plain := plain_of_build built
  have quiet : ∀ f ∈ plan.statement lead, f.IsQuiet :=
    List.forall_mem_cons.2 ⟨List.count_eq_zero_of_not_mem fixed, fun f member =>
      (plain f member).isQuiet entity.notMem_name⟩
  refine ⟨⟨_, rfl, plain⟩, count_text quiet, fun _ _ _ => params_getElem? quiet,
    Plan.exists_binds built lead, fun _ _ => Plan.oneOf_ne_nil built, ?_⟩
  intro filter' sort' plan' built' same sameSort
  exact Plan.text_statement_congr built built' same sameSort lead

/-- Quotes, signs and question marks in values leave the text as it is. -/
theorem statement_of_build_quotes :
    let lead := "SELECT * FROM wallets"
    let sort : Option SortRule := some ⟨"balance", .descending⟩
    let harmless : Filter := [⟨"name", .oneOf, "a|b"⟩, ⟨"name", .like, "c"⟩]
    let hostile : Filter := [⟨" name ", .oneOf, "'; --|?"⟩, ⟨"name\t", .like, "%' OR 1=1"⟩]
    ∃ plan plan', Plan.build Entity.wallet.name Entity.wallet.fields harmless sort = .ok plan ∧
      Plan.build Entity.wallet.name Entity.wallet.fields hostile sort = .ok plan' ∧
      (plan.statement lead).text = (plan'.statement lead).text ∧
      (plan'.statement lead).text.toList.count '?' = (plan'.statement lead).params.length := by
  intro lead sort harmless hostile
  have built : Plan.build Entity.wallet.name Entity.wallet.fields harmless sort = .ok
      ⟨[.oneOf "name" [.text "a", .text "b"], .like "name" "%c%"],
        some ("balance", .descending)⟩ := by
    decide +kernel
  have built' : Plan.build Entity.wallet.name Entity.wallet.fields hostile sort = .ok
      ⟨[.oneOf "name" [.text "'; --", .text "?"], .like "name" "%\\%' OR 1=1%"],
        some ("balance", .descending)⟩ := by
    decide +kernel
  have fixed : '?' ∉ lead.toList := by decide
  have same : harmless.map Condition.shape = hostile.map Condition.shape := by decide +kernel
  obtain ⟨-, -, -, -, -, congr⟩ := statement_of_build built fixed
  obtain ⟨-, count, -⟩ := statement_of_build built' fixed
  exact ⟨_, _, built, built', congr hostile sort _ built' same rfl, count⟩

end Purse.Store
