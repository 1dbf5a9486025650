/-
  Purse.Proofs.Query.Filters

  Filters that are read back from their texts.  A condition ends with a colon and the word of its
  operator, so whatever the value is, the operator is found behind the last colon, and a filter is
  read back condition by condition (`Filter.parse_text`).  Without an operator the part behind the
  last colon decides (`Condition.parse_cut`): an operator is taken for one, a word of letters is
  refused, and anything else belongs to the value.  The texts of instants are never taken apart,
  because their last part holds a digit (`Operator.parse_ne_ok_of_digit`).
-/
import Purse.Proofs.Attempts
import Purse.Proofs.Codec.Endings
import Purse.Query.Condition

namespace Purse.Query

open Text

variable {field segment : String}

/-! ## Texts of filters -/

/-- The text of a condition: its field, its value and its operator. -/
def Condition.text (c : Condition) : String := c.field ++ ":" ++ c.value ++ ":" ++ c.op.word

/-- The text of a filter: its conditions between commas. -/
def Filter.text (filter : Filter) : String := ",".intercalate (filter.map Condition.text)

/-- A text that can stand for a field. -/
structure IsFieldName (field : String) : Prop where
  filled : field ≠ ""
  tidy : trimmed field = field
  noColon : ':' ∉ field.toList
  noComma : ',' ∉ field.toList

namespace IsFieldName

theorem trim_toList (name : IsFieldName field) : trim field.toList = field.toList := by
  rw [← toList_trimmed, name.tidy]

theorem toList_ne_nil (name : IsFieldName field) : field.toList ≠ [] :=
  fun empty => name.filled (String.toList_eq_nil_iff.1 empty)

end IsFieldName

/-- A text that is one word of letters, so that it must be meant as an operator. -/
def IsWord (segment : String) : Prop :=
  trimmed segment ≠ "" ∧ ∀ c ∈ (trimmed segment).toList, c.isAlpha = true

/-! ## Operators -/

/-- What the words of the operators have in common: they are read as themselves, have no blanks
    around them, and hold neither colons nor commas. -/
structure IsOperatorWord (op : Operator) : Prop where
  parses : Operator.parse op.word = .ok op
  tidy : trim op.word.toList = op.word.toList
  filled : op.word.toList ≠ []
  noColon : ':' ∉ op.word.toList
  noComma : ',' ∉ op.word.toList

theorem Operator.isOperatorWord (op : Operator) : IsOperatorWord op := by
  rcases op with (_ | _ | _ | _ | _) | _ | _ <;> constructor <;> decide

theorem Operator.parse_eq_ok {op : Operator} :
    Operator.parse segment = .ok op ↔ Operator.ofWord? (lookupWord segment) = some op := by
  unfold Operator.parse
  split
  · next found => rw [found, Except.ok.injEq, Option.some.injEq]
  · next none => simp [none]

/-- The reason why a text is no operator shows it as it was looked up. -/
theorem Operator.parse_eq_error (none : ∀ op, Operator.parse segment ≠ .ok op) :
    Operator.parse segment = .error (.unknownOperator (lookupWord segment)) := by
  unfold Operator.parse at none ⊢
  split
  · next op found =>
      rw [found] at none
      exact absurd rfl (none op)
  · rfl

theorem isLetter_eq_isAlpha (c : Char) : isLetter c = c.isAlpha := by
  have upper : c.isUpper = (decide ('A' ≤ c) && decide (c ≤ 'Z')) := Bool.decide_and ..
  rw [isLetter, ← upper]
  exact Bool.or_comm ..

theorem looksLikeOperator_iff : looksLikeOperator segment.toList = true ↔ IsWord segment := by
  simp only [looksLikeOperator, IsWord, Bool.and_eq_true, Bool.not_eq_true',
    List.isEmpty_eq_false_iff, List.all_eq_true, isLetter_eq_isAlpha, toList_trimmed, ne_eq,
    trimmed_eq_empty]

/-! ## Digits -/

/-- Digits have no other case. -/
theorem mem_lowerAfter_of_isDigit {d : Char} (digit : isDigit d = true) (before : List Char)
    {cs : List Char} (h : d ∈ cs) : d ∈ lowerAfter before cs := by
  have same : lowerChar d = [d] :=
    forall_of_isDigit (p := fun c => lowerChar c = [c]) (by decide) d digit
  induction cs generalizing before with
  | nil => cases h
  | cons c rest ih =>
      rw [lowerAfter]
      rcases List.mem_cons.1 h with rfl | h
      · have other : d ≠ 'Σ' := by
          rintro rfl
          cases digit
        rw [if_neg other, same]
        exact List.mem_append_left _ List.mem_cons_self
      · exact List.mem_append_right _ (ih (c :: before) h)

theorem isDigit_of_ofWord? {word : String} {op : Operator} (h : Operator.ofWord? word = some op) :
    ∀ c ∈ word.toList, isDigit c = false := by
  unfold Operator.ofWord? at h
  split at h <;> cases h <;> simp [isDigit]

/-- A text with a digit is neither an operator nor one word of letters. -/
theorem Operator.parse_ne_ok_of_digit {d : Char} (digit : isDigit d = true)
    (h : d ∈ segment.toList) (op : Operator) : Operator.parse segment ≠ .ok op := by
  intro parsed
  have kept : d ∈ trim segment.toList := mem_trim (isBlank_of_isDigit digit) h
  have lowered : d ∈ (lookupWord segment).toList := by
    rw [lookupWord, lower, String.toList_ofList, toList_trimmed]
    exact mem_lowerAfter_of_isDigit digit [] kept
  have none := isDigit_of_ofWord? (Operator.parse_eq_ok.1 parsed) d lowered
  rw [digit] at none
  cases none

theorem not_isWord_of_digit {d : Char} (digit : isDigit d = true) (h : d ∈ segment.toList) :
    ¬ IsWord segment := by
  rintro ⟨-, letters⟩
  have kept : d ∈ trim segment.toList := mem_trim (isBlank_of_isDigit digit) h
  rw [toList_trimmed] at letters
  have other : d.isAlpha = false :=
    forall_of_isDigit (p := fun c => c.isAlpha = false) (by decide) d digit
  rw [letters d kept] at other
  cases other

/-! ## Conditions -/

theorem toList_cut (front back : String) :
    (front ++ ":" ++ back).toList = front.toList ++ ':' :: back.toList := by
  rw [String.toList_append, String.toList_append, List.append_assoc]
  rfl

/-- A text with a colon has a last one. -/
theorem exists_cut {value : String} (colon : ':' ∈ value.toList) :
    ∃ front segment, value = front ++ ":" ++ segment ∧ ':' ∉ segment.toList := by
  cases cut : splitLast ':' value.toList with
  | none => exact absurd colon (splitLast_eq_none.1 cut)
  | some parts =>
      obtain ⟨whole, last⟩ := splitLast_some cut
      refine ⟨String.ofList parts.1, String.ofList parts.2, ?_, by rwa [String.toList_ofList]⟩
      rw [← String.toList_inj, toList_cut, String.toList_ofList, String.toList_ofList, whole]

/-- What stands behind the colon of a field is read on its own. -/
theorem Condition.parse_append (name : IsFieldName field) (rest : String) :
    Condition.parse (field ++ ":" ++ rest) =
      (parseValueAndOperator rest.toList).map fun part => ⟨field, part.2, part.1⟩ := by
  rw [Condition.parse, toList_cut, splitFirst_append name.noColon]
  dsimp only
  rw [name.trim_toList, if_neg name.toList_ne_nil, String.ofList_toList]
  cases parseValueAndOperator rest.toList <;> rfl

/-- A value without a colon is the whole value. -/
theorem Condition.parse_plain (name : IsFieldName field) {value : String}
    (plain : ':' ∉ value.toList) :
    Condition.parse (field ++ ":" ++ value) = .ok (equals field value) := by
  rw [Condition.parse_append name, parseValueAndOperator, splitLast_eq_none.2 plain,
    String.ofList_toList]
  rfl

/-- What is behind the last colon decides how a value with colons is read. -/
theorem Condition.parse_cut (name : IsFieldName field) (front : String)
    (last : ':' ∉ segment.toList) :
    Condition.parse (field ++ ":" ++ (front ++ ":" ++ segment)) =
      match Operator.parse segment with
      | .ok op => .ok ⟨field, op, front⟩
      | .error error =>
          if looksLikeOperator segment.toList then .error error
          else .ok (equals field (front ++ ":" ++ segment)) := by
  rw [Condition.parse_append name, parseValueAndOperator, toList_cut, splitLast_append last,
    ← toList_cut]
  simp only [String.ofList_toList]
  cases Operator.parse segment with
  | ok op => rfl
  | error error =>
      dsimp only
      split <;> rfl

theorem Condition.parse_value (name : IsFieldName field) (front : String)
    (last : ':' ∉ segment.toList) (none : ∀ op, Operator.parse segment ≠ .ok op)
    (noWord : ¬ IsWord segment) :
    Condition.parse (field ++ ":" ++ (front ++ ":" ++ segment)) =
      .ok (equals field (front ++ ":" ++ segment)) := by
  rw [Condition.parse_cut name front last, Operator.parse_eq_error none]
  exact if_neg (mt looksLikeOperator_iff.1 noWord)

theorem Condition.parse_word (name : IsFieldName field) (front : String)
    (last : ':' ∉ segment.toList) (none : ∀ op, Operator.parse segment ≠ .ok op)
    (word : IsWord segment) :
    Condition.parse (field ++ ":" ++ (front ++ ":" ++ segment)) =
      .error (.unknownOperator (lookupWord segment)) := by
  rw [Condition.parse_cut name front last, Operator.parse_eq_error none]
  exact if_pos (looksLikeOperator_iff.2 word)

/-- The text of an instant is a value as it stands. -/
theorem Condition.parse_instant (name : IsFieldName field) {value : String}
    (instant : (Instant.parse? value).isSome) :
    Condition.parse (field ++ ":" ++ value) = .ok (equals field value) := by
  obtain ⟨t, read⟩ := Option.isSome_iff_exists.1 instant
  by_cases colon : ':' ∈ value.toList
  · obtain ⟨front, segment, rfl, last⟩ := exists_cut colon
    obtain ⟨d, member, digit⟩ := (Instant.endsInDigit_of_parse? read).exists_mem (toList_cut ..)
    exact Condition.parse_value name front last (Operator.parse_ne_ok_of_digit digit member)
      (not_isWord_of_digit digit member)
  · exact Condition.parse_plain name colon

/-! ## Filters -/

theorem Condition.parse_text {c : Condition} (name : IsFieldName c.field) :
    Condition.parse c.text = .ok c := by
  have op := c.op.isOperatorWord
  have whole : c.text = c.field ++ ":" ++ (c.value ++ ":" ++ c.op.word) := by
    simp only [Condition.text, String.append_assoc]
  rw [whole, Condition.parse_cut name c.value op.noColon, op.parses]

/-- A text that starts with a field and ends with an operator has no blanks at its ends. -/
theorem Condition.trim_text {c : Condition} (name : IsFieldName c.field) :
    trim c.text.toList = c.text.toList := by
  have op := c.op.isOperatorWord
  simp only [Condition.text, String.append_assoc, String.toList_append]
  rw [← List.append_assoc ":".toList, ← List.append_assoc (":".toList ++ c.value.toList)]
  exact trim_append name.trim_toList op.tidy name.toList_ne_nil op.filled _

theorem Condition.toList_text_ne_nil {c : Condition} (name : IsFieldName c.field) :
    c.text.toList ≠ [] := by
  rw [Condition.text, String.append_assoc, String.append_assoc, String.append_assoc,
    String.toList_append]
  exact List.append_ne_nil_of_left_ne_nil name.toList_ne_nil _

theorem Condition.noComma_text {c : Condition} (name : IsFieldName c.field)
    (plain : ',' ∉ c.value.toList) : ',' ∉ c.text.toList := by
  have op := c.op.isOperatorWord
  simp only [Condition.text, String.toList_append, List.mem_append, not_or]
  exact ⟨⟨⟨⟨name.noComma, by decide⟩, plain⟩, by decide⟩, op.noComma⟩

theorem conditionTexts_text {filter : Filter}
    (names : ∀ c ∈ filter, IsFieldName c.field) (plain : ∀ c ∈ filter, ',' ∉ c.value.toList) :
    conditionTexts (Filter.text filter) = filter.map Condition.text := by
  by_cases none : filter = []
  · subst none
    rfl
  have parts : splitAll ',' (Filter.text filter).toList =
      filter.map fun c => c.text.toList := by
    have commas : ∀ cs ∈ filter.map fun c => c.text.toList, ',' ∉ cs := by
      intro cs part
      obtain ⟨c, member, rfl⟩ := List.mem_map.1 part
      exact Condition.noComma_text (names c member) (plain c member)
    rw [Filter.text, String.toList_intercalate, List.map_map, splitAll_eq_splitOn]
    exact List.splitOn_intercalate ',' commas (by simpa using none)
  have tidy : (filter.map fun c => c.text.toList).map trim = filter.map fun c => c.text.toList := by
    rw [List.map_map]
    exact List.map_congr_left fun c member => Condition.trim_text (names c member)
  have filled : ((filter.map fun c => c.text.toList).filter (· ≠ [])) =
      filter.map fun c => c.text.toList := by
    refine List.filter_eq_self.2 fun cs part => ?_
    obtain ⟨c, member, rfl⟩ := List.mem_map.1 part
    exact decide_eq_true (Condition.toList_text_ne_nil (names c member))
  rw [conditionTexts, parts, tidy, filled, List.map_map]
  exact List.map_congr_left fun c _ => String.ofList_toList

theorem Filter.parse_text {filter : Filter}
    (names : ∀ c ∈ filter, IsFieldName c.field) (plain : ∀ c ∈ filter, ',' ∉ c.value.toList) :
    Filter.parse (Filter.text filter) = .ok filter := by
  rw [Filter.parse, conditionTexts_text names plain, mapM_eq_ok, List.forall₂_map_left_iff,
    List.forall₂_same]
  exact fun c member => Condition.parse_text (names c member)

/-- What is written as a filter is read back, whatever its values are, and a text without an
    operator is a value unless what is behind its last colon is an operator, or a word that must
    have been meant as one. -/
theorem conditions_of_text :
    (∀ filter : Filter, (∀ c ∈ filter, IsFieldName c.field ∧ ',' ∉ c.value.toList) →
      Filter.parse (Filter.text filter) = .ok filter) ∧
    ∀ field value : String, IsFieldName field →
      (':' ∉ value.toList → Condition.parse (field ++ ":" ++ value) = .ok (equals field value)) ∧
      (∀ front segment : String, value = front ++ ":" ++ segment → ':' ∉ segment.toList →
        (∀ op, Operator.parse segment = .ok op →
          Condition.parse (field ++ ":" ++ value) = .ok ⟨field, op, front⟩) ∧
        ((∀ op, Operator.parse segment ≠ .ok op) →
          (¬ IsWord segment →
            Condition.parse (field ++ ":" ++ value) = .ok (equals field value)) ∧
          (IsWord segment →
            Condition.parse (field ++ ":" ++ value) =
              .error (.unknownOperator (lookupWord segment))))) ∧
      ((Instant.parse? value).isSome →
        Condition.parse (field ++ ":" ++ value) = .ok (equals field value)) := by
  refine ⟨fun filter fits => ?_, fun field value name => ⟨?_, ?_, ?_⟩⟩
  · exact Filter.parse_text (fun c member => (fits c member).1) fun c member => (fits c member).2
  · exact Condition.parse_plain name
  · rintro front segment rfl last
    refine ⟨fun op parsed => ?_, fun none => ⟨?_, ?_⟩⟩
    · rw [Condition.parse_cut name front last, parsed]
    · exact Condition.parse_value name front last none
    · exact Condition.parse_word name front last none
  · exact Condition.parse_instant name

/-- A filter on a time and on a value that ends like an operator is read back, an instant with an
    offset is one value, and a misspelt operator is refused. -/
theorem conditions_of_text_of_window :
    Filter.parse "created_at:2024-01-02T03:04:05Z:gte,name: a:eq :like" =
      .ok [⟨"created_at", .comparison .gte, "2024-01-02T03:04:05Z"⟩, ⟨"name", .like, " a:eq "⟩] ∧
    Condition.parse "created_at:2024-01-02T03:04:05+01:00" =
      .ok (equals "created_at" "2024-01-02T03:04:05+01:00") ∧
    Condition.parse "name:tea:equals" = .error (.unknownOperator "equals") := by
  obtain ⟨filters, conditions⟩ := conditions_of_text
  have time : IsFieldName "created_at" := by constructor <;> decide
  have name : IsFieldName "name" := by constructor <;> decide
  refine ⟨?_, ?_, ?_⟩
  · refine filters
      [⟨"created_at", .comparison .gte, "2024-01-02T03:04:05Z"⟩, ⟨"name", .like, " a:eq "⟩] ?_
    intro c member
    rcases List.mem_cons.1 member with rfl | member
    · exact ⟨time, by decide⟩
    · rw [List.mem_singleton.1 member]
      exact ⟨name, by decide⟩
  · exact (conditions "created_at" "2024-01-02T03:04:05+01:00" time).2.2 (by decide)
  · have none : ∀ op, Operator.parse "equals" ≠ .ok op := by
      rintro ((_ | _ | _ | _ | _) | _ | _) <;> decide
    have word : IsWord "equals" := ⟨by decide, List.all_eq_true.1 (by decide)⟩
    exact (((conditions "name" "tea:equals" name).2.1 "tea" "equals" rfl (by decide)).2 none).2 word

end Purse.Query
