/-
  Purse.Proofs.Query.Routes

  Where a route can go.  However costs are estimated, the route that is taken goes along the rows or
  along an index of use to the statement: one with the column to sort by, one that covers all
  columns, or one with a condition on its first column (`Survey.permits_route`).  Rows that agree
  in all columns of an index but the last come along it in the order of that column, and as they
  are stored where they agree in it too (`Index.arrange_of_agree`).  When every index of use is of
  this kind, a plan that sorts by the last column leaves equal rows as they are stored, whichever
  route is taken (`Plan.select_of_agree`).
-/
import Purse.Proofs.Query.Sorting

namespace Purse.Query

/-! ## Routes of a survey -/

/-- Where nothing narrows the first column, no stretch is picked. -/
theorem exists_term_of_mem_stretches {index : Index} {terms : List Term} {columns : List String}
    {stretch picked : Stretch} (h : picked ∈ stretches index terms columns stretch) :
    ∃ term ∈ terms, columns.head? = some term.column := by
  cases columns with
  | nil => cases h
  | cons column rest =>
      obtain ⟨term, here, -⟩ := List.mem_flatMap.1 h
      obtain ⟨member, own⟩ := List.mem_filter.1 here
      exact ⟨term, member, congrArg some (of_decide_eq_true own).symm⟩

theorem distinctTerms_subset (terms : List Term) : distinctTerms terms ⊆ terms := by
  unfold distinctTerms
  refine List.foldlRecOn (motive := (· ⊆ terms)) terms _ (List.nil_subset _)
    fun kept inside term member => ?_
  split
  · exact inside
  · exact List.append_subset.2 ⟨inside, List.cons_subset.2 ⟨member, List.nil_subset _⟩⟩

namespace Survey

variable {survey : Survey} {index : Index} {route : Route}

/-- True for an index that can be of use: with the column to sort by, or with all columns that the
    statement reads, or with a condition on its first column. -/
def isOfUse (survey : Survey) (index : Index) : Bool :=
  survey.mightSort index || survey.covers index ||
    index.columns.head?.all fun column => survey.terms.any (·.column = column)

/-- True of the way along the rows, and of an index of the table that can be of use. -/
def Permits (survey : Survey) (index? : Option Index) : Prop :=
  ∀ index ∈ index?, index ∈ survey.layout.indexes ∧ survey.isOfUse index = true

theorem permits_none : survey.Permits none := nofun

theorem permits_some (listed : index ∈ survey.layout.indexes)
    (useful : survey.isOfUse index = true) : survey.Permits (some index) := by
  rintro _ ⟨⟩
  exact ⟨listed, useful⟩

theorem isOfUse_of_mem_whole {family : Nat} (h : route ∈ survey.whole index family) :
    route.index = some index ∧ survey.isOfUse index = true := by
  unfold whole at h
  dsimp only at h
  split at h
  · next useful =>
      cases List.mem_singleton.1 h
      refine ⟨rfl, ?_⟩
      rcases Bool.or_eq_true_iff.1 useful with sorts | covers
      · simp only [isOfUse, sorts, Bool.true_or]
      · simp only [isOfUse, (Bool.and_eq_true_iff.1 covers).1, Bool.or_true, Bool.true_or]
  · cases h

theorem isOfUse_of_head {term : Term} (member : term ∈ survey.terms)
    (first : index.columns.head? = some term.column) : survey.isOfUse index = true := by
  have narrows : survey.terms.any (·.column = term.column) = true :=
    List.any_eq_true.2 ⟨term, member, decide_eq_true rfl⟩
  simp only [isOfUse, first, Option.all_some, narrows, Bool.or_true]

theorem permits_of_mem_routes (h : route ∈ survey.routes) : survey.Permits route.index := by
  rcases List.mem_cons.1 h with rfl | h
  · exact permits_none
  · obtain ⟨⟨index, place⟩, placed, h⟩ := List.mem_flatMap.1 h
    have listed := List.fst_mem_of_mem_zipIdx placed
    rcases List.mem_append.1 h with h | h
    · obtain ⟨along, useful⟩ := isOfUse_of_mem_whole h
      exact along ▸ permits_some listed useful
    · obtain ⟨stretch, picked, rfl⟩ := List.mem_map.1 h
      obtain ⟨term, kept, first⟩ := exists_term_of_mem_stretches picked
      exact permits_some listed (isOfUse_of_head (distinctTerms_subset _ kept) first)

end Survey

/-! ## The choice -/

namespace Route

theorem index_align (route other : Route) : (route.align other).index = route.index := by
  unfold align
  split
  · rfl
  · split
    · rfl
    · split <;> rfl

theorem index_foldl_align (routes : List Route) (route : Route) :
    (routes.foldl align route).index = route.index := by
  induction routes generalizing route with
  | nil => rfl
  | cons other routes ih => rw [List.foldl_cons, ih, index_align]

/-- Among the good routes a new one goes where it went before. -/
theorem index_of_mem_insert {routes : List Route} {route good : Route}
    (h : good ∈ insert routes route) : good ∈ routes ∨ good.index = route.index := by
  unfold insert at h
  have aligned := index_foldl_align routes route
  generalize routes.foldl align route = new at h aligned
  dsimp only at h
  generalize early : routes.takeWhile _ = before at h
  have kept : before ⊆ routes := early ▸ List.takeWhile_subset _
  split at h
  · rcases List.mem_append.1 h with old | here
    · exact .inl (kept old)
    · exact .inr (List.mem_singleton.1 here ▸ aligned)
  · next old after later =>
      have keptToo : after ⊆ routes := fun r member =>
        List.mem_of_mem_drop (later ▸ List.mem_cons_of_mem old member)
      split at h
      · exact .inl h
      · rcases List.mem_append.1 h with first | rest
        · exact .inl (kept first)
        · rcases List.mem_cons.1 rest with here | last
          · exact .inr (here ▸ aligned)
          · exact .inl (keptToo (List.mem_of_mem_filter last))

/-- The best one of some routes is one of them. -/
theorem best_mem (cost : Route → Int) (first : Route) (others : List Route) :
    best cost first others ∈ first :: others := by
  induction others generalizing first with
  | nil => exact List.mem_singleton_self first
  | cons other others ih =>
      rw [best]
      split
      · exact List.mem_cons_of_mem first (ih other)
      · exact List.cons_subset_cons first (List.subset_cons_self other others) (ih first)

theorem sorts?_ascending (route : Route) (column : String) (several : Bool) :
    route.sorts? column .ascending several ≠ some true := by
  unfold sorts?
  dsimp only
  cases route.index with
  | none => nofun
  | some index =>
      rw [Option.bind_some]
      split <;> simp

end Route

namespace Survey

variable {survey : Survey} {route : Route}

theorem permits_of_mem_improvised (h : route ∈ survey.improvised) :
    survey.Permits route.index := by
  unfold improvised at h
  split at h
  · exact List.mem_singleton.1 h ▸ permits_none
  · cases h

theorem permits_of_mem_candidates (h : route ∈ survey.candidates) :
    survey.Permits route.index := by
  -- Each route that comes in goes where it went as one of the survey.
  refine List.foldlRecOn (motive := fun good => ∀ r ∈ good, survey.Permits r.index) survey.routes _
    (fun _ => permits_of_mem_improvised) (fun good permitted made member r inserted => ?_) route h
  rcases Route.index_of_mem_insert inserted with old | same
  · exact permitted r old
  · have along : r.index = made.index := same
    exact along ▸ permits_of_mem_routes member

theorem permits_of_single (h : survey.single? = some route) : survey.Permits route.index := by
  obtain ⟨index, listed, found⟩ := List.exists_of_findSome?_eq_some h
  obtain ⟨-, -, rest⟩ := Option.bind_eq_some_iff.1 found
  obtain ⟨terms, named, made⟩ := Option.bind_eq_some_iff.1 rest
  obtain rfl := Option.some.inj made
  refine permits_some listed ?_
  cases columns : index.columns with
  | nil => simp [isOfUse, columns]
  | cons column rest =>
      simp only [columns, List.mapM_cons, Option.bind_eq_bind, Option.bind_eq_some_iff] at named
      obtain ⟨term, found, -⟩ := named
      have fixes := List.find?_some found
      rw [Bool.and_eq_true_iff] at fixes
      refine isOfUse_of_head (List.mem_of_find?_eq_some found) ?_
      rw [columns, List.head?_cons, of_decide_eq_true fixes.1]

/-- However costs are estimated, the route that is taken goes along the rows or along an index that
    can be of use. -/
theorem permits_route (survey : Survey) : survey.Permits survey.route.index := by
  unfold route
  split
  · next single found => exact permits_of_single found
  · rcases List.mem_cons.1 (Route.best_mem _ _ survey.candidates) with first | good
    · rw [first]
      cases candidates : survey.candidates with
      | nil => exact permits_none
      | cons best others =>
          exact permits_of_mem_candidates (candidates.symm ▸ List.mem_cons_self (a := best))
    · exact permits_of_mem_candidates good

/-- No route is gone backwards for an ascending order. -/
theorem isBackwards_of_ascending {column : String}
    (sorted : survey.order = some (column, .ascending)) (route : Route) :
    survey.isBackwards route = false := by
  have forwards (several : Bool) : survey.sorts? route several ≠ some true := by
    simp only [sorts?, sorted]
    split
    · nofun
    · exact route.sorts?_ascending column several
  unfold isBackwards
  cases first : survey.sorts? route false with
  | some back =>
      exact Bool.eq_false_iff.2 fun gone => forwards false (first.trans (congrArg some gone))
  | none =>
      cases second : survey.sorts? route true with
      | some back =>
          exact Bool.eq_false_iff.2 fun gone => forwards true (second.trans (congrArg some gone))
      | none => rfl

end Survey

/-! ## Rows along an index -/

/-- Lists that agree before their last cells, which are texts, are compared by these. -/
theorem cellsLe_append_text (cells : List Cell) (a b : String) :
    cellsLe (cells ++ [.text a]) (cells ++ [.text b]) = Cell.le (.text a) (.text b) := by
  induction cells with
  | nil =>
      change (decide (a < b) || (decide (Cell.text a = .text b) && true)) = !decide (b < a)
      simp only [Cell.text.injEq, Bool.and_true, ← Bool.decide_or, ← decide_not, not_lt,
        le_iff_lt_or_eq]
  | cons cell cells ih =>
      have same : Cell.lt cell cell = false :=
        Bool.eq_false_iff.2 fun less => lt_irrefl _ ((Cell.lt_iff_place _ _).1 less)
      simp only [List.cons_append, cellsLe, same, decide_true, Bool.true_and, Bool.false_or, ih]

/-- Two orders that agree on the members of a list sort it alike. -/
theorem mergeSort_congr {as : List α} {le le' : α → α → Bool}
    (same : ∀ a ∈ as, ∀ b ∈ as, le a b = le' a b) : as.mergeSort le = as.mergeSort le' := by
  have mapped := List.map_mergeSort (f := id) same
  rwa [List.map_id, List.map_id] at mapped

/-- Rows as an index has them that differ in its last column only, where they have texts. -/
structure Index.AgreesUpTo (index : Index) (view : ρ → RowView) (column : String) (rows : List ρ) :
    Prop where
  columns : ∃ before, index.columns = before ++ [column] ∧
    ∀ a ∈ rows, ∀ b ∈ rows, ∀ c ∈ before, view a c = view b c
  texts : ∀ a ∈ rows, ∃ s, view a column = .text s

/-- Along an index in whose first columns they agree, rows come in the order of the last one, and
    equal rows as they are stored. -/
theorem Index.arrange_of_agree {index : Index} {view : ρ → RowView} {column : String}
    {rows : List ρ} (h : index.AgreesUpTo view column rows) :
    index.arrange view rows =
      rows.mergeSort fun a b => SortOrder.ascending.admits (view a column) (view b column) := by
  obtain ⟨before, columns, agree⟩ := h.columns
  refine mergeSort_congr fun a ha b hb => ?_
  obtain ⟨s, textA⟩ := h.texts a ha
  obtain ⟨t, textB⟩ := h.texts b hb
  rw [columns, List.map_append, List.map_append, List.map_congr_left (agree a ha b hb),
    List.map_singleton, List.map_singleton, textA, textB]
  exact cellsLe_append_text _ s t

/-- When the rows that are accepted agree up to the column to sort by in every index that can be of
    use, equal ones are left as they are stored, on whatever route they come. -/
theorem Plan.select_of_agree {plan : Plan} {column : String}
    (sorted : plan.order = some (column, .ascending)) {layout : Layout} {view : ρ → RowView}
    {rows : List ρ}
    (indexes : ∀ index ∈ layout.indexes, (plan.survey layout .all).isOfUse index = true →
      index.AgreesUpTo view column (rows.filter fun row => plan.accepts (view row))) :
    plan.select layout .all view rows =
      (rows.filter fun row => plan.accepts (view row)).mergeSort fun a b =>
        SortOrder.ascending.admits (view a column) (view b column) := by
  rw [Plan.select, Plan.arrange, sorted]
  generalize rows.filter (fun row => plan.accepts (view row)) = found at indexes ⊢
  let le (a b : ρ) : Bool := SortOrder.ascending.admits (view a column) (view b column)
  have visited : plan.visit layout .all view found = found ∨
      plan.visit layout .all view found = found.mergeSort le := by
    have order : (plan.survey layout .all).order = some (column, .ascending) := sorted
    have permits := (plan.survey layout .all).permits_route
    unfold Plan.visit
    dsimp only
    rw [Survey.isBackwards_of_ascending order]
    cases along : (plan.survey layout .all).route.index with
    | none => exact .inl rfl
    | some index =>
        obtain ⟨listed, useful⟩ := permits index along
        exact .inr (Index.arrange_of_agree (indexes index listed useful))
  rcases visited with same | arranged
  · exact congrArg (List.mergeSort · le) same
  -- What is in order is not sorted again.
  · refine (congrArg (List.mergeSort · le) arranged).trans (List.mergeSort_of_pairwise ?_)
    exact List.pairwise_mergeSort
      (fun a b c =>
        SortOrder.ascending.admits_trans (view a column) (view b column) (view c column))
      (fun a b => SortOrder.ascending.admits_total (view a column) (view b column)) _

end Purse.Query
