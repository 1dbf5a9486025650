/-
  Purse.Query.Route

  How a statement goes through a table: along the rows as they came, or along an index, of which
  it may need only a stretch that some conditions pick.  Of all routes the one with the least
  estimated cost is taken.  A route along an index brings the rows in the order of the index,
  forwards or backwards; if that is the order asked for, nothing has to be sorted.

  The route decides in which order rows come that the sort of a plan leaves open, and in which
  order the conditions of a plan are tried.
-/
import Purse.Query.Index
import Purse.Query.Plan

namespace Purse.Query

/-! ## Conditions -/

/-- How a condition narrows its column. -/
inductive Form where
  | equal
  | among (count : Nat)
  | above
  | below
  | other
  deriving DecidableEq, Repr

/-- The column of a condition. -/
def Predicate.column : Predicate → String
  | .compare column .. | .oneOf column _ | .like column _ => column

/-- The form of a condition. -/
def Predicate.form : Predicate → Form
  | .compare _ .eq _ => .equal
  | .compare _ .lt _ | .compare _ .lte _ => .below
  | .compare _ .gt _ | .compare _ .gte _ => .above
  | .oneOf _ [_] => .equal
  | .oneOf _ values => .among values.length
  | .like .. => .other

/-- The equality that fixes a column: the last one on it. -/
def fixing? (predicates : List Predicate) (column : String) : Option (Predicate × Nat) :=
  predicates.zipIdx.reverse.find? fun (p, _) => p.column = column && p.form = .equal

/-- A condition at its place. -/
structure Term where
  predicate : Predicate
  place : Nat
  /-- Another condition fixes the column. -/
  settled : Bool
  deriving DecidableEq, Repr

/-- The column of a term. -/
def Term.column (term : Term) : String := term.predicate.column

/-- The form of a term. -/
def Term.form (term : Term) : Form := term.predicate.form

/-- Conditions at their places. -/
def termsOf (predicates : List Predicate) : List Term :=
  predicates.zipIdx.map fun (p, place) =>
    ⟨p, place, ((fixing? predicates p.column).map fun last => last.2 != place).getD false⟩

/-- True for two terms that narrow the same column in the same way, to one value or by a bound. -/
def Term.isLike (a b : Term) : Bool :=
  a.column = b.column && a.settled = b.settled && a.form = b.form &&
    match a.form with
    | .among _ => false
    | _ => true

/-- The first one of terms that are alike; the other ones pick no better stretch. -/
def distinctTerms (terms : List Term) : List Term :=
  terms.foldl (fun kept term => if kept.any term.isLike then kept else kept ++ [term]) []

/-! ## Stretches of an index -/

/-- A stretch of an index. -/
structure Stretch where
  /-- The conditions that pick it. -/
  terms : List Term
  /-- The number of columns for which a value, or one of several, is given. -/
  fixed : Nat
  /-- The number of rows, for one choice of the values. -/
  rows : Int
  /-- The number of choices. -/
  choices : Int

/-- All of an index. -/
def Stretch.whole : Stretch := ⟨[], 0, assumedRows, 0⟩

/-- The stretch with values for one more column. -/
def Stretch.fix (stretch : Stretch) (index : Index) (term : Term) (choices : Int) : Stretch where
  terms := stretch.terms ++ [term]
  fixed := stretch.fixed + 1
  rows := stretch.rows + index.alike (stretch.fixed + 1) - index.alike stretch.fixed
  choices := stretch.choices + choices

/-- The stretch with one or two bounds for one more column. A bound leaves a quarter, two leave a
    sixty-fourth. -/
def Stretch.bound (stretch : Stretch) (bounds : List Term) : Stretch :=
  let left := stretch.rows - if bounds.length = 1 then 20 else 60
  { stretch with
    terms := stretch.terms ++ bounds
    rows := min (stretch.rows - bounds.length) (max 10 left) }

/-- The stretches of an index that terms pick, with values or bounds for some of the given columns
    on top of a stretch. -/
def stretches (index : Index) (terms : List Term) : List String → Stretch → List Stretch
  | [], _ => []
  | column :: rest, stretch =>
      let here := terms.filter (·.column = column)
      here.flatMap fun term =>
        match term.form with
        | .equal =>
            let next := stretch.fix index term 0
            next :: stretches index terms rest next
        | .among count =>
            let next := stretch.fix index term (Estimate.ofCount count)
            next :: stretches index terms rest next
        | .above =>
            stretch.bound [term] ::
              (here.filter (·.form = .below)).map fun top => stretch.bound [term, top]
        | .below => [stretch.bound [term]]
        | .other => []

/-! ## Routes -/

/-- A way through a table, with what it is taken to cost and the rows it is taken to bring. -/
structure Route where
  /-- The index, unless the way is along the rows. -/
  index : Option Index := none
  /-- The conditions that pick a stretch. -/
  terms : List Term := []
  /-- The number of columns for which a value, or one of several, is given. -/
  fixed : Nat := 0
  /-- What has to be spent once, before the first row. -/
  setup : Int := 0
  cost : Int
  rows : Int
  /-- Only routes of one family stand against each other. -/
  family : Nat := 0
  /-- No row has to be looked up for an entry. -/
  covers : Bool := false
  deriving DecidableEq, Repr

/-- What looking up a row costs more than reading one in passing. -/
def lookupCost : Int := 16

/-- What the choice of a route depends on. -/
structure Survey where
  layout : Layout
  terms : List Term
  order : Option (String × SortOrder)
  /-- The statement counts rows, so that it reads only the columns of its conditions. -/
  counting : Bool
  /-- The statement ends with the first row. -/
  stopsAtFirst : Bool

namespace Survey

/-- The way along the rows. -/
def scan : Route where
  cost := assumedRows + lookupCost
  rows := assumedRows

/-- True for an index with all columns that the statement reads. -/
def covers (survey : Survey) (index : Index) : Bool :=
  survey.counting && survey.terms.all (index.columns.contains ·.column)

/-- True for an index with the column to sort by. -/
def mightSort (survey : Survey) (index : Index) : Bool :=
  (survey.order.map fun (column, _) => index.columns.contains column).getD false

/-- The number of rows to look up along all of an index. The conditions that its columns decide,
    as far as they come first, spare some. -/
def lookups (survey : Survey) (index : Index) : Int :=
  (survey.terms.takeWhile (index.columns.contains ·.column)).foldl
    (fun rows term => rows - if term.form = .equal then 20 else 1)
    (assumedRows + lookupCost)

/-- The way along all of an index, where it can be of use. -/
def whole (survey : Survey) (index : Index) (family : Nat) : List Route :=
  let covers := survey.covers index
  let entries := assumedRows + survey.layout.entryCost index
  let size := recordSize survey.layout.texts survey.layout.numbers
  if survey.mightSort index || (covers && recordSize index.columns.length 0 < size) then
    let cost := if covers then entries else Estimate.add entries (survey.lookups index)
    [{ index := some index, cost, rows := assumedRows, family, covers }]
  else []

/-- The way along a stretch of an index: a search for its start, then its entries, then the rows. -/
def along (survey : Survey) (index : Index) (family : Nat) (stretch : Stretch) : Route :=
  let covers := survey.covers index
  let entries := stretch.rows + survey.layout.entryCost index
  let found := Estimate.add (Estimate.steps assumedRows) entries
  let cost := if covers then found else Estimate.add found (stretch.rows + lookupCost)
  { index := some index, terms := stretch.terms, fixed := stretch.fixed
    cost := cost + stretch.choices, rows := stretch.rows + stretch.choices, family, covers }

/-- The way along an index made for this one statement, where an equality could pick a stretch of
    it. All rows have to be sorted first, which is seven times the work of reading them, so the way
    is never taken; but it holds a place among the good routes. -/
def improvised (survey : Survey) : List Route :=
  if survey.terms.any (·.form = .equal) then
    let steps := Estimate.steps assumedRows
    let rows := Estimate.ofCount 20
    [{ setup := steps + assumedRows + Estimate.ofCount 7, cost := Estimate.add steps rows, rows }]
  else []

/-- All routes through a table, as it is laid out. -/
def routes (survey : Survey) : List Route :=
  let terms := distinctTerms survey.terms
  scan :: survey.layout.indexes.zipIdx.flatMap fun (index, place) =>
    let family := if survey.mightSort index then place + 1 else 0
    survey.whole index family ++
      (stretches index terms index.columns .whole).map (survey.along index family)

/-- A route that brings fewer rows for the conditions that it leaves open. An equality among them
    lets through a quarter of all rows at most. -/
def thin (survey : Survey) (route : Route) : Route :=
  let left := survey.terms.filter fun term => !term.settled && !route.terms.contains term
  let most := assumedRows - if left.any (·.form = .equal) then 20 else 0
  { route with rows := min most (route.rows - left.length) }

end Survey

/-! ## The choice -/

namespace Route

/-- True for a route along an index that uses less of the conditions than another one. -/
def isWider (a b : Route) : Bool :=
  (a.fixed < b.fixed && a.index = b.index) ||
    (a.terms.length < b.terms.length && a.terms.all (b.terms.contains ·) &&
      !(a.covers && !b.covers))

/-- A route that is brought into line with another one: it is no worse than one that uses less, and
    no better than one that uses more. -/
def align (route other : Route) : Route :=
  if route.index.isNone || other.index.isNone then route
  else if other.isWider route then
    { route with cost := min other.cost route.cost, rows := min (other.rows - 1) route.rows }
  else if route.isWider other then
    { route with cost := max other.cost route.cost, rows := max (other.rows + 1) route.rows }
  else route

/-- True for a route that is no worse than another one of its family, in any respect. -/
def keepsOut (a b : Route) : Bool :=
  a.family = b.family && a.setup ≤ b.setup && a.cost ≤ b.cost && a.rows ≤ b.rows

/-- True for a route that takes the place of another one of its family: it costs no more and brings
    no more rows, or it uses an equality along an index that need not be made first. -/
def displaces (a b : Route) : Bool :=
  a.family = b.family &&
    ((0 < b.setup && a.index.isSome && a.terms.any (·.form = .equal)) ||
      (a.cost ≤ b.cost && a.rows ≤ b.rows))

/-- The good routes with one more. The first one that it has to do with decides whether it stays
    out; if it does not, it takes the place of that one and of all others that it displaces. -/
def insert (routes : List Route) (route : Route) : List Route :=
  let route := routes.foldl align route
  let before := routes.takeWhile fun old => !(old.keepsOut route || route.displaces old)
  match routes.drop before.length with
  | [] => before ++ [route]
  | old :: after =>
      if old.keepsOut route then routes
      else before ++ route :: after.filter (!route.displaces ·)

/-- The cost of a route with all that is spent before the first row. -/
def total (route : Route) : Int := Estimate.add route.setup route.cost

/-- The first route with the least cost, and of those the fewest rows. -/
def best (cost : Route → Int) : Route → List Route → Route
  | route, [] => route
  | route, other :: others =>
      let better := cost other < cost route || (cost other = cost route && other.rows < route.rows)
      best cost (if better then other else route) others

/-- Whether a route brings the rows in the order of a column: none if it does not, else whether
    the route has to be gone backwards. The columns to which conditions give a value do not
    matter; with `several`, nor do those to which they give one of several values. -/
def sorts? (route : Route) (column : String) (order : SortOrder) (several : Bool) : Option Bool :=
  let isFree (term : Term) : Bool :=
    match term.form with
    | .equal => true
    | .among _ => several
    | _ => false
  let free := (route.terms.take route.fixed).takeWhile isFree
  route.index.bind fun index =>
    if (index.columns.drop free.length).head? = some column then some (order = .descending)
    else none

end Route

namespace Survey

/-- The good routes through a table. -/
def candidates (survey : Survey) : List Route :=
  survey.routes.foldl (fun routes route => Route.insert routes (survey.thin route))
    survey.improvised

/-- True for a column to which a condition gives a value. -/
def isFixed (survey : Survey) (column : String) : Bool :=
  survey.terms.any fun term => term.column = column && term.form = .equal

/-- Whether a route brings the rows in the order asked for, and whether it has to be gone
    backwards for that. -/
def sorts? (survey : Survey) (route : Route) (several : Bool) : Option Bool :=
  match survey.order with
  | none => some false
  | some (column, order) =>
      if survey.isFixed column then some false else route.sorts? column order several

/-- The cost of sorting a number of rows. For the first one alone, every row is only held against
    the first one so far. -/
def sortCost (survey : Survey) (rows : Int) : Int :=
  let rows := if rows < 0 then 1 else rows + 1
  rows + 10 + if survey.stopsAtFirst then 10 else Estimate.steps rows

/-- The cost of a route with the sorting that it leaves to do, when `rows` rows are expected. -/
def fullCost (survey : Survey) (rows : Int) (route : Route) : Int :=
  if (survey.sorts? route false).isSome then route.total
  else Estimate.add route.total (survey.sortCost rows) + 3

/-- The search for the one row to which conditions give all columns of a unique index. -/
def single? (survey : Survey) : Option Route :=
  survey.layout.indexes.findSome? fun index => do
    guard index.unique
    let terms ← index.columns.mapM fun column =>
      survey.terms.find? fun term => term.column = column && term.form = .equal
    return {
      index := some index, terms, fixed := terms.length, cost := 0, rows := 0
      covers := survey.covers index }

/-- The route that is taken. How many rows have to be sorted is told by the route that would be
    taken without a sort. -/
def route (survey : Survey) : Route :=
  match survey.single? with
  | some route => route
  | none =>
      let routes := survey.candidates
      let first := routes.headD scan
      let unsorted := Route.best Route.total first routes
      Route.best (survey.fullCost unsorted.rows) first routes

/-- True when the route is gone backwards. -/
def isBackwards (survey : Survey) (route : Route) : Bool :=
  ((survey.sorts? route false).or (survey.sorts? route true)).getD false

end Survey

end Purse.Query
