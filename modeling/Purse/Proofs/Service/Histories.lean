/-
  Purse.Proofs.Service.Histories

  The entries of a wallet in a window of time.  The bounds of a window are handed to the query in
  their written form, which shows whole seconds.  What is listed are therefore the entries of the
  wallet from the second of the start on and before the second of the stop, each once and newest
  first (`windows_of_reachable`).  This is the window that was asked for as long as both bounds are
  whole seconds.  A bound in a year that is written with a sign is not read back, and the window
  is refused.
-/
import Purse.Proofs.Codec.Years
import Purse.Proofs.Ledger.Effects
import Purse.Proofs.Service.Admitted
import Purse.Proofs.Store.Answers

namespace Purse

/-- True for an entry of a wallet that was made from `start` on and before `stop`. -/
def Entry.inWindow (id : Ident) (start stop : Instant) (entry : Entry) : Bool :=
  entry.walletId = id && !(entry.createdAt < start) && entry.createdAt < stop

namespace Service

open Query Store Text

/-! ## Fields of entries -/

theorem fieldNamed?_walletId :
    fieldNamed? (Record.fields Entry) "wallet_id" = some ⟨"wallet_id", .ident⟩ := by decide

theorem fieldNamed?_createdAt :
    fieldNamed? (Record.fields Entry) "created_at" = some ⟨"created_at", .instant⟩ := by decide

theorem read?_ident (id : Ident) : FieldKind.ident.read? id.text = some (.ident id) := by
  simp only [FieldKind.read?, Ident.trimmed_text, Ident.ofText?_text, Option.map_some]

theorem plan_walletId (id : Ident) :
    Condition.plan (Record.entity Entry) (Record.fields Entry) (equals "wallet_id" id.text) =
      .ok (.compare "wallet_id" .eq (FieldValue.ident id).cell) :=
  Condition.plan_of_read? _ fieldNamed?_walletId (read?_ident id) .eq

theorem operands_walletId (id : Ident) :
    (equals "wallet_id" id.text).operands (Record.fields Entry) = [.ident id] :=
  Condition.operands_of_read? fieldNamed?_walletId (read?_ident id) .eq

section

variable {t : Instant}

/-- A time is read back without what is below the second. -/
theorem read?_instant (well : t.WellFormed) (plain : t.InPlainYear) :
    FieldKind.instant.read? t.text = some (.instant t.truncate) := by
  simp only [FieldKind.read?, Instant.trimmed_text, Instant.parse?_text well plain, Option.map_some]

theorem plan_createdAt (well : t.WellFormed) (plain : t.InPlainYear) (c : Comparison) :
    Condition.plan (Record.entity Entry) (Record.fields Entry)
      ⟨"created_at", .comparison c, t.text⟩ =
        .ok (.compare "created_at" c (FieldValue.instant t.truncate).cell) :=
  Condition.plan_of_read? _ fieldNamed?_createdAt (read?_instant well plain) c

theorem operands_createdAt (well : t.WellFormed) (plain : t.InPlainYear) (c : Comparison) :
    Condition.operands (Record.fields Entry) ⟨"created_at", .comparison c, t.text⟩ =
      [.instant t.truncate] :=
  Condition.operands_of_read? fieldNamed?_createdAt (read?_instant well plain) c

/-- A time in a year with a sign is refused. -/
theorem plan_createdAt_of_signed (signed : ¬ t.InPlainYear) (c : Comparison) :
    Condition.plan (Record.entity Entry) (Record.fields Entry)
      ⟨"created_at", .comparison c, t.text⟩ =
        .error (.invalidValue "created_at" t.text .notAnInstant) := by
  rw [Condition.plan, lookupField_eq_ok.2 fieldNamed?_createdAt, ok_bind, Field.predicate,
    Field.parse, FieldKind.parse, Instant.trimmed_text, Instant.parse?_text_of_signed signed]
  rfl

end

/-! ## The query of a window -/

section

variable {id : Ident} {start stop : Instant}

theorem compares_historyFilter : ∀ condition ∈ historyFilter id start stop, condition.Compares :=
  List.forall_mem_cons.2 ⟨compares_equals _ _, List.forall_mem_cons.2 ⟨⟨.gte, rfl⟩,
    List.forall_mem_singleton.2 ⟨.lt, rfl⟩⟩⟩

/-- A condition on the wallet lets through the entries of that wallet. -/
theorem holds_walletId (id : Ident) (entry : Entry) :
    (equals "wallet_id" id.text).holds (Record.fields Entry) (Described.value entry) =
      decide (entry.walletId = id) := by
  refine (Condition.holds_of_read? fieldNamed?_walletId (read?_ident id) .eq).trans ?_
  simp only [Described.value, Option.any_some, Comparison.meets, FieldValue.ident.injEq]

/-- In plain years the query lets through what lies in the window of whole seconds. -/
theorem holds_historyFilter (startWell : start.WellFormed) (startPlain : start.InPlainYear)
    (stopWell : stop.WellFormed) (stopPlain : stop.InPlainYear) (entry : Entry) :
    ((historyFilter id start stop).all fun condition =>
      condition.holds (Record.fields Entry) (Described.value entry)) =
        entry.inWindow id start.truncate stop.truncate := by
  let holds (condition : Condition) : Bool :=
    condition.holds (Record.fields Entry) (Described.value entry)
  have wallet : holds (equals "wallet_id" id.text) = decide (entry.walletId = id) :=
    holds_walletId id entry
  have notBefore : holds ⟨"created_at", .comparison .gte, start.text⟩ =
      !decide (entry.createdAt < start.truncate) := by
    refine (Condition.holds_of_read? fieldNamed?_createdAt (read?_instant startWell startPlain)
      .gte).trans ?_
    simp only [Described.value, Option.any_some, Comparison.meets, FieldValue.below,
      FieldValue.instant.injEq]
    rw [← decide_not, ← Bool.decide_or, decide_eq_decide]
    exact Instant.not_lt_iff.symm
  have before : holds ⟨"created_at", .comparison .lt, stop.text⟩ =
      decide (entry.createdAt < stop.truncate) :=
    Condition.holds_of_read? fieldNamed?_createdAt (read?_instant stopWell stopPlain) .lt
  change (holds _ && (holds _ && (holds _ && true))) = _
  rw [wallet, notBefore, before, Bool.and_true, ← Bool.and_assoc, Entry.inWindow]

/-- No instant that the query names has anything below the second. -/
theorem whole_historyFilter (startWell : start.WellFormed) (startPlain : start.InPlainYear)
    (stopWell : stop.WellFormed) (stopPlain : stop.InPlainYear) :
    ∀ condition ∈ historyFilter id start stop, ∀ t,
      .instant t ∈ condition.operands (Record.fields Entry) → t.truncate = t ∧ t.InPlainYear := by
  have whole {bound : Instant} (well : bound.WellFormed) (plain : bound.InPlainYear)
      (c : Comparison) {t : Instant} (named : .instant t ∈ Condition.operands (Record.fields Entry)
        ⟨"created_at", .comparison c, bound.text⟩) : t.truncate = t ∧ t.InPlainYear := by
    rw [operands_createdAt well plain] at named
    cases List.mem_singleton.1 named
    exact ⟨bound.truncate_truncate, plain⟩
  refine List.forall_mem_cons.2 ⟨fun t named => ?_, List.forall_mem_cons.2
    ⟨fun t named => whole startWell startPlain .gte named,
      List.forall_mem_singleton.2 fun t named => whole stopWell stopPlain .lt named⟩⟩
  rw [operands_walletId] at named
  cases List.mem_singleton.1 named

theorem exists_plan_history (startWell : start.WellFormed) (startPlain : start.InPlainYear)
    (stopWell : stop.WellFormed) (stopPlain : stop.InPlainYear) :
    ∃ plan, planFor Entry (historyFilter id start stop) (some ⟨"created_at", .descending⟩) =
      .ok plan := by
  have notBefore := plan_createdAt startWell startPlain .gte
  have before := plan_createdAt stopWell stopPlain .lt
  exact ⟨⟨_, some ("created_at", .descending)⟩, planFor_eq_ok.2
    (Plan.build_eq_ok.2 ⟨.cons (plan_walletId id) (.cons notBefore (.cons before .nil)), rfl⟩)⟩

/-- The query is refused for a bound in a year with a sign. -/
theorem planFor_history_of_signed (startWell : start.WellFormed)
    (signed : ¬ (start.InPlainYear ∧ stop.InPlainYear)) :
    ∃ bound ∈ [start, stop], ¬ bound.InPlainYear ∧
      planFor Entry (historyFilter id start stop) (some ⟨"created_at", .descending⟩) =
        .error (.query (.invalidValue "created_at" bound.text .notAnInstant)) := by
  by_cases startPlain : start.InPlainYear
  · have stopSigned : ¬ stop.InPlainYear := fun stopPlain => signed ⟨startPlain, stopPlain⟩
    have notBefore := plan_createdAt startWell startPlain .gte
    refine ⟨stop, List.mem_cons_of_mem _ List.mem_cons_self, stopSigned, planFor_eq_error.2 ?_⟩
    exact Plan.build_of_refused [_, _] (List.forall_mem_cons.2
      ⟨⟨_, plan_walletId id⟩, List.forall_mem_singleton.2 ⟨_, notBefore⟩⟩)
      (plan_createdAt_of_signed stopSigned .lt) _
  · refine ⟨start, List.mem_cons_self, startPlain, planFor_eq_error.2 ?_⟩
    exact Plan.build_of_refused [_] (List.forall_mem_singleton.2 ⟨_, plan_walletId id⟩)
      (plan_createdAt_of_signed startPlain .gte) _

/-- Newest first is what the sort rule of the query says. -/
theorem not_lt_of_admits {a b : Entry}
    (admitted : SortRule.admits ⟨"created_at", .descending⟩ (Described.value a)
      (Described.value b) = true) : ¬ a.createdAt < b.createdAt := by
  have name : trimmed "created_at" = "created_at" := by decide
  simp only [SortRule.admits, name, Described.value, FieldValue.notAfter, FieldValue.below,
    Bool.or_eq_true, decide_eq_true_eq, FieldValue.instant.injEq] at admitted
  exact Instant.not_lt_iff.2 (admitted.imp_left Eq.symm)

/-- In plain years the query brings the entries in the window of whole seconds, newest first. -/
theorem findAll_history {book : Book} {db : Database} (kept : book.KeptIn db)
    (legible : book.Legible) (startWell : start.WellFormed) (startPlain : start.InPlainYear)
    (stopWell : stop.WellFormed) (stopPlain : stop.InPlainYear) (id : Ident) :
    ∃ found,
      findAll Entry (historyFilter id start stop) (some ⟨"created_at", .descending⟩) db =
        .ok found ∧
      found.Perm (book.entries.filter (·.inWindow id start.truncate stop.truncate)) ∧
      found.Pairwise fun a b => ¬ a.createdAt < b.createdAt := by
  have storable : ∀ e ∈ book.entries, ∀ t ∈ Described.times e, t.Storable :=
    fun e member => List.forall_mem_singleton.2 (legible.entries e member).created
  obtain ⟨plan, planned⟩ := exists_plan_history startWell startPlain stopWell stopPlain
  have runs : StatementRuns Entry (historyFilter id start stop) _ .all db :=
    statementRuns_of_compares Entry compares_historyFilter
      (by simp [historyFilter, deepestConditions]) (some ⟨"created_at", .descending⟩) .all db
  obtain ⟨found, listed, perm, sorted⟩ := findAll_of_records kept.entryRows storable planned runs
    (whole_historyFilter startWell startPlain stopWell stopPlain)
  have window : book.entries.filter (fun entry => (historyFilter id start stop).all fun condition =>
      condition.holds (Record.fields Entry) (Described.value entry)) =
      book.entries.filter (·.inWindow id start.truncate stop.truncate) :=
    List.filter_congr fun entry _ =>
      holds_historyFilter startWell startPlain stopWell stopPlain entry
  exact ⟨found, listed, window ▸ perm, (sorted _ rfl).imp not_lt_of_admits⟩

end

/-! ## Windows -/

section

variable {book : Book} {db : Database} {start stop : Instant}

theorem mapM_readRow_wallets (kept : book.KeptIn db) (legible : book.Legible) :
    db.wallets.mapM readRow = .ok book.wallets := by
  rw [kept.wallets, mapM_readRow_toRow legible.walletRecords]

theorem mapM_readRow_entries (kept : book.KeptIn db) (legible : book.Legible) :
    db.entries.mapM readRow = .ok book.entries := by
  rw [kept.entries, mapM_readRow_toRow legible.entryRecords]

/-- In plain years the history of a stored wallet has the entries in the window of whole
    seconds. -/
theorem exists_walletHistory (kept : book.KeptIn db) (well : book.WellKept) {wallet : Wallet}
    (member : wallet ∈ book.wallets) (ordered : ¬ stop < start) (startWell : start.WellFormed)
    (startPlain : start.InPlainYear) (stopWell : stop.WellFormed) (stopPlain : stop.InPlainYear) :
    ∃ found, walletHistory wallet.id start stop db = .ok ⟨wallet, start, stop, found⟩ ∧
      found.Perm (book.entries.filter (·.inWindow wallet.id start.truncate stop.truncate)) ∧
      found.Pairwise fun a b => ¬ a.createdAt < b.createdAt := by
  have read : getWallet wallet.id db = .ok wallet := requireWallet_of_mem kept well member
  obtain ⟨found, listed, perm, sorted⟩ := findAll_history kept well.legible startWell startPlain
    stopWell stopPlain wallet.id
  refine ⟨found, ?_, perm, sorted⟩
  rw [walletHistory, if_neg ordered, read, ok_bind, listed]
  rfl

end

/-- In a state that calls lead to, the history of a wallet lists its entries from the whole second
    of the start on and before that of the stop, each once and newest first, if the years of both
    bounds are plain. With a bound in any other year the window is refused. A window that ends
    before it starts is refused first, then an unknown wallet. -/
theorem windows_of_reachable {db : Database} (reachable : Reachable db) {start stop : Instant}
    (startWell : start.WellFormed) (stopWell : stop.WellFormed) (id : Ident) :
    ∃ (wallets : List Wallet) (entries : List Entry),
      db.wallets.mapM readRow = .ok wallets ∧ db.entries.mapM readRow = .ok entries ∧
      (stop < start → walletHistory id start stop db =
        .error (.invalidQuery (.invalidValue "from" start.text .reversedWindow))) ∧
      (¬ stop < start → (∀ wallet ∈ wallets, wallet.id ≠ id) →
        walletHistory id start stop db = .error (.walletNotFound id)) ∧
      ∀ wallet ∈ wallets, wallet.id = id → ¬ stop < start →
        (start.InPlainYear → stop.InPlainYear → ∃ found,
          walletHistory id start stop db = .ok ⟨wallet, start, stop, found⟩ ∧
          found.Perm (entries.filter (·.inWindow id start.truncate stop.truncate)) ∧
          found.Pairwise fun a b => ¬ a.createdAt < b.createdAt) ∧
        (¬ (start.InPlainYear ∧ stop.InPlainYear) → ∃ bound ∈ [start, stop], ¬ bound.InPlainYear ∧
          walletHistory id start stop db =
            .error (.invalidQuery (.invalidValue "created_at" bound.text .notAnInstant))) := by
  obtain ⟨book, kept, well⟩ := exists_wellKept reachable
  refine ⟨book.wallets, book.entries, mapM_readRow_wallets kept well.legible,
    mapM_readRow_entries kept well.legible, fun reversed => if_pos reversed,
    fun ordered absent => ?_, ?_⟩
  · rw [walletHistory, if_neg ordered, getWallet, requireWallet_of_absent kept absent, error_bind]
  · rintro wallet member rfl ordered
    refine ⟨fun startPlain stopPlain => ?_, fun signed => ?_⟩
    · exact exists_walletHistory kept well member ordered startWell startPlain stopWell stopPlain
    · have read : getWallet wallet.id db = .ok wallet := requireWallet_of_mem kept well member
      obtain ⟨bound, which, year, refused⟩ := planFor_history_of_signed startWell signed
      refine ⟨bound, which, year, ?_⟩
      rw [walletHistory, if_neg ordered, read, ok_bind, findAll, refused]
      rfl

/-! ### At the market -/

/-- The wallets at the end of the day at the market. -/
def marketWallets : List Wallet := [
  ⟨.ofBits 2, "Main", default, 150, some ⟨30, 0⟩, ⟨0, 0⟩⟩,
  ⟨.ofBits 4, "Spare", default, 50, some ⟨30, 0⟩, ⟨10, 0⟩⟩]

/-- The entries at the end of the day at the market. -/
def marketEntries : List Entry := [
  incomeEntry (.ofBits 8) (.ofBits 2) 500 ⟨90, 0⟩,
  released (.ofBits 6) (expenseEntry (.ofBits 10) (.ofBits 2) (.ofBits 6) "Coffee" 2 300 ⟨60, 0⟩),
  sentEntry (.ofBits 12) (.ofBits 2) (.ofBits 4) "Spare" 50 ⟨30, 0⟩,
  receivedEntry (.ofBits 13) (.ofBits 4) (.ofBits 2) "Main" 50 ⟨30, 0⟩]

theorem mapM_readRow_marketWallets : marketRows.wallets.mapM readRow = .ok marketWallets := by
  decide +kernel

theorem mapM_readRow_marketEntries : marketRows.entries.mapM readRow = .ok marketEntries := by
  decide +kernel

/-- A window from the minute of the purchase on lists the purchase and the credit behind it, but
    not what was sent before. -/
theorem windows_of_marketDay :
    let start : Instant := ⟨60, 0⟩
    let stop : Instant := ⟨91, 0⟩
    (∃ history, walletHistory (.ofBits 2) start stop marketRows = .ok history ∧
      history.entries.Perm (marketEntries.take 2) ∧
      history.entries.Pairwise fun a b => ¬ a.createdAt < b.createdAt) ∧
    walletHistory (.ofBits 3) start stop marketRows = .error (.walletNotFound (.ofBits 3)) := by
  intro start stop
  have startWell : start.WellFormed := .inl (by decide)
  have stopWell : stop.WellFormed := .inl (by decide)
  have windows := windows_of_reachable reachable_marketRows startWell stopWell
  constructor
  · obtain ⟨wallets, entries, readWallets, readEntries, -, -, stored⟩ := windows (.ofBits 2)
    obtain rfl : wallets = marketWallets :=
      Except.ok.inj (readWallets.symm.trans mapM_readRow_marketWallets)
    obtain rfl : entries = marketEntries :=
      Except.ok.inj (readEntries.symm.trans mapM_readRow_marketEntries)
    obtain ⟨found, answered, perm, sorted⟩ := (stored _ List.mem_cons_self rfl (by decide)).1
      ⟨by decide, by decide⟩ ⟨by decide, by decide⟩
    have window : marketEntries.filter
        (·.inWindow (.ofBits 2) start.truncate stop.truncate) = marketEntries.take 2 := by
      decide +kernel
    exact ⟨_, answered, window ▸ perm, sorted⟩
  · obtain ⟨wallets, entries, readWallets, -, -, absent, -⟩ := windows (.ofBits 3)
    obtain rfl : wallets = marketWallets :=
      Except.ok.inj (readWallets.symm.trans mapM_readRow_marketWallets)
    exact absent (by decide) (by decide)

/-- A window from half a second after the purchase on lists the purchase nevertheless. -/
theorem window_fails_below_the_second :
    let start : Instant := ⟨60, 500000000⟩
    let stop : Instant := ⟨91, 0⟩
    Reachable marketRows ∧ start.WellFormed ∧ stop.WellFormed ∧ ¬ stop < start ∧
      ∃ history, walletHistory (.ofBits 2) start stop marketRows = .ok history ∧
        ∃ entry ∈ history.entries, entry.createdAt < start := by
  intro start stop
  have startWell : start.WellFormed := .inl (by decide)
  have stopWell : stop.WellFormed := .inl (by decide)
  have ordered : ¬ stop < start := by decide
  refine ⟨reachable_marketRows, startWell, stopWell, ordered, ?_⟩
  obtain ⟨book, kept, well⟩ := exists_wellKept reachable_marketRows
  have wallets : book.wallets = marketWallets := Except.ok.inj
    ((mapM_readRow_wallets kept well.legible).symm.trans mapM_readRow_marketWallets)
  have entries : book.entries = marketEntries := Except.ok.inj
    ((mapM_readRow_entries kept well.legible).symm.trans mapM_readRow_marketEntries)
  have main : marketWallets[0] ∈ book.wallets := by
    rw [wallets]
    exact List.mem_cons_self
  obtain ⟨found, answered, perm, -⟩ := exists_walletHistory kept well main ordered startWell
    ⟨by decide, by decide⟩ stopWell ⟨by decide, by decide⟩
  rw [entries] at perm
  have purchase : marketEntries[1] ∈ found := perm.mem_iff.2 (by decide +kernel)
  exact ⟨_, answered, _, purchase, by decide⟩

end Service

end Purse
