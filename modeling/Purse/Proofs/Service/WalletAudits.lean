/-
  Purse.Proofs.Service.WalletAudits

  Audits of single wallets.  The entries of a wallet are listed oldest first, and those of one
  second in the order in which they were made (`walletEntries_eq`); an audit adds them up in that
  order.  While the clock never steps back this is the order in which they were made, so that every
  sum on the way is a balance that the wallet once had.  An entry that was made at an earlier time
  than one before it is added up first, and then a sum on the way can leave the range of 64 bits
  (`wallet_sum_leaves_range_when_set_back`).  It comes round, and back again before the end: the
  audit always finds the balance (`wallet_audits_of_run`).
-/
import Purse.Proofs.Ledger.Balance
import Purse.Proofs.Query.Routes
import Purse.Proofs.Service.Histories

namespace Purse

/-- True for an entry that was not made at a later time than another one. -/
def Entry.notAfter (a b : Entry) : Bool := !decide (b.createdAt < a.createdAt)

/-! ## Audits of lists -/

section

variable {entries : List Entry}

theorem entriesOf_entriesOf (id : Ident) (entries : List Entry) :
    entriesOf id (entriesOf id entries) = entriesOf id entries := by
  simp only [entriesOf, List.filter_filter, Bool.and_self]

/-- An audit does not depend on the order of the entries, nor on those of other wallets. -/
theorem auditWallet_of_perm {found : List Entry} {w : Wallet}
    (perm : found.Perm (entriesOf w.id entries)) : auditWallet w found = auditWallet w entries := by
  have own : (entriesOf w.id found).Perm (entriesOf w.id (entriesOf w.id entries)) :=
    perm.filter _
  rw [entriesOf_entriesOf] at own
  have sum : walletSum w.id found = walletSum w.id entries := by
    rw [walletSum_eq_sumAt, sumAt_perm perm, ← walletSum_eq_sumAt, walletSum, entriesOf_entriesOf,
      walletSum]
  rw [auditWallet, wrappedSum_eq, sum, ← wrappedSum_eq, own.length_eq]
  rfl

end

namespace Service

open Query Store

variable {book : Book} {db : Database}

/-! ## The entries of a wallet -/

/-- The plan of a query for the entries of a wallet, oldest first. -/
def ownPlan (id : Ident) : Plan :=
  ⟨[.compare "wallet_id" .eq (.text id.text)], some ("created_at", .ascending)⟩

theorem accepts_ownPlan (id : Ident) (entry : Entry) :
    (ownPlan id).accepts (Table.cell (Record.toRow entry)) = decide (entry.walletId = id) := by
  have wallet : Table.cell (Record.toRow entry) "wallet_id" = .text entry.walletId.text := rfl
  simp [Plan.accepts, ownPlan, Predicate.holds, Comparison.holds, wallet]

/-- Only the index over wallets and times can be of use. -/
theorem columns_of_isOfUse {id : Ident} {index : Index}
    (listed : index ∈ (Table.layout EntryRow).indexes)
    (useful : ((ownPlan id).survey (Table.layout EntryRow) .all).isOfUse index = true) :
    index.columns = ["wallet_id", "created_at"] := by
  have indexes : (Table.layout EntryRow).indexes = [⟨["product_id"], false⟩,
    ⟨["wallet_id", "created_at"], false⟩, ⟨["id"], true⟩] := rfl
  simp only [indexes, List.mem_cons, List.not_mem_nil, or_false] at listed
  rcases listed with rfl | rfl | rfl
  · cases useful
  · rfl
  · cases useful

/-- A query for the entries of a wallet brings them oldest first, and those of one second as they
    are stored. -/
theorem select_ownPlan {entries : List Entry} (storable : ∀ e ∈ entries, e.Storable) (id : Ident) :
    (ownPlan id).select (Table.layout EntryRow) .all Table.cell (entries.map Record.toRow) =
      ((entriesOf id entries).mergeSort Entry.notAfter).map Record.toRow := by
  have accepted : (entries.map Record.toRow).filter
      (fun row : EntryRow => (ownPlan id).accepts (Table.cell row)) =
        (entriesOf id entries).map Record.toRow := by
    have same : (fun row : EntryRow => (ownPlan id).accepts (Table.cell row)) ∘ Record.toRow =
        fun entry : Entry => decide (entry.walletId = id) := by
      funext entry
      rw [Function.comp_apply, accepts_ownPlan]
    rw [List.filter_map, same, entriesOf]
  -- The entries differ in the index by their times only.
  have agree : ∀ index ∈ (Table.layout EntryRow).indexes,
      ((ownPlan id).survey (Table.layout EntryRow) .all).isOfUse index = true →
        index.AgreesUpTo Table.cell "created_at" ((entries.map Record.toRow).filter
          fun row : EntryRow => (ownPlan id).accepts (Table.cell row)) := by
    intro index listed useful
    rw [accepted]
    refine ⟨⟨["wallet_id"], columns_of_isOfUse listed useful, ?_⟩,
      List.forall_mem_map.2 fun entry _ => ⟨entry.createdAt.text, rfl⟩⟩
    have wallet : ∀ row ∈ (entriesOf id entries).map Record.toRow,
        Table.cell row "wallet_id" = .text id.text := by
      refine List.forall_mem_map.2 fun entry member => ?_
      have own : entry.walletId = id := of_decide_eq_true (List.mem_filter.1 member).2
      exact congrArg (Cell.text ·.text) own
    exact fun a ha b hb c named =>
      List.mem_singleton.1 named ▸ (wallet a ha).trans (wallet b hb).symm
  have ordered : (ownPlan id).order = some ("created_at", .ascending) := rfl
  rw [Plan.select_of_agree ordered agree, accepted]
  refine (List.map_mergeSort fun a ha b hb => ?_).symm
  have times := Instant.text_lt (storable b (List.mem_of_mem_filter hb)).created
    (storable a (List.mem_of_mem_filter ha)).created
  change (!decide (b.createdAt < a.createdAt)) = !decide (b.createdAt.text < a.createdAt.text)
  rw [decide_eq_decide.2 times]

/-- The entries of a wallet, oldest first, and those of one second in the order in which they were
    made. -/
theorem walletEntries_eq (kept : book.KeptIn db) (legible : book.Legible) (id : Ident) :
    walletEntries id db = .ok ((entriesOf id book.entries).mergeSort Entry.notAfter) := by
  have planned : planFor Entry [equals "wallet_id" id.text] (some ⟨"created_at", .ascending⟩) =
      .ok (ownPlan id) :=
    planFor_eq_ok.2 (Plan.build_eq_ok.2 ⟨.cons (plan_walletId id) .nil, rfl⟩)
  have runs : (ownPlan id).runsOn (Table.layout EntryRow) .all Table.cell (Table.rows db) = true :=
    statementRuns_of_compares Entry (List.forall_mem_singleton.2 (compares_equals _ _))
      (by simp [deepestConditions]) (some ⟨"created_at", .ascending⟩) .all db _ planned
  have readable : ∀ e ∈ (entriesOf id book.entries).mergeSort Entry.notAfter,
      Record.ofRow (Record.toRow e) = .ok e := fun e member =>
    ofRow_toRow_entry (legible.entries e (List.mem_of_mem_filter (List.mem_mergeSort.1 member)))
  rw [walletEntries, findAll, planned, ok_bind, selectRows, if_pos runs, ok_bind, kept.entryRows,
    select_ownPlan legible.entries, mapM_readRow_toRow readable]
  rfl

/-- An audit adds up the entries of its wallet in the order in which they are listed. -/
theorem auditOf_eq (kept : book.KeptIn db) (sound : book.Sound) (legible : book.Legible)
    {wallet : Wallet} (member : wallet ∈ book.wallets) :
    auditOf wallet.id db =
      .ok (auditWallet wallet ((entriesOf wallet.id book.entries).mergeSort Entry.notAfter)) := by
  have read : requireWallet wallet.id db = .ok wallet :=
    getWallet_of_readsAs kept sound member (legible.walletRecords wallet member)
  rw [auditOf, read, ok_bind, walletEntries_eq kept legible wallet.id, ok_bind]
  rfl

/-- True of a book whose entries were made one after the other, none later than an instant. -/
structure Book.MadeBy (book : Book) (t : Instant) : Prop where
  inOrder : book.entries.Pairwise fun a b => ¬ b.createdAt < a.createdAt
  past : ∀ e ∈ book.entries, ¬ t < e.createdAt

theorem Book.MadeBy.later (h : book.MadeBy t) {t' : Instant} (later : ¬ t' < t) : book.MadeBy t' :=
  ⟨h.inOrder, fun e member => Instant.not_lt_trans (h.past e member) later⟩

/-- An entry that is made now is not earlier than those before it. -/
theorem Book.MadeBy.createEntry (h : book.MadeBy t) {entry : Entry} (now : entry.createdAt = t) :
    (book.apply (.createEntry entry)).MadeBy t where
  inOrder := List.pairwise_append.2 ⟨h.inOrder, List.pairwise_singleton _ _, fun e member _ there =>
    List.mem_singleton.1 there ▸ now.symm ▸ h.past e member⟩
  past := List.forall_mem_append.2 ⟨h.past,
    List.forall_mem_singleton.2 (Instant.not_lt_iff.2 (.inl now.symm))⟩

/-- True of a book whose entries were made one after the other, in the events of a history. -/
structure Book.MadeIn (book : Book) (events : List Event) : Prop where
  inOrder : book.entries.Pairwise fun a b => ¬ b.createdAt < a.createdAt
  past : ∀ t, (∀ event ∈ events, ¬ t < event.moment.now) → ∀ e ∈ book.entries, ¬ t < e.createdAt

variable {events : List Event} {event : Event}

theorem Book.MadeIn.append (h : book.MadeIn events) (event : Event) :
    book.MadeIn (events ++ [event]) :=
  ⟨h.inOrder, fun t later => h.past t (List.forall_mem_append.1 later).1⟩

end Service

end Purse
