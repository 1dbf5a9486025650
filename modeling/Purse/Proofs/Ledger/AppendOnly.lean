/-
  Purse.Proofs.Ledger.AppendOnly

  The ledger is append-only.  What calls leave of a stored entry (`leftOf`) is nothing once its
  wallet was removed, and else the same entry, without its product once that was removed.  Every
  call leaves this of the entries that it found, in their order, and adds those of its answer behind
  them (`ledger_runCall`); runs do the same (`ledger_runCalls`), as what a run leaves is what its
  later calls leave of what its first one left (`leftOf_cons`).
-/
import Purse.Proofs.Ledger.History

namespace Purse.Service

open Store

/-! ## What calls leave of an entry -/

namespace Event

/-- True for a call that removed the wallet with a key. -/
def removesWallet (event : Event) (key : String) : Bool :=
  match event.call, event.result with
  | .deleteWallet _ id, .ok _ => id.text = key
  | _, _ => false

/-- True for a call that removed the product with a key. -/
def removesProduct (event : Event) (key : String) : Bool :=
  match event.call, event.result with
  | .deleteProduct id, .ok _ => id.text = key
  | _, _ => false

/-- The wallets to which a call added entries, in the order in which it did. -/
def entryWallets (event : Event) : List Ident :=
  match event.call, event.result with
  | .credit request, .ok _ => [request.walletId]
  | .transfer request, .ok _ => [request.senderId, request.receiverId]
  | .purchase request, .ok _ => [request.walletId]
  | _, _ => []

end Event

/-- The entries of an answer: the one that was made, or both sides of a transfer. -/
def Answer.entries : Answer → List Entry
  | .entry made => [made]
  | .transfer receipt => [receipt.sent, receipt.received]
  | .wallet _ | .product _ | .done => []

/-- The entries that a call answered with. -/
def Event.added (event : Event) : List Entry :=
  match event.result with
  | .ok answer => answer.entries
  | .error _ => []

/-- True for a call that removes a wallet or a product. -/
def Call.removes : Call → Bool
  | .deleteWallet .. | .deleteProduct _ => true
  | _ => false

/-- What calls leave of a stored entry: nothing when one of them removed its wallet, else the same
    entry, which has lost its product when one of them removed that. -/
def leftOf (events : List Event) (row : EntryRow) : Option EntryRow :=
  if events.any (·.removesWallet row.walletId) then none
  else if row.productId.any fun key => events.any (·.removesProduct key) then
    some { row with productId := none }
  else some row

/-- What calls leave of an entry is what the later ones leave of what the first one left. -/
theorem leftOf_cons (event : Event) (events : List Event) (row : EntryRow) :
    leftOf (event :: events) row = (leftOf [event] row).bind (leftOf events) := by
  cases hwallet : event.removesWallet row.walletId with
  | true => simp [leftOf, hwallet]
  | false =>
      cases hproduct : row.productId with
      | none => simp [leftOf, hwallet, hproduct]
      | some key =>
          -- An entry that lost its product has none to lose.
          cases lost : event.removesProduct key <;> simp [leftOf, hwallet, hproduct, lost]

/-- A call that removed nothing leaves every entry as it is. -/
theorem filterMap_leftOf_of_idle {event : Event} (wallets : ∀ key, event.removesWallet key = false)
    (products : ∀ key, event.removesProduct key = false) (rows : List EntryRow) :
    rows.filterMap (leftOf [event]) = rows := by
  have kept : ∀ row ∈ rows, leftOf [event] row = some row := by
    intro row _
    simp [leftOf, wallets, products]
  rw [List.filterMap_congr kept, List.filterMap_some]

theorem Event.entryWallets_of_error {event : Event} {error : ServiceError}
    (failed : event.result = .error error) : event.entryWallets = [] := by
  simp [entryWallets, failed]

theorem Event.added_of_error {event : Event} {error : ServiceError}
    (failed : event.result = .error error) : event.added = [] := by
  rw [added, failed]

theorem Event.added_of_ok {event : Event} {answer : Answer} (ok : event.result = .ok answer) :
    event.added = answer.entries := by
  rw [added, ok]

theorem Event.removesWallet_of_error {event : Event} {error : ServiceError}
    (failed : event.result = .error error) (key : String) : event.removesWallet key = false := by
  simp [removesWallet, failed]

theorem Event.removesProduct_of_error {event : Event} {error : ServiceError}
    (failed : event.result = .error error) (key : String) : event.removesProduct key = false := by
  simp [removesProduct, failed]

theorem filterMap_leftOf_of_error {event : Event} {error : ServiceError}
    (failed : event.result = .error error) (rows : List EntryRow) :
    rows.filterMap (leftOf [event]) = rows :=
  filterMap_leftOf_of_idle (Event.removesWallet_of_error failed)
    (Event.removesProduct_of_error failed) rows

theorem filterMap_leftOf_of_keeps {event : Event} (keeps : event.call.removes = false)
    (rows : List EntryRow) : rows.filterMap (leftOf [event]) = rows := by
  obtain ⟨before, call, moment⟩ := event
  refine filterMap_leftOf_of_idle (fun key => ?_) (fun key => ?_) rows
  · cases call <;> simp_all [Call.removes, Event.removesWallet]
  · cases call <;> simp_all [Call.removes, Event.removesProduct]

/-! ## Calls -/

variable {book : Book}

theorem entries_deleteWallet {event : Event} {stored : Wallet} (member : stored ∈ book.wallets)
    (removed : ∀ key, event.removesWallet key = decide (stored.id.text = key))
    (others : ∀ key, event.removesProduct key = false) :
    (book.apply (.deleteWallet stored.id)).entries.map Record.toRow =
      (book.entries.map Record.toRow).filterMap (leftOf [event]) := by
  have present : book.wallets.any (·.id = stored.id) = true :=
    List.any_eq_true.2 ⟨stored, member, decide_eq_true rfl⟩
  rw [Book.apply, if_pos present, Book.withoutWallet]
  -- Entry by entry: those of the wallet go, and the other ones stay.
  induction book.entries with
  | nil => rfl
  | cons entry entries ih =>
      have left : leftOf [event] (Record.toRow entry) =
          if stored.id = entry.walletId then none else some (Record.toRow entry) := by
        simp [leftOf, removed, others, Record.toRow]
      rw [List.map_cons, List.filterMap_cons, left]
      by_cases same : stored.id = entry.walletId
      · rw [if_pos same, List.filter_cons_of_neg (by simpa using same.symm), ih]
      · rw [if_neg same, List.filter_cons_of_pos (by simpa using Ne.symm same), List.map_cons, ih]

theorem entries_deleteProduct {event : Event} {stored : Product} (member : stored ∈ book.products)
    (removed : ∀ key, event.removesProduct key = decide (stored.id.text = key))
    (others : ∀ key, event.removesWallet key = false) :
    (book.apply (.deleteProduct stored.id)).entries.map Record.toRow =
      (book.entries.map Record.toRow).filterMap (leftOf [event]) := by
  have present : book.products.any (·.id = stored.id) = true :=
    List.any_eq_true.2 ⟨stored, member, decide_eq_true rfl⟩
  have left : ∀ entry ∈ book.entries, leftOf [event] (Record.toRow entry) =
      some (Record.toRow (released stored.id entry)) := by
    intro entry _
    rw [toRow_released, leftOf]
    cases (Record.toRow entry).productId with
    | none => simp [others]
    | some key =>
        by_cases same : stored.id.text = key
        · simp [others, removed, same]
        · simp [others, removed, same, Ne.symm same]
  rw [Book.apply, if_pos present, Book.withoutProduct, List.map_map, List.filterMap_map,
    Function.comp_def, Function.comp_def, List.filterMap_congr left, ← List.filterMap_eq_map]
  rfl

/-- A call that succeeds leaves the stored entries as they are, but for what it removes, and adds
    those of its answer at the end. -/
theorem entries_of_granted {event : Event} {answer : Answer} {writes : List Write}
    (ok : event.result = .ok answer)
    (granted : Granted event.moment book event.call answer writes) :
    (book.applyAll writes).entries.map Record.toRow =
        (book.entries.map Record.toRow).filterMap (leftOf [event]) ++
          answer.entries.map Record.toRow ∧
      answer.entries.map Entry.walletId = event.entryWallets := by
  obtain ⟨before, call, moment⟩ := event
  cases granted with
  | createWallet named opened =>
      refine ⟨?_, rfl⟩
      rw [filterMap_leftOf_of_keeps rfl, Answer.entries, List.map_nil, List.append_nil]
      rfl
  | renameWallet named member read =>
      refine ⟨?_, rfl⟩
      rw [filterMap_leftOf_of_keeps rfl, Answer.entries, List.map_nil, List.append_nil]
      rfl
  | deleteWallet member read =>
      refine ⟨?_, rfl⟩
      rw [Answer.entries, List.map_nil, List.append_nil]
      exact entries_deleteWallet member (by simp [Event.removesWallet, ok])
        (by simp [Event.removesProduct])
  | createProduct named priced =>
      refine ⟨?_, rfl⟩
      rw [filterMap_leftOf_of_keeps rfl, Answer.entries, List.map_nil, List.append_nil]
      rfl
  | updateProduct named priced member read =>
      refine ⟨?_, rfl⟩
      rw [filterMap_leftOf_of_keeps rfl, Answer.entries, List.map_nil, List.append_nil]
      rfl
  | deleteProduct member =>
      refine ⟨?_, rfl⟩
      rw [Answer.entries, List.map_nil, List.append_nil]
      exact entries_deleteProduct member (by simp [Event.removesProduct, ok])
        (by simp [Event.removesWallet])
  | @credit stored wallet amount entry positive member read room made =>
      refine ⟨?_, ?_⟩
      · rw [filterMap_leftOf_of_keeps rfl, ← List.map_append]
        rfl
      · simp [Event.entryWallets, Answer.entries, ok, made, incomeEntry, read.wallet.1]
  | @transfer storedSender sender storedReceiver receiver amount sent received positive different
      senderMember senderRead receiverMember receiverRead funds room madeSent madeReceived =>
      refine ⟨?_, ?_⟩
      · rw [filterMap_leftOf_of_keeps rfl, ← List.map_append, Answer.entries, List.append_cons]
        rfl
      · simp [Event.entryWallets, Answer.entries, ok, madeSent, madeReceived, sentEntry,
          receivedEntry, senderRead.wallet.1, receiverRead.wallet.1]
  | @purchase storedWallet wallet storedProduct product quantity total entry positive walletMember
      walletRead productMember productRead supplied priced worth funds made =>
      refine ⟨?_, ?_⟩
      · rw [filterMap_leftOf_of_keeps rfl, ← List.map_append]
        rfl
      · simp [Event.entryWallets, Answer.entries, ok, made, expenseEntry, walletRead.wallet.1]

/-- Every call, whether it succeeds or fails, leaves the rows of a book. -/
theorem exists_keptIn_runCall {db : Database} (kept : book.KeptIn db) (call : Call)
    (moment : Moment) : ∃ after : Book, after.KeptIn (runCall call moment db).database := by
  cases hr : (runCall call moment db).result with
  | error e =>
      rw [database_runCall_of_error hr]
      exact ⟨book, kept⟩
  | ok answer =>
      obtain ⟨writes, -, -, keptAfter⟩ := granted_of_ok kept hr
      exact ⟨_, keptAfter⟩

/-- Every call leaves what it does of the entries that it found, and adds those of its answer. -/
theorem ledger_runCall {db : Database} (kept : book.KeptIn db) (call : Call) (moment : Moment) :
    (runCall call moment db).database.entries =
        db.entries.filterMap (leftOf [⟨db, call, moment⟩]) ++
          (Event.added ⟨db, call, moment⟩).map Record.toRow ∧
      (Event.added ⟨db, call, moment⟩).map Entry.walletId =
        Event.entryWallets ⟨db, call, moment⟩ := by
  let event : Event := ⟨db, call, moment⟩
  cases hr : (runCall call moment db).result with
  | error e =>
      have failed : event.result = .error e := hr
      rw [Event.added_of_error failed]
      refine ⟨?_, (Event.entryWallets_of_error failed).symm⟩
      rw [database_runCall_of_error hr, filterMap_leftOf_of_error failed, List.map_nil,
        List.append_nil]
  | ok answer =>
      obtain ⟨writes, granted, -, keptAfter⟩ := granted_of_ok kept hr
      have ok : event.result = .ok answer := hr
      rw [Event.added_of_ok ok, keptAfter.entries, kept.entries]
      exact entries_of_granted ok granted

theorem entries_runCall {db : Database} (kept : book.KeptIn db) (call : Call) (moment : Moment) :
    ∃ added : List Entry, (runCall call moment db).database.entries =
        db.entries.filterMap (leftOf [⟨db, call, moment⟩]) ++ added.map Record.toRow ∧
      added.map Entry.walletId = Event.entryWallets ⟨db, call, moment⟩ :=
  ⟨_, ledger_runCall kept call moment⟩

/-! ## Runs -/

/-- What is left of the entries that calls added, in the order in which they did. -/
def ledgerOf : List Event → List EntryRow
  | [] => []
  | event :: later => (event.added.map Record.toRow).filterMap (leftOf later) ++ ledgerOf later

theorem ledger_runCalls {db : Database} (kept : book.KeptIn db) (calls : List (Call × Moment)) :
    (runCalls calls db).entries =
      db.entries.filterMap (leftOf (history calls db)) ++ ledgerOf (history calls db) := by
  -- The later calls see what the first one left, and what they add stands behind its entries.
  induction calls generalizing db book with
  | nil =>
      have none : ∀ row ∈ db.entries, leftOf [] row = some row := by
        intro row _
        cases hproduct : row.productId <;> simp [leftOf, hproduct]
      rw [history, List.filterMap_congr none, List.filterMap_some, ledgerOf, List.append_nil]
      rfl
  | cons c calls ih =>
      obtain ⟨call, moment⟩ := c
      obtain ⟨rows, -⟩ := ledger_runCall kept call moment
      obtain ⟨after, keptAfter⟩ := exists_keptIn_runCall kept call moment
      have composed : leftOf (history ((call, moment) :: calls) db) = fun row =>
          (leftOf [⟨db, call, moment⟩] row).bind
            (leftOf (history calls (runCall call moment db).database)) := by
        funext row
        exact leftOf_cons _ _ row
      rw [runCalls, ih keptAfter, rows, List.filterMap_append, List.filterMap_filterMap, composed,
        history, ledgerOf, List.append_assoc]

theorem entries_runCalls {db : Database} (kept : book.KeptIn db) (calls : List (Call × Moment)) :
    ∃ added : List EntryRow, (runCalls calls db).entries =
      db.entries.filterMap (leftOf (history calls db)) ++ added :=
  ⟨_, ledger_runCalls kept calls⟩

/-- However a run goes on, the entries that it stored stand in their order as they were, without
    those of removed wallets and without references to removed products; new entries come behind
    them.  One call adds an entry for a credit or a purchase and two for a transfer, the sender's
    before the receiver's, if it succeeds, and none else; and unless it removes something it
    leaves every stored entry as it is. -/
theorem appendOnly_of_run (calls later : List (Call × Moment)) :
    let db := runCalls calls Database.fresh
    (∃ added : List EntryRow, (runCalls later db).entries =
      db.entries.filterMap (leftOf (history later db)) ++ added) ∧
    ∀ (call : Call) (moment : Moment), ∃ (left : List EntryRow) (added : List Entry),
      (runCall call moment db).database.entries = left ++ added.map Record.toRow ∧
      left = db.entries.filterMap (leftOf [⟨db, call, moment⟩]) ∧
      (call.removes = false → left = db.entries) ∧
      added.map Entry.walletId = Event.entryWallets ⟨db, call, moment⟩ := by
  obtain ⟨book, kept, -, -⟩ := exists_book_of_run (fun _ _ => True) (fun _ => True) trivial
    (fun _ held => held) (fun _ _ _ _ _ _ held => held) (fun c (_ : c ∈ calls) => trivial)
  refine ⟨entries_runCalls kept later, fun call moment => ?_⟩
  obtain ⟨added, rows, wallets⟩ := entries_runCall kept call moment
  exact ⟨_, added, rows, rfl, fun keeps => filterMap_leftOf_of_keeps keeps _, wallets⟩

end Purse.Service
