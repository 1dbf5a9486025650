/-
  Purse.Proofs.Ledger.Stamps

  When a wallet last moved.  A wallet carries the time of the entry that was added to it last
  (`Book.Stamped`), whatever the clock showed before that.  The writes of a call come in pairs, an
  entry and its wallet at the same time (`stamped_move`), and no other write sets such a time, so
  this holds in every state that calls lead to (`stamped_of_reachable`).
-/
import Purse.Proofs.Ledger.Balance
import Purse.Proofs.Ledger.Effects
import Purse.Proofs.Service.Writers

namespace Purse

/-! ## The last entry of a wallet -/

/-- The time of the entry that was added last to a wallet, none when there is no entry on it. -/
def lastMoveOf (id : Ident) (entries : List Entry) : Option Instant :=
  (entriesOf id entries).getLast?.map Entry.createdAt

section

variable {id : Ident} {entries : List Entry}

theorem lastMoveOf_eq_none : lastMoveOf id entries = none ↔ entriesOf id entries = [] := by
  rw [lastMoveOf, Option.map_eq_none_iff, List.getLast?_eq_none_iff]

theorem lastMoveOf_append_same {entry : Entry} (own : entry.walletId = id) :
    lastMoveOf id (entries ++ [entry]) = some entry.createdAt := by
  simp [lastMoveOf, entriesOf, own]

theorem lastMoveOf_append_other {entry : Entry} (other : entry.walletId ≠ id) :
    lastMoveOf id (entries ++ [entry]) = lastMoveOf id entries := by
  simp [lastMoveOf, entriesOf, other]

theorem lastMoveOf_filter_ne {gone : Ident} (other : id ≠ gone) :
    lastMoveOf id (entries.filter (·.walletId ≠ gone)) = lastMoveOf id entries := by
  have same : entriesOf id (entries.filter (·.walletId ≠ gone)) = entriesOf id entries := by
    rw [entriesOf, entriesOf, List.filter_filter]
    refine List.filter_congr fun e _ => ?_
    by_cases own : e.walletId = id <;> simp [own, other]
  rw [lastMoveOf, same, lastMoveOf]

theorem lastMoveOf_released (product : Ident) :
    lastMoveOf id (entries.map (Service.released product)) = lastMoveOf id entries := by
  -- An entry that loses its product keeps its wallet and its time.
  have wallet : (fun e : Entry => decide (e.walletId = id)) ∘ Service.released product =
      fun e => decide (e.walletId = id) := by
    funext e
    rw [Function.comp_apply, Service.walletId_released]
  have created : Entry.createdAt ∘ Service.released product = Entry.createdAt :=
    funext (Service.createdAt_released product)
  rw [lastMoveOf, entriesOf, List.filter_map, wallet, List.getLast?_map, Option.map_map, created,
    lastMoveOf, entriesOf]

end

namespace Service

open Store

/-! ## Writes -/

namespace Book

/-- True when every wallet carries the time of its last entry. -/
def Stamped (book : Book) : Prop := ∀ w ∈ book.wallets, w.lastMovedAt = lastMoveOf w.id book.entries

theorem stamped_blank : blank.Stamped := List.forall_mem_nil _

variable {book : Book}

theorem stamped_createWallet (h : book.Stamped) {wallet : Wallet} (new : wallet.lastMovedAt = none)
    (unused : ∀ e ∈ book.entries, e.walletId ≠ wallet.id) :
    (book.apply (.createWallet wallet)).Stamped := by
  refine List.forall_mem_append.2 ⟨h, List.forall_mem_singleton.2 ?_⟩
  have empty : entriesOf wallet.id book.entries = [] := by
    simpa [entriesOf] using unused
  exact new.trans (lastMoveOf_eq_none.2 empty).symm

/-- A wallet that is replaced keeps its time. -/
theorem stamped_updateWallet (h : book.Stamped) {stored wallet : Wallet}
    (member : stored ∈ book.wallets) (same : wallet.id = stored.id)
    (stamp : wallet.lastMovedAt = stored.lastMovedAt) :
    (book.apply (.updateWallet wallet)).Stamped := by
  intro w there
  rcases mem_of_mem_putRecord there with ⟨there, -⟩ | ⟨rfl, -⟩
  · exact h w there
  · rw [stamp, same]
    exact h stored member

/-- An entry and its wallet are written at the same time. -/
theorem stamped_move (h : book.Stamped) {entry : Entry} {wallet : Wallet}
    (own : entry.walletId = wallet.id) (stamp : wallet.lastMovedAt = some entry.createdAt) :
    ((book.apply (.createEntry entry)).apply (.updateWallet wallet)).Stamped := by
  intro w there
  -- Either the entry is not on the wallet, or it is the last one on it.
  rcases mem_of_mem_putRecord there with ⟨there, other⟩ | ⟨rfl, -⟩
  · have elsewhere : entry.walletId ≠ w.id := fun same => other (same.symm.trans own)
    exact (h w there).trans (lastMoveOf_append_other elsewhere).symm
  · exact stamp.trans (lastMoveOf_append_same own).symm

theorem stamped_deleteWallet (h : book.Stamped) (id : Ident) :
    (book.apply (.deleteWallet id)).Stamped := by
  rw [apply]
  split
  · intro w there
    obtain ⟨member, other⟩ := List.mem_filter.1 there
    exact (h w member).trans (lastMoveOf_filter_ne (of_decide_eq_true other)).symm
  · exact h

theorem stamped_deleteProduct (h : book.Stamped) (id : Ident) :
    (book.apply (.deleteProduct id)).Stamped := by
  rw [apply]
  split
  · exact fun w member => (h w member).trans (lastMoveOf_released id).symm
  · exact h

/-- A wallet that is not stored has no entries. -/
theorem walletId_ne_of_absent (anchored : ∀ e ∈ book.entries, book.Anchors e) {id : Ident}
    (absent : ∀ w ∈ book.wallets, w.id ≠ id) : ∀ e ∈ book.entries, e.walletId ≠ id := by
  rintro e member rfl
  obtain ⟨w, stored, same⟩ := (anchored e member).wallet
  exact absent w stored same

end Book

/-! ## Calls -/

variable {book : Book} {db : Database}

theorem stamped_of_granted {moment : Moment} {call : Call} {answer : Answer} {writes : List Write}
    (legible : book.Legible) (anchored : ∀ e ∈ book.entries, book.Anchors e)
    (stamped : book.Stamped) (granted : Granted moment book call answer writes)
    (admitted : book.AdmitsAll writes) : (book.applyAll writes).Stamped := by
  cases granted with
  | createWallet named opened =>
      subst opened
      have unused := Book.walletId_ne_of_absent anchored fun w member => (admitted.1.2 w member).1
      exact Book.stamped_createWallet stamped rfl unused
  | @renameWallet stored wallet name named member read =>
      obtain rfl := eq_of_readsAs_wallet (legible.wallets stored member) read
      exact Book.stamped_updateWallet stamped member rfl rfl
  | deleteWallet member read => exact Book.stamped_deleteWallet stamped _
  | createProduct named priced => exact stamped
  | updateProduct named priced member read => exact stamped
  | deleteProduct member => exact Book.stamped_deleteProduct stamped _
  | credit positive member read room made =>
      subst made
      exact Book.stamped_move stamped rfl rfl
  | transfer positive different senderMember senderRead receiverMember receiverRead funds room
      madeSent madeReceived =>
      subst madeSent madeReceived
      refine Book.stamped_move ?_ rfl rfl
      exact Book.stamped_move stamped rfl rfl
  | @purchase storedWallet wallet storedProduct product quantity total entry positive walletMember
      walletRead productMember productRead supplied priced worth funds made =>
      subst made
      -- The wallet is written before its entry, which makes no difference to the book.
      have taken : (book.apply (.updateProduct (product.take quantity moment.clock))).Stamped :=
        stamped
      exact Book.stamped_move taken rfl rfl

/-! ## Reachable states -/

/-- What is stored in a state that calls lead to is a book on which balances are the sums of their
    entries and wallets carry the times of their last ones. -/
theorem exists_stamped (reachable : Reachable db) :
    ∃ book : Book, book.KeptIn db ∧ book.Sound ∧ book.Balanced ∧ book.Stamped := by
  obtain ⟨calls, orderly, rfl⟩ := reachable
  obtain ⟨book, kept, sound, -, balanced, -, stamped⟩ := exists_book_of_run
    (fun _ book => book.Legible ∧ book.Balanced ∧ book.Intact ∧ book.Stamped) Moment.Plain
    ⟨Book.legible_blank, Book.balanced_blank, Book.intact_blank, Book.stamped_blank⟩
    (fun _ held => held)
    (fun plain _ sound _ granted admitted ⟨legible, balanced, intact, stamped⟩ =>
      ⟨Book.legible_applyAll legible (storable_of_granted plain legible granted),
        balanced_of_granted sound balanced granted, Book.intact_applyAll intact admitted,
        stamped_of_granted legible intact.anchored stamped granted admitted⟩)
    orderly.clocks
  exact ⟨book, kept, sound, balanced, stamped⟩

/-- The rows of the entries of a wallet are told by its key. -/
theorem filter_walletRows (kept : book.KeptIn db) (id : Ident) :
    db.entries.filter (·.walletId = id.text) = (entriesOf id book.entries).map Record.toRow := by
  have own : (fun row : EntryRow => decide (row.walletId = id.text)) ∘ Record.toRow =
      fun entry : Entry => decide (entry.walletId = id) := by
    funext entry
    simp [Record.toRow]
  rw [kept.entries, List.filter_map, own, entriesOf]

/-- A call leaves a wallet its time if it adds no entry to it. -/
theorem lastMovedAt_of_becomes {event : Event} {stored left : Wallet}
    (becomes : stored.Becomes event left) (idle : stored.id ∉ event.entryWallets) :
    left.lastMovedAt = stored.lastMovedAt := by
  cases becomes with
  | same => rfl
  | renamed named call ok => rfl
  | moved moves => exact absurd moves idle

/-- In every state that calls lead to, wherever their clocks stood, a stored wallet carries the
    time of the entry that was added to it last; it carries none exactly if there is no entry on
    it, and then it holds nothing.  A call that adds no entry to the wallet leaves this time as it
    is, and the wallet where it is unless it removes it. -/
theorem stamped_of_reachable (reachable : Reachable db) :
    (∀ row ∈ db.wallets,
      let entries := db.entries.filter (·.walletId = row.id)
      row.lastMovedAt = entries.getLast?.map (·.createdAt) ∧
      (row.lastMovedAt = none ↔ entries = []) ∧ (entries = [] → row.balance = .integer 0)) ∧
    ∀ (call : Call) (moment : Moment),
      let event : Event := ⟨db, call, moment⟩
      let after := (runCall call moment db).database
      ∀ row ∈ db.wallets, row.id ∉ event.entryWallets.map Ident.text →
        (event.removesWallet row.id = false → ∃ left ∈ after.wallets, left.id = row.id) ∧
        ∀ left ∈ after.wallets, left.id = row.id → left.lastMovedAt = row.lastMovedAt := by
  constructor
  · intro row stored entries
    obtain ⟨book, kept, sound, balanced, stamped⟩ := exists_stamped reachable
    obtain ⟨wallet, member, rfl⟩ := exists_wallet_of_row kept stored
    have rows : entries = (entriesOf wallet.id book.entries).map Record.toRow :=
      filter_walletRows kept wallet.id
    have stamp : (Record.toRow wallet).lastMovedAt = entries.getLast?.map (·.createdAt) := by
      have carried : wallet.lastMovedAt = lastMoveOf wallet.id book.entries := stamped wallet member
      rw [rows, List.getLast?_map, Option.map_map]
      simp only [Record.toRow, carried, lastMoveOf, Option.map_map, Function.comp_def]
    refine ⟨stamp, ?_, fun empty => ?_⟩
    · rw [stamp, Option.map_eq_none_iff, List.getLast?_eq_none_iff]
    · have balance := Book.balance_eq_walletSum balanced sound.wallets member
      rw [walletSum, List.map_eq_nil_iff.1 (rows.symm.trans empty)] at balance
      exact congrArg Cell.integer balance
  · intro call moment event after row stored idle
    refine ⟨fun stays => ?_, fun left there same => ?_⟩
    · exact exists_walletRow_left reachable call moment stored stays
    · obtain ⟨-, wallet, became, rfl, rfl, becomes⟩ :=
        becomes_of_walletRow reachable call moment stored there same
      have untouched : wallet.id ∉ event.entryWallets := fun moves =>
        idle (List.mem_map_of_mem moves)
      exact congrArg (Option.map Instant.text) (lastMovedAt_of_becomes becomes untouched)

/-- A wallet carries the time of its last entry although it had entries at later times, and keeps
    it when it gets another name. -/
theorem stamped_of_marketDay :
    let db := marketRows
    let call : Call := .renameWallet default (.ofBits 4) "Holidays"
    let moment : Moment := ⟨⟨120, 0⟩, fun n => .ofBits (16 + n)⟩
    let event : Event := ⟨db, call, moment⟩
    let after := (runCall call moment db).database
    db.wallets.map (·.lastMovedAt) = [some "1970-01-01T00:00:30Z", some "1970-01-01T00:00:30Z"] ∧
      after.wallets.map (·.name) = ["Main", "Holidays"] ∧ event.entryWallets = [] ∧
      (∀ row ∈ db.wallets, row.lastMovedAt =
        (db.entries.filter (·.walletId = row.id)).getLast?.map (·.createdAt)) ∧
      ∀ row ∈ db.wallets, row.id ∉ event.entryWallets.map Ident.text →
        (event.removesWallet row.id = false → ∃ left ∈ after.wallets, left.id = row.id) ∧
        ∀ left ∈ after.wallets, left.id = row.id → left.lastMovedAt = row.lastMovedAt := by
  intro db call moment event after
  obtain ⟨stamps, calls⟩ := stamped_of_reachable reachable_marketRows
  exact ⟨by decide +kernel, by decide +kernel, by decide +kernel,
    fun row stored => (stamps row stored).1, calls call moment⟩

end Service

end Purse
