/-
  Purse.Proofs.Service.Ownership

  Managing accounts moves no money, and a wallet is in the hands of its owner.  Whatever is called,
  a wallet keeps its identifier, its owner and the time when it was opened; it gets another name,
  or goes, only when its owner asks for that, and the request of anyone else is refused
  (`requireOwned_of_other`).  Only ledger calls change balances, and of the stocks a call that
  manages accounts changes only that of the product it replaces (`owned_of_reachable`).
-/
import Purse.Proofs.Ledger.Effects
import Purse.Proofs.Ledger.Reordering

namespace Purse.Service

open Store Text

/-! ## What a call keeps -/

namespace Event

/-- True for a call by which the owner of a stored wallet renamed it. -/
def RenamedByOwner (event : Event) (row : WalletRow) : Prop :=
  ∃ (ownerId id : Ident) (name : String) (answer : Answer),
    event.call = .renameWallet ownerId id name ∧ event.result = .ok answer ∧
    ownerId.text = row.ownerId ∧ id.text = row.id

/-- True for a call by which the owner of a stored wallet removed it. -/
def RemovedByOwner (event : Event) (row : WalletRow) : Prop :=
  ∃ (ownerId id : Ident) (answer : Answer),
    event.call = .deleteWallet ownerId id ∧ event.result = .ok answer ∧
    ownerId.text = row.ownerId ∧ id.text = row.id

/-- What a call keeps of a stored wallet in the one that stands under its identifier afterwards. -/
structure KeepsWallet (event : Event) (row left : WalletRow) : Prop where
  owner : left.ownerId = row.ownerId
  opened : left.createdAt = row.createdAt
  name : left.name = row.name ∨ event.RenamedByOwner row
  money : event.call.isLedger = false →
    left.balance = row.balance ∧ left.lastMovedAt = row.lastMovedAt

end Event

variable {book : Book} {db : Database} {event : Event}

/-- A call that adds entries moves money. -/
theorem Event.isLedger_of_mem_entryWallets {id : Ident} (moves : id ∈ event.entryWallets) :
    event.call.isLedger = true := by
  obtain ⟨before, call, moment⟩ := event
  cases call with
  | credit request => rfl
  | transfer request => rfl
  | purchase request => rfl
  | _ => cases moves

theorem keepsWallet_of_becomes {stored left : Wallet} (h : stored.Becomes event left) :
    event.KeepsWallet (Record.toRow stored) (Record.toRow left) := by
  cases h with
  | same => exact ⟨rfl, rfl, .inl rfl, fun _ => ⟨rfl, rfl⟩⟩
  | @renamed name answer named call ok =>
      refine ⟨rfl, rfl, .inr ⟨_, _, name, answer, call, ok, rfl, rfl⟩, fun _ => ⟨rfl, rfl⟩⟩
  | moved moves =>
      have ledger := Event.isLedger_of_mem_entryWallets moves
      refine ⟨rfl, rfl, .inl rfl, fun account => ?_⟩
      rw [ledger] at account
      cases account

/-- A call that manages accounts leaves a product its stock, unless it replaces the product. -/
theorem quantity_of_becomes {stored left : Product} (h : stored.Becomes event left)
    (account : event.call.isLedger = false) :
    left.quantity = stored.quantity ∨ ∃ draft, event.call = .updateProduct stored.id draft := by
  cases h with
  | same => exact .inl rfl
  | replaced named call ok => exact .inr ⟨_, call⟩
  | sold call bought ok =>
      rw [call] at account
      cases account

/-! ## Callers who own nothing -/

/-- True of an operation that ended in a rejection and changed nothing. -/
def Outcome.Rejects (outcome : Outcome α) (db : Database) (error : ServiceError) : Prop :=
  outcome.result = .error error ∧ outcome.database = db

theorem rejects_carryOut {decided : Except ServiceError (Decision α)} {error : ServiceError}
    (h : decided = .error error) : (carryOut decided db).Rejects db error := by
  rw [h]
  exact ⟨rfl, rfl⟩

/-- A wallet is not handed out to another caller than its owner. -/
theorem requireOwned_of_other (kept : book.KeptIn db) (well : book.WellKept) {ownerId id : Ident}
    (other : ∀ w ∈ book.wallets, w.id = id → w.ownerId ≠ ownerId) :
    ∃ error, requireOwned ownerId id db = .error error ∧
      ((∃ w ∈ book.wallets, w.id = id) → error = .notOwner id) := by
  cases required : requireOwned ownerId id db with
  | ok wallet =>
      obtain ⟨stored, member, owner, same, -⟩ := readsAs_of_requireOwned kept required
      exact absurd owner (other stored member same)
  | error e =>
      refine ⟨e, rfl, ?_⟩
      rintro ⟨wallet, member, rfl⟩
      rw [requireOwned, requireWallet_of_mem kept well member, ok_bind,
        if_neg (other wallet member rfl)] at required
      exact (Except.error.inj required).symm

theorem rejects_renameWallet (kept : book.KeptIn db) (well : book.WellKept) {ownerId id : Ident}
    (other : ∀ w ∈ book.wallets, w.id = id → w.ownerId ≠ ownerId) (name : String) :
    ∃ error, (renameWallet ownerId id name db).Rejects db error ∧
      ((∃ w ∈ book.wallets, w.id = id) → trimmed name ≠ "" → error = .notOwner id) := by
  -- The name is looked at before the wallet, so a bad one is reported first.
  cases cleaned : cleanName name with
  | error e =>
      have decided : decideRenameWallet ownerId id name db = .error e := by
        rw [decideRenameWallet, cleaned]
        rfl
      refine ⟨e, rejects_carryOut decided, fun _ named => ?_⟩
      rw [cleanName_of_named named] at cleaned
      cases cleaned
  | ok clean =>
      obtain ⟨e, required, owner⟩ := requireOwned_of_other kept well other
      have decided : decideRenameWallet ownerId id name db = .error e := by
        rw [decideRenameWallet, cleaned, ok_bind, required]
        rfl
      exact ⟨e, rejects_carryOut decided, fun stored _ => owner stored⟩

theorem rejects_deleteWallet (kept : book.KeptIn db) (well : book.WellKept) {ownerId id : Ident}
    (other : ∀ w ∈ book.wallets, w.id = id → w.ownerId ≠ ownerId) :
    ∃ error, (deleteWallet ownerId id db).Rejects db error ∧
      ((∃ w ∈ book.wallets, w.id = id) → error = .notOwner id) := by
  obtain ⟨e, required, owner⟩ := requireOwned_of_other kept well other
  have decided : decideDeleteWallet ownerId id db = .error e := by
    rw [decideDeleteWallet, required]
    rfl
  exact ⟨e, rejects_carryOut decided, owner⟩

/-! ## Removed wallets -/

theorem Event.exists_of_removesWallet {key : String} (removes : event.removesWallet key = true) :
    ∃ (ownerId id : Ident) (answer : Answer),
      event.call = .deleteWallet ownerId id ∧ event.result = .ok answer ∧ id.text = key := by
  obtain ⟨before, call, moment⟩ := event
  cases call with
  | deleteWallet ownerId id =>
      cases hr : Event.result ⟨before, .deleteWallet ownerId id, moment⟩ with
      | error e =>
          rw [removesWallet_of_error hr] at removes
          cases removes
      | ok answer =>
          simp only [removesWallet, hr, decide_eq_true_eq] at removes
          exact ⟨ownerId, id, answer, rfl, rfl, removes⟩
  | _ => cases removes

/-- A stored wallet is removed by its owner. -/
theorem removedByOwner_of_removes (reachable : Reachable event.before) {row : WalletRow}
    (stored : row ∈ event.before.wallets) (removes : event.removesWallet row.id = true) :
    event.RemovedByOwner row := by
  obtain ⟨book, kept, well⟩ := exists_wellKept reachable
  obtain ⟨wallet, member, rfl⟩ := exists_wallet_of_row kept stored
  obtain ⟨ownerId, id, answer, call, ok, same⟩ := event.exists_of_removesWallet removes
  obtain ⟨writes, granted, -, -⟩ := granted_of_ok kept ok
  rw [call] at granted
  cases granted with
  | @deleteWallet found read stands readsAs =>
      have whole : found = wallet :=
        eq_of_ident well.sound.wallets stands member (Ident.text_inj.1 same)
      subst whole
      exact ⟨_, _, _, call, ok, rfl, rfl⟩

/-! ## Reachable states -/

/-- In every state that calls lead to, every further call leaves a stored wallet its owner and its
    time of opening, its name unless its owner renames it, and a place unless its owner removes it;
    it changes balances and their times only if it moves money, and stocks, if it does not, only of
    the product that it replaces.  Whoever renames or removes a wallet that is not his is rejected,
    for not being the owner if the wallet is stored and the name is one, and changes nothing. -/
theorem owned_of_reachable {db : Database} (reachable : Reachable db) :
    (∀ (call : Call) (moment : Moment),
      let event : Event := ⟨db, call, moment⟩
      let after := (runCall call moment db).database
      (∀ row ∈ db.wallets, (∃ left ∈ after.wallets, left.id = row.id) ∨
        (event.RemovedByOwner row ∧ ∀ left ∈ after.wallets, left.id ≠ row.id)) ∧
      (∀ row ∈ db.wallets, ∀ left ∈ after.wallets, left.id = row.id →
        event.KeepsWallet row left) ∧
      (call.isLedger = false → ∀ row ∈ db.products, ∀ left ∈ after.products, left.id = row.id →
        left.quantity = row.quantity ∨
          ∃ id draft, call = .updateProduct id draft ∧ id.text = row.id)) ∧
    ∀ ownerId id : Ident, (∀ row ∈ db.wallets, row.id = id.text → row.ownerId ≠ ownerId.text) →
      (∀ name, ∃ error, (renameWallet ownerId id name db).Rejects db error ∧
        ((∃ row ∈ db.wallets, row.id = id.text) → trimmed name ≠ "" → error = .notOwner id)) ∧
      ∃ error, (deleteWallet ownerId id db).Rejects db error ∧
        ((∃ row ∈ db.wallets, row.id = id.text) → error = .notOwner id) := by
  refine ⟨fun call moment => ?_, fun ownerId id other => ?_⟩
  · refine ⟨fun row stored => ?_, fun row stored left there same => ?_,
      fun account row stored left there same => ?_⟩
    · cases removed : Event.removesWallet ⟨db, call, moment⟩ row.id with
      | false => exact .inl (exists_walletRow_left reachable call moment stored removed)
      | true =>
          refine .inr ⟨removedByOwner_of_removes reachable stored removed, ?_⟩
          intro left there same
          cases removed.symm.trans (becomes_of_walletRow reachable call moment stored there same).1
    · obtain ⟨-, wallet, became, rfl, rfl, becomes⟩ :=
        becomes_of_walletRow reachable call moment stored there same
      exact keepsWallet_of_becomes becomes
    · obtain ⟨product, became, rfl, rfl, becomes⟩ :=
        becomes_of_productRow reachable call moment stored there same
      rcases quantity_of_becomes becomes account with quantity | ⟨draft, replaces⟩
      · exact .inl (congrArg (fun q : Quantity => Cell.integer q.toNat) quantity)
      · exact .inr ⟨product.id, draft, replaces, rfl⟩
  · obtain ⟨book, kept, well⟩ := exists_wellKept reachable
    have others : ∀ w ∈ book.wallets, w.id = id → w.ownerId ≠ ownerId := by
      rintro w member rfl rfl
      exact other (Record.toRow w) (kept.wallets ▸ List.mem_map_of_mem member) rfl rfl
    have found : (∃ row ∈ db.wallets, row.id = id.text) → ∃ w ∈ book.wallets, w.id = id := by
      rintro ⟨row, stored, same⟩
      obtain ⟨wallet, member, rfl⟩ := exists_wallet_of_row kept stored
      exact ⟨wallet, member, Ident.text_inj.1 same⟩
    refine ⟨fun name => ?_, ?_⟩
    · obtain ⟨e, rejects, owner⟩ := rejects_renameWallet kept well others name
      exact ⟨e, rejects, fun stored => owner (found stored)⟩
    · obtain ⟨e, rejects, owner⟩ := rejects_deleteWallet kept well others
      exact ⟨e, rejects, fun stored => owner (found stored)⟩

/-- A wallet is not removed for someone else, and keeps all but its name when its owner renames
    it. -/
theorem owned_of_marketDay :
    let db := marketRows
    let call : Call := .renameWallet default (.ofBits 4) "Holidays"
    let moment : Moment := ⟨⟨99, 0⟩, fun n => .ofBits (16 + n)⟩
    let after := (runCall call moment db).database
    after.wallets.map (·.name) = ["Main", "Holidays"] ∧
      (∀ row ∈ db.wallets, ∀ left ∈ after.wallets, left.id = row.id →
        Event.KeepsWallet ⟨db, call, moment⟩ row left) ∧
      ∃ error, (deleteWallet (.ofBits 1) (.ofBits 4) db).Rejects db error ∧
        error = .notOwner (.ofBits 4) := by
  intro db call moment after
  obtain ⟨calls, others⟩ := owned_of_reachable reachable_marketRows
  have other : ∀ row ∈ db.wallets, row.id = (Ident.ofBits 4).text →
      row.ownerId ≠ (Ident.ofBits 1).text := by decide +kernel
  have there : ∃ row ∈ db.wallets, row.id = (Ident.ofBits 4).text := by decide +kernel
  obtain ⟨-, error, rejects, owner⟩ := others (.ofBits 1) (.ofBits 4) other
  exact ⟨by decide +kernel, (calls call moment).2.1, error, rejects, owner there⟩

end Purse.Service
