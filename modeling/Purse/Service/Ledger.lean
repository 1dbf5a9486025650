/-
  Purse.Service.Ledger

  Moving money.  A credit brings money in from outside, a transfer moves it between two
  wallets, a purchase pays for a product and lowers its stock.  Every operation checks
  all its rules before it writes, records what moved as entries, and stamps the
  wallets it touched.
-/
import Purse.Audit
import Purse.Service.Accounts

namespace Purse.Service

open Query Store

/-- An entry that has to come out. -/
def requireEntry (made? : Option Entry) : Except ServiceError Entry :=
  match made? with
  | some entry => .ok entry
  | none => .error .entryNotPositive

/-- Rejects a condition that does not hold. -/
def require (condition : Bool) (error : ServiceError) : Except ServiceError Unit :=
  if condition then .ok () else .error error

/-! ## Operations -/

/-- Decides to add money to a wallet. -/
def decideCredit (moment : Moment) (request : CreditRequest) (db : Database) :
    Except ServiceError (Decision Entry) := do
  require (0 < request.amount) (.invalidAmount .notPositive)
  let wallet ← requireWallet request.walletId db
  require (wallet.hasRoomFor request.amount) (.invalidAmount .balanceOverflow)
  let entry ← requireEntry
    (Entry.credit? (moment.ids 0) wallet.id request.amount moment.now)
  return {
    writes := [.createEntry entry, .updateWallet (wallet.increase request.amount moment.now)]
    answer := entry }

/-- The two entries of a transfer. -/
structure TransferReceipt where
  sent : Entry
  received : Entry
  deriving DecidableEq

/-- Finds both wallets of a transfer; the one with the smaller identifier is read first,
    so that of two rows that cannot be read the same one is reported in either direction. -/
def transferWallets (request : TransferRequest) (db : Database) :
    Except ServiceError (Wallet × Wallet) := do
  let read (id : Ident) := ofStoreResult (findById Wallet id db)
  let (sender?, receiver?) ←
    if request.senderId < request.receiverId then do
      let sender? ← read request.senderId
      let receiver? ← read request.receiverId
      pure (sender?, receiver?)
    else do
      let receiver? ← read request.receiverId
      let sender? ← read request.senderId
      pure (sender?, receiver?)
  match sender?, receiver? with
  | none, _ => .error (.walletNotFound request.senderId)
  | _, none => .error (.walletNotFound request.receiverId)
  | some sender, some receiver => return (sender, receiver)

/-- Decides to move money between two wallets. -/
def decideTransfer (moment : Moment) (request : TransferRequest) (db : Database) :
    Except ServiceError (Decision TransferReceipt) := do
  require (0 < request.amount) (.invalidAmount .notPositive)
  require (request.senderId ≠ request.receiverId) (.sameWallet request.senderId)
  let (sender, receiver) ← transferWallets request db
  require (sender.canAfford request.amount)
    (.insufficientFunds sender.name sender.balance request.amount)
  require (receiver.hasRoomFor request.amount) (.invalidAmount .balanceOverflow)
  let sent ← requireEntry
    (Entry.transferOut? (moment.ids 0) sender.id receiver.id receiver.name request.amount
      moment.now)
  let received ← requireEntry
    (Entry.transferIn? (moment.ids 1) receiver.id sender.id sender.name request.amount
      moment.now)
  return {
    writes := [
      .createEntry sent, .updateWallet (sender.decrease request.amount moment.now),
      .createEntry received, .updateWallet (receiver.increase request.amount moment.now)]
    answer := ⟨sent, received⟩ }

/-- Decides to buy units of a product. -/
def decidePurchase (moment : Moment) (request : PurchaseRequest) (db : Database) :
    Except ServiceError (Decision Entry) := do
  require (request.quantity ≠ 0) .quantityNotPositive
  let wallet ← requireWallet request.walletId db
  let product ← match ← ofStoreResult (findById Product request.productId db) with
    | some product => pure product
    | none => .error (.unknownProduct request.productId)
  require (product.canSupply request.quantity)
    (.productUnavailable product.name request.quantity product.quantity)
  let total ← match product.totalFor? request.quantity with
    | some total => pure total
    | none => .error (.invalidAmount .totalOverflow)
  require (wallet.canAfford total) (.insufficientFunds wallet.name wallet.balance total)
  let entry ← requireEntry
    (Entry.purchase? (moment.ids 0) wallet.id product.id product.name request.quantity total
      moment.now)
  return {
    writes := [
      .updateProduct (product.take request.quantity moment.clock),
      .updateWallet (wallet.decrease total moment.now), .createEntry entry]
    answer := entry }

/-- Adds money to a wallet from outside the ledger. -/
def credit (moment : Moment) (request : CreditRequest) (db : Database) : Outcome Entry :=
  carryOut (decideCredit moment request db) db

/-- Moves money between two wallets. -/
def transfer (moment : Moment) (request : TransferRequest) (db : Database) :
    Outcome TransferReceipt :=
  carryOut (decideTransfer moment request db) db

/-- Buys units of a product with the balance of a wallet. -/
def purchase (moment : Moment) (request : PurchaseRequest) (db : Database) : Outcome Entry :=
  carryOut (decidePurchase moment request db) db

/-! ## Reads -/

/-- The entry with an identifier. -/
def getEntry (id : Ident) (db : Database) : Except ServiceError Entry := do
  match ← ofStoreResult (findById Entry id db) with
  | some entry => return entry
  | none => .error (.entryNotFound id)

/-- One page of the entries. -/
def listEntries (request : PageRequest) (filter : Filter) (sort : Option SortRule)
    (db : Database) : Except ServiceError (Page Entry) :=
  ofLookup (findPage Entry request filter sort db)

/-- All entries of a wallet, oldest first. -/
def walletEntries (id : Ident) (db : Database) : Except ServiceError (List Entry) :=
  ofLookup (findAll Entry [equals "wallet_id" id.text] (some ⟨"created_at", .ascending⟩) db)

/-- Compares the balance of a wallet with its entries. -/
def auditOf (id : Ident) (db : Database) : Except ServiceError WalletAudit := do
  let wallet ← requireWallet id db
  let entries ← walletEntries id db
  return auditWallet wallet entries

/-- Checks every balance and every product. -/
def checkIntegrity (db : Database) : Except ServiceError IntegrityReport := do
  let wallets ← ofLookup (findAll Wallet [] none db)
  let entries ← ofLookup (findAll Entry [] none db)
  let products ← ofLookup (findAll Product [] none db)
  return integrityReport wallets entries products

end Purse.Service
