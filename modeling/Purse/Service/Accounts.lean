/-
  Purse.Service.Accounts

  Managing wallets and products.  Nothing here moves money: a wallet is opened, renamed
  or removed, a product is listed, replaced or removed.  Names are kept without the
  blanks around them and are unique among the wallets of an owner and among the
  products.
-/
import Purse.Request
import Purse.Service.Change

namespace Purse.Service

open Query Store Text

/-! ## Shared checks -/

/-- A name without the blanks around it; nothing may not be all that is left. -/
def cleanName (name : String) : Except ServiceError String :=
  if trim name.toList = [] then .error .emptyName else .ok (trimmed name)

/-- A description without the blanks around it, absent when nothing is left. -/
def cleanDescription (description : Option String) : Option String :=
  (description.map trimmed).filter (· ≠ "")

/-- The wallet with an identifier. -/
def requireWallet (id : Ident) (db : Database) : Except ServiceError Wallet := do
  match ← ofStoreResult (findById Wallet id db) with
  | some wallet => return wallet
  | none => .error (.walletNotFound id)

/-- The product with an identifier. -/
def requireProduct (id : Ident) (db : Database) : Except ServiceError Product := do
  match ← ofStoreResult (findById Product id db) with
  | some product => return product
  | none => .error (.productNotFound id)

/-- The wallet of an owner with a name. -/
def walletNamed (ownerId : Ident) (name : String) (db : Database) :
    Except ServiceError (Option Wallet) :=
  ofLookup (findFirst Wallet [equals "owner_id" ownerId.text, equals "name" name] none db)

/-- The product with a name. -/
def productNamed (name : String) (db : Database) : Except ServiceError (Option Product) :=
  ofLookup (findFirst Product [equals "name" name] none db)

/-- The wallet with an identifier, when it belongs to the owner. -/
def requireOwned (ownerId id : Ident) (db : Database) : Except ServiceError Wallet := do
  let wallet ← requireWallet id db
  if wallet.ownerId = ownerId then return wallet else .error (.notOwner id)

/-! ## Wallets -/

/-- Decides to open a wallet. -/
def decideCreateWallet (moment : Moment) (ownerId : Ident) (name : String) (db : Database) :
    Except ServiceError (Decision Wallet) := do
  let name ← cleanName name
  match ← walletNamed ownerId name db with
  | some _ => .error (.walletExists name)
  | none =>
      let wallet := Wallet.opened (moment.ids 0) name ownerId moment.clock
      return {
        writes := [.createWallet wallet], answer := wallet, taken := some (.walletExists name) }

/-- Decides to rename a wallet; only its owner may. -/
def decideRenameWallet (ownerId id : Ident) (name : String) (db : Database) :
    Except ServiceError (Decision Wallet) := do
  let name ← cleanName name
  let wallet ← requireOwned ownerId id db
  let clash ← walletNamed ownerId name db
  if clash.any (·.id ≠ wallet.id) then .error (.walletExists name)
  else
    let renamed := { wallet with name }
    return {
      writes := [.updateWallet renamed], answer := renamed, taken := some (.walletExists name) }

/-- Decides to remove a wallet with its entries; only its owner may. -/
def decideDeleteWallet (ownerId id : Ident) (db : Database) :
    Except ServiceError (Decision Unit) := do
  let _ ← requireOwned ownerId id db
  return { writes := [.deleteWallet id], answer := () }

/-- Opens a wallet for an owner. -/
def createWallet (moment : Moment) (ownerId : Ident) (name : String) (db : Database) :
    Outcome Wallet :=
  carryOut (decideCreateWallet moment ownerId name db) db

/-- Renames a wallet. -/
def renameWallet (ownerId id : Ident) (name : String) (db : Database) : Outcome Wallet :=
  carryOut (decideRenameWallet ownerId id name db) db

/-- Removes a wallet and every entry on it. -/
def deleteWallet (ownerId id : Ident) (db : Database) : Outcome Unit :=
  carryOut (decideDeleteWallet ownerId id db) db

/-- The wallet with an identifier. -/
def getWallet (id : Ident) (db : Database) : Except ServiceError Wallet := requireWallet id db

/-- One page of the wallets. -/
def listWallets (request : PageRequest) (filter : Filter) (sort : Option SortRule)
    (db : Database) : Except ServiceError (Page Wallet) :=
  ofLookup (findPage Wallet request filter sort db)

/-- A wallet with its entries in a window of time, newest first. -/
structure WalletHistory where
  wallet : Wallet
  start : Instant
  stop : Instant
  entries : List Entry

/-- The query for the entries of a wallet that were made from `start` on and before `stop`. -/
def historyFilter (id : Ident) (start stop : Instant) : Filter := [
  equals "wallet_id" id.text,
  ⟨"created_at", .comparison .gte, start.text⟩,
  ⟨"created_at", .comparison .lt, stop.text⟩]

/-- The entries of a wallet in a window that includes its start and not its end. -/
def walletHistory (id : Ident) (start stop : Instant) (db : Database) :
    Except ServiceError WalletHistory := do
  if stop < start then .error (.invalidQuery (.invalidValue "from" start.text .reversedWindow))
  else
    let wallet ← getWallet id db
    let entries ← ofLookup
      (findAll Entry (historyFilter id start stop) (some ⟨"created_at", .descending⟩) db)
    return { wallet, start, stop, entries }

/-! ## Products -/

/-- The clean name of a draft whose price is positive. -/
def checkDraft (draft : ProductDraft) : Except ServiceError String := do
  let name ← cleanName draft.name
  if 0 < draft.price then return name else .error (.invalidAmount .priceNotPositive)

/-- Decides to list a product. -/
def decideCreateProduct (moment : Moment) (draft : ProductDraft) (db : Database) :
    Except ServiceError (Decision Product) := do
  let name ← checkDraft draft
  match ← productNamed name db with
  | some _ => .error (.productExists name)
  | none =>
      let product := {
        Product.listed (moment.ids 0) name draft.price draft.quantity moment.clock with
        description := cleanDescription draft.description }
      return {
        writes := [.createProduct product], answer := product, taken := some (.productExists name) }

/-- The product with what a draft says. -/
def replaced (product : Product) (name : String) (draft : ProductDraft) (now : Instant) : Product :=
  { product with name, description := cleanDescription draft.description, price := draft.price }
    |>.restock draft.quantity now

/-- Decides to replace a product. -/
def decideUpdateProduct (moment : Moment) (id : Ident) (draft : ProductDraft) (db : Database) :
    Except ServiceError (Decision Product) := do
  let name ← checkDraft draft
  let product ← requireProduct id db
  let clash ← productNamed name db
  if clash.any (·.id ≠ product.id) then .error (.productExists name)
  else
    let product := replaced product name draft moment.clock
    return {
      writes := [.updateProduct product], answer := product, taken := some (.productExists name) }

/-- Decides to remove a product, whatever its row holds. -/
def decideDeleteProduct (id : Ident) (db : Database) : Except ServiceError (Decision Unit) :=
  match Table.find? (ρ := ProductRow) db id.text with
  | some _ => .ok { writes := [.deleteProduct id], answer := () }
  | none => .error (.productNotFound id)

/-- Lists a product. -/
def createProduct (moment : Moment) (draft : ProductDraft) (db : Database) : Outcome Product :=
  carryOut (decideCreateProduct moment draft db) db

/-- Replaces the name, description, price and stock of a product. -/
def updateProduct (moment : Moment) (id : Ident) (draft : ProductDraft) (db : Database) :
    Outcome Product :=
  carryOut (decideUpdateProduct moment id draft db) db

/-- Removes a product; entries that refer to it lose the reference. -/
def deleteProduct (id : Ident) (db : Database) : Outcome Unit :=
  carryOut (decideDeleteProduct id db) db

/-- The product with an identifier. -/
def getProduct (id : Ident) (db : Database) : Except ServiceError Product := requireProduct id db

/-- One page of the products. -/
def listProducts (request : PageRequest) (filter : Filter) (sort : Option SortRule)
    (db : Database) : Except ServiceError (Page Product) :=
  ofLookup (findPage Product request filter sort db)

end Purse.Service
