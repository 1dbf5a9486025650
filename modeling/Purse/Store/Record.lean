/-
  Purse.Store.Record

  The records that are kept in tables, and how each becomes a row and is read back.
  Writing keeps instants to the whole second.  Reading looks at the columns in
  their declared order and stops at the first that does not hold what the record
  needs; rows written through `toRow` always can be read.
-/
import Purse.Entry
import Purse.Group
import Purse.Ident.Fault
import Purse.Instant.Reader
import Purse.Query.Plan
import Purse.Store.Schema
import Purse.Wallet

namespace Purse.Store

open Query

/-- Why a row is no record. -/
inductive DecodeFault where
  | ident (column : String)
  /-- An identifier that says itself what is wrong with it. -/
  | identText (fault : IdentFault)
  | instant (column : String)
  | number (column : String)
  | quantity
  | kind (word : String)
  | direction (word : String)
  deriving DecidableEq, Repr

/-- The message of a row that is no record. -/
def DecodeFault.message : DecodeFault → String
  | .ident column => "Invalid " ++ column
  | .identText fault => fault.message
  | .instant column => "Invalid " ++ column ++ " timestamp"
  | .number column => "Invalid " ++ column ++ " number"
  | .quantity => "Invalid product quantity"
  | .kind word => "Invalid transaction kind: " ++ word
  | .direction word => "Invalid transaction direction: " ++ word

/-- The links of one link table that a record owns. -/
structure LinkSet where
  table : String
  targets : List Ident
  deriving DecidableEq

/-- A record with its row. -/
class Record (α : Type) (ρ : outParam Type) [Table ρ] where
  /-- What messages call the record. -/
  entity : String
  /-- The columns that callers may filter and sort on. -/
  fields : List Field
  /-- The record's identifier; its text is the row's key. -/
  ident : α → Ident
  /-- The row of a record. -/
  toRow : α → ρ
  /-- The record of a row. -/
  ofRow : ρ → Except DecodeFault α
  /-- The links that the record owns. -/
  links : α → List LinkSet := fun _ => []

/-! ## Columns -/

/-- Reads an identifier column. -/
def readIdent (column s : String) : Except DecodeFault Ident :=
  match Ident.ofText? s with
  | some id => .ok id
  | none => .error (.ident column)

/-- Reads the identifier of a group. -/
def readGroupIdent : Option String → Except DecodeFault Ident
  | none => .error (.ident "id")
  | some s => match Ident.ofText? s with
    | some id => .ok id
    | none => .error (.identText (Ident.fault s))

/-- Reads an instant column. -/
def readInstant (column s : String) : Except DecodeFault Instant :=
  match Instant.ofStored? s with
  | some t => .ok t
  | none => .error (.instant column)

/-- Reads a column that may be empty. -/
def readOptional (read : String → Except DecodeFault α) :
    Option String → Except DecodeFault (Option α)
  | none => .ok none
  | some s => (read s).map some

/-- Reads a number column. -/
def readNumber (column : String) : Cell → Except DecodeFault Int
  | .integer n => .ok n
  | _ => .error (.number column)

/-- Reads a stored quantity. -/
def readQuantity (n : Int) : Except DecodeFault Quantity :=
  if 0 ≤ n ∧ n < UInt32.size then .ok (UInt32.ofNat n.toNat) else .error .quantity

/-- Reads the word for a kind; its case does not matter. -/
def readKind (word : String) : Except DecodeFault EntryKind :=
  match EntryKind.parse? word with
  | some kind => .ok kind
  | none => .error (.kind word)

/-- Reads the word for a direction; its case does not matter. -/
def readDirection (word : String) : Except DecodeFault Direction :=
  match Direction.parse? word with
  | some direction => .ok direction
  | none => .error (.direction word)

/-! ## Records -/

instance : Record Wallet WalletRow where
  entity := "wallet"
  fields := [
    ⟨"id", .ident⟩, ⟨"name", .text⟩, ⟨"owner_id", .ident⟩, ⟨"balance", .money⟩,
    ⟨"last_transaction_at", .instant⟩, ⟨"created_at", .instant⟩]
  ident := Wallet.id
  toRow wallet := {
    id := wallet.id.text, name := wallet.name, ownerId := wallet.ownerId.text
    balance := .integer wallet.balance, lastMovedAt := wallet.lastMovedAt.map Instant.text
    createdAt := wallet.createdAt.text }
  ofRow row := do
    let id ← readIdent "id" row.id
    let ownerId ← readIdent "owner_id" row.ownerId
    let balance ← readNumber "balance" row.balance
    let lastMovedAt ← readOptional (readInstant "last_transaction_at") row.lastMovedAt
    let createdAt ← readInstant "created_at" row.createdAt
    return { id, name := row.name, ownerId, balance, lastMovedAt, createdAt }

instance : Record Product ProductRow where
  entity := "product"
  fields := [
    ⟨"id", .ident⟩, ⟨"name", .text⟩, ⟨"description", .text⟩, ⟨"price", .money⟩,
    ⟨"quantity", .integer⟩, ⟨"available", .bool⟩, ⟨"created_at", .instant⟩,
    ⟨"updated_at", .instant⟩]
  ident := Product.id
  toRow product := {
    id := product.id.text, name := product.name, description := product.description
    price := .integer product.price, quantity := .integer product.quantity.toNat
    available := .ofBool product.available
    createdAt := product.createdAt.text, updatedAt := product.updatedAt.text }
  ofRow row := do
    let id ← readIdent "id" row.id
    let price ← readNumber "price" row.price
    let quantity ← readQuantity (← readNumber "quantity" row.quantity)
    let available ← readNumber "available" row.available
    let createdAt ← readInstant "created_at" row.createdAt
    let updatedAt ← readInstant "updated_at" row.updatedAt
    return {
      id, name := row.name, description := row.description, price, quantity
      available := available ≠ 0, createdAt, updatedAt }

instance : Record Entry EntryRow where
  entity := "transaction"
  fields := [
    ⟨"id", .ident⟩, ⟨"kind", .text⟩, ⟨"direction", .text⟩, ⟨"amount", .money⟩,
    ⟨"description", .text⟩, ⟨"wallet_id", .ident⟩, ⟨"product_id", .ident⟩,
    ⟨"counterparty_wallet_id", .ident⟩, ⟨"created_at", .instant⟩]
  ident := Entry.id
  toRow entry := {
    id := entry.id.text, kind := entry.kind.word, direction := entry.direction.word
    amount := .integer entry.amount, description := entry.description
    walletId := entry.walletId.text, productId := entry.productId.map Ident.text
    counterpartyId := entry.counterpartyId.map Ident.text, createdAt := entry.createdAt.text }
  ofRow row := do
    let id ← readIdent "id" row.id
    let kind ← readKind row.kind
    let direction ← readDirection row.direction
    let amount ← readNumber "amount" row.amount
    let walletId ← readIdent "wallet_id" row.walletId
    let productId ← readOptional (readIdent "product_id") row.productId
    let counterpartyId ← readOptional (readIdent "counterparty_wallet_id") row.counterpartyId
    let createdAt ← readInstant "created_at" row.createdAt
    return {
      id, kind, direction, amount, description := row.description, walletId, productId
      counterpartyId, createdAt }

/-- A group is read back without its members, which are links. -/
instance : Record Group GroupRow where
  entity := "group"
  fields := [⟨"id", .ident⟩, ⟨"name", .text⟩]
  ident := Group.id
  toRow group := { id := some group.id.text, name := group.name }
  ofRow row := do
    let id ← readGroupIdent row.id
    return { id, name := row.name, members := [] }
  links group := [⟨"wallet_group_members", group.members⟩]

end Purse.Store
