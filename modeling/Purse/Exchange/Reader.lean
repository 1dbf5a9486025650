/-
  Purse.Exchange.Reader

  Reading records from the exchange format.  A record is an object, or a list of its
  fields in their order.  In an object unknown members are passed over, every
  field may stand once only, and a field that may be absent may also be left out.
-/
import Purse.Entry
import Purse.Instant.Reader
import Purse.Json.Reader
import Purse.Request
import Purse.Wallet

namespace Purse

/-! ## Records -/

/-- A declared field of a record. -/
structure Member where
  name : String
  /-- Whether the field may be left out. -/
  optional : Bool

/-- A field that has to be there. -/
def Member.required (name : String) : Member := ⟨name, false⟩

/-- A field that may be left out. -/
def Member.absentable (name : String) : Member := ⟨name, true⟩

namespace Json

/-- The value of a declared field among the members of an object. -/
def member? (members : List (String × Json)) (field : Member) : Option Json :=
  match members.filter (·.1 = field.name) with
  | [] => if field.optional then some .null else none
  | [(_, value)] => some value
  | _ => none

/-- The values of a record's fields, in their declared order. -/
def fieldValues? (fields : List Member) : Json → Option (List Json)
  | .object members => fields.mapM (member? members)
  | .list items => if items.length = fields.length then some items else none
  | _ => none

/-! ## Values -/

def asText? : Json → Option String
  | .text s => some s
  | _ => none

def asBool? : Json → Option Bool
  | .bool b => some b
  | _ => none

def asIdent? (value : Json) : Option Ident := value.asText?.bind Ident.ofText?

def asInstant? (value : Json) : Option Instant := value.asText?.bind Instant.ofExchange?

/-- An amount: an integer that can be stored. -/
def asCents? : Json → Option Cents
  | .integer n => Cents.checked? n
  | _ => none

/-- A quantity: a natural number below 2^32. -/
def asQuantity? : Json → Option Quantity
  | .integer n => if 0 ≤ n ∧ n < UInt32.size then some (UInt32.ofNat n.toNat) else none
  | _ => none

/-- A value that may be null. -/
def asOptional? (read : Json → Option α) : Json → Option (Option α)
  | .null => some none
  | value => (read value).map some

/-- One of a set of words, written as a text or as the one key of an object that holds
    null. -/
def asWord? (read : String → Option α) : Json → Option α
  | .text s => read s
  | .object [(key, .null)] => read key
  | _ => none

end Json

open Json

def Wallet.ofJson? (value : Json) : Option Wallet := do
  let fields := [
    .required "id", .required "name", .required "owner_id", .required "balance",
    .absentable "last_transaction_at", .required "created_at"]
  match ← fieldValues? fields value with
  | [id, name, ownerId, balance, lastMovedAt, createdAt] =>
      return {
        id := ← asIdent? id, name := ← asText? name, ownerId := ← asIdent? ownerId
        balance := ← asCents? balance
        lastMovedAt := ← asOptional? asInstant? lastMovedAt
        createdAt := ← asInstant? createdAt }
  | _ => none

def Product.ofJson? (value : Json) : Option Product := do
  let fields := [
    .required "id", .required "name", .absentable "description", .required "price",
    .required "quantity", .required "available", .required "created_at", .required "updated_at"]
  match ← fieldValues? fields value with
  | [id, name, description, price, quantity, available, createdAt, updatedAt] =>
      return {
        id := ← asIdent? id, name := ← asText? name
        description := ← asOptional? asText? description
        price := ← asCents? price, quantity := ← asQuantity? quantity
        available := ← asBool? available
        createdAt := ← asInstant? createdAt, updatedAt := ← asInstant? updatedAt }
  | _ => none

def Entry.ofJson? (value : Json) : Option Entry := do
  let fields := [
    .required "id", .required "kind", .required "direction", .required "amount",
    .required "description", .required "wallet_id", .absentable "product_id",
    .absentable "counterparty_wallet_id", .required "created_at"]
  match ← fieldValues? fields value with
  | [id, kind, direction, amount, description, walletId, productId, counterpartyId, createdAt] =>
      return {
        id := ← asIdent? id, kind := ← asWord? EntryKind.ofWord? kind
        direction := ← asWord? Direction.ofWord? direction
        amount := ← asCents? amount, description := ← asText? description
        walletId := ← asIdent? walletId
        productId := ← asOptional? asIdent? productId
        counterpartyId := ← asOptional? asIdent? counterpartyId
        createdAt := ← asInstant? createdAt }
  | _ => none

def CreditRequest.ofJson? (value : Json) : Option CreditRequest := do
  match ← fieldValues? [.required "wallet_id", .required "amount"] value with
  | [walletId, amount] => return ⟨← asIdent? walletId, ← asCents? amount⟩
  | _ => none

def TransferRequest.ofJson? (value : Json) : Option TransferRequest := do
  let fields := [
    .required "sender_wallet_id", .required "receiver_wallet_id", .required "amount"]
  match ← fieldValues? fields value with
  | [senderId, receiverId, amount] =>
      return ⟨← asIdent? senderId, ← asIdent? receiverId, ← asCents? amount⟩
  | _ => none

def PurchaseRequest.ofJson? (value : Json) : Option PurchaseRequest := do
  let fields := [.required "wallet_id", .required "product_id", .required "quantity"]
  match ← fieldValues? fields value with
  | [walletId, productId, quantity] =>
      return ⟨← asIdent? walletId, ← asIdent? productId, ← asQuantity? quantity⟩
  | _ => none

def ProductDraft.ofJson? (value : Json) : Option ProductDraft := do
  let fields := [
    .required "name", .absentable "description", .required "price", .required "quantity"]
  match ← fieldValues? fields value with
  | [name, description, price, quantity] =>
      return {
        name := ← asText? name, description := ← asOptional? asText? description
        price := ← asCents? price, quantity := ← asQuantity? quantity }
  | _ => none

end Purse
