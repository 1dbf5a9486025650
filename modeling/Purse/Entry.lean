/-
  Purse.Entry

  Ledger entries.  An entry records one movement of money on one wallet and is never
  changed afterwards; a transfer is recorded as two entries, one on each wallet.
  The amount is positive, and the direction gives it its sign.
-/
import Purse.Ident
import Purse.Instant
import Purse.Money
import Purse.Product
import Purse.Text.Lowercase

namespace Purse

open Text

/-- What moved the money. -/
inductive EntryKind where
  /-- Money from outside the ledger. -/
  | income
  /-- Money paid for a product. -/
  | expense
  /-- Money moved between two wallets. -/
  | transfer
  deriving DecidableEq, Repr

/-- Which way the money moved, seen from the wallet. -/
inductive Direction where
  | inward
  | outward
  deriving DecidableEq, Repr

/-- The stored word for a kind. -/
def EntryKind.word : EntryKind → String
  | .income => "income"
  | .expense => "expense"
  | .transfer => "transfer"

/-- The kind of a stored word. -/
def EntryKind.ofWord? : String → Option EntryKind
  | "income" => some .income
  | "expense" => some .expense
  | "transfer" => some .transfer
  | _ => none

/-- The kind that a text names in any case. -/
def EntryKind.parse? (s : String) : Option EntryKind := EntryKind.ofWord? (lower s)

/-- The stored word for a direction. -/
def Direction.word : Direction → String
  | .inward => "in"
  | .outward => "out"

/-- The direction of a stored word. -/
def Direction.ofWord? : String → Option Direction
  | "in" => some .inward
  | "out" => some .outward
  | _ => none

/-- The direction that a text names in any case. -/
def Direction.parse? (s : String) : Option Direction := Direction.ofWord? (lower s)

/-- One movement of money on one wallet. -/
structure Entry where
  id : Ident
  kind : EntryKind
  direction : Direction
  amount : Cents
  description : String
  walletId : Ident
  /-- The product that was bought, on purchases only. -/
  productId : Option Ident
  /-- The other wallet of a transfer. -/
  counterpartyId : Option Ident
  createdAt : Instant
  deriving DecidableEq

namespace Entry

/-- The amount with the sign that it adds to the wallet's balance. -/
def signedAmount (entry : Entry) : Cents :=
  match entry.direction with
  | .inward => entry.amount
  | .outward => -entry.amount

/-- The entry itself, when its amount is positive. -/
def positive? (entry : Entry) : Option Entry := if 0 < entry.amount then some entry else none

/-- Money that came from outside the ledger. -/
def credit? (id walletId : Ident) (amount : Cents) (now : Instant) : Option Entry :=
  positive? {
    id, walletId, amount, createdAt := now
    kind := .income, direction := .inward
    description := "Credit of " ++ Cents.text amount
    productId := none, counterpartyId := none }

/-- The sender's side of a transfer. -/
def transferOut? (id senderId receiverId : Ident) (receiverName : String) (amount : Cents)
    (now : Instant) : Option Entry :=
  positive? {
    id, walletId := senderId, amount, createdAt := now
    kind := .transfer, direction := .outward
    description := "Transfer to: " ++ receiverName
    productId := none, counterpartyId := some receiverId }

/-- The receiver's side of a transfer. -/
def transferIn? (id receiverId senderId : Ident) (senderName : String) (amount : Cents)
    (now : Instant) : Option Entry :=
  positive? {
    id, walletId := receiverId, amount, createdAt := now
    kind := .transfer, direction := .inward
    description := "Transfer from: " ++ senderName
    productId := none, counterpartyId := some senderId }

/-- The expense of buying `quantity` units of a product for `total`. -/
def purchase? (id walletId productId : Ident) (productName : String) (quantity : Quantity)
    (total : Cents) (now : Instant) : Option Entry :=
  positive? {
    id, walletId, amount := total, createdAt := now
    kind := .expense, direction := .outward
    description := "Buying " ++ productName ++ ", quantity: " ++
      String.ofList (numeral quantity.toNat) ++ " for " ++ Cents.text total
    productId := some productId, counterpartyId := none }

theorem positive?_eq_some {entry e : Entry} :
    entry.positive? = some e ↔ 0 < entry.amount ∧ entry = e := by
  simp [positive?]

end Entry

end Purse
