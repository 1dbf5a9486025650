/-
  Purse.Product

  Products: items on sale with a price and a stock.  The `available` flag follows the
  stock: every change of the quantity sets it again.
-/
import Purse.Ident
import Purse.Instant
import Purse.Money

namespace Purse

/-- A number of units of a product. -/
abbrev Quantity := UInt32

/-- An item that wallets can buy. -/
structure Product where
  id : Ident
  name : String
  description : Option String
  /-- The price of one unit. -/
  price : Cents
  /-- The units in stock. -/
  quantity : Quantity
  /-- Whether any unit is in stock. -/
  available : Bool
  createdAt : Instant
  updatedAt : Instant
  deriving DecidableEq

namespace Product

/-- A new product without a description. -/
def listed (id : Ident) (name : String) (price : Cents) (quantity : Quantity)
    (now : Instant) : Product :=
  { id, name, description := none, price, quantity, available := 0 < quantity,
    createdAt := now.truncate, updatedAt := now.truncate }

/-- The product with a description. -/
def withDescription (product : Product) (description : String) : Product :=
  { product with description := some description }

/-- The product with another stock; availability follows. -/
def restock (product : Product) (quantity : Quantity) (now : Instant) : Product :=
  { product with quantity, available := 0 < quantity, updatedAt := now.truncate }

/-- True when the stock holds `requested` units and is open for sale. -/
def canSupply (product : Product) (requested : Quantity) : Bool :=
  product.available && 1 ≤ product.quantity && requested ≤ product.quantity

/-- The price of `requested` units, when it can be stored. -/
def totalFor? (product : Product) (requested : Quantity) : Option Cents :=
  Cents.times? product.price requested.toNat

/-- The units left after `requested` are taken; never less than none. -/
def remaining (product : Product) (requested : Quantity) : Quantity :=
  if requested ≤ product.quantity then product.quantity - requested else 0

/-- The product after `requested` units left the stock. -/
def take (product : Product) (requested : Quantity) (now : Instant) : Product :=
  product.restock (product.remaining requested) now

/-- True when the flag says what the quantity says. -/
def isConsistent (product : Product) : Bool :=
  product.available == decide (0 < product.quantity)

/-- Every change of the stock leaves the flag in step. -/
theorem isConsistent_restock (p : Product) (quantity : Quantity) (now : Instant) :
    (p.restock quantity now).isConsistent = true :=
  beq_self_eq_true (decide (0 < quantity))

theorem isConsistent_listed (id : Ident) (name : String) (price : Cents) (quantity : Quantity)
    (now : Instant) : (listed id name price quantity now).isConsistent = true :=
  beq_self_eq_true (decide (0 < quantity))

/-- Taking what is there leaves the difference. -/
theorem toNat_remaining {p : Product} {requested : Quantity} (h : requested ≤ p.quantity) :
    (p.remaining requested).toNat = p.quantity.toNat - requested.toNat := by
  rw [remaining, if_pos h, UInt32.toNat_sub_of_le _ _ h]

end Product

end Purse
