/-
  Purse.Request

  What callers ask of the ledger, apart from plain identifiers and names.
-/
import Purse.Product

namespace Purse

/-- Add money to a wallet from outside the ledger. -/
structure CreditRequest where
  walletId : Ident
  amount : Cents
  deriving DecidableEq

/-- Move money between two wallets. -/
structure TransferRequest where
  senderId : Ident
  receiverId : Ident
  amount : Cents
  deriving DecidableEq

/-- Buy units of a product with the balance of a wallet. -/
structure PurchaseRequest where
  walletId : Ident
  productId : Ident
  quantity : Quantity
  deriving DecidableEq

/-- The fields of a product that is created or replaced. -/
structure ProductDraft where
  name : String
  description : Option String
  price : Cents
  quantity : Quantity
  deriving DecidableEq

end Purse
