/-
  Purse.Service.Error

  Why an operation is rejected, its message, and the coarse kind that callers go by.
-/
import Purse.Product
import Purse.Store.Repository

namespace Purse.Service

open Query Store Text

/-- What a caller needs to know of a rejection. -/
inductive ErrorKind where
  /-- Something named in the request does not exist. -/
  | notFound
  /-- The request itself makes no sense. -/
  | invalidArgument
  /-- A rule of the ledger forbids the operation. -/
  | permissionDenied
  /-- The store failed. -/
  | internal
  deriving DecidableEq, Repr

/-- Why an amount is refused. -/
inductive AmountFault where
  | notPositive
  | priceNotPositive
  | balanceOverflow
  | totalOverflow
  /-- An amount of a command line that cannot be read. -/
  | unreadable (raw : String) (error : MoneyError)
  deriving DecidableEq, Repr

/-- The reason that a message gives. -/
def AmountFault.reason : AmountFault → String
  | .notPositive => "amount must be greater than zero"
  | .priceNotPositive => "price must be greater than zero"
  | .balanceOverflow => "balance would overflow"
  | .totalOverflow => "purchase total overflows"
  | .unreadable raw error => "'" ++ raw ++ "' (" ++ error.message ++ "). Use '50.00' or '50'"

/-- Why an operation is rejected. -/
inductive ServiceError where
  | walletNotFound (id : Ident)
  | productNotFound (id : Ident)
  | entryNotFound (id : Ident)
  | invalidAmount (fault : AmountFault)
  | quantityNotPositive
  | emptyName
  | sameWallet (id : Ident)
  | invalidQuery (error : QueryError)
  | insufficientFunds (walletName : String) (balance required : Cents)
  | productUnavailable (name : String) (requested inStock : Quantity)
  /-- A purchase names a product that does not exist. -/
  | unknownProduct (id : Ident)
  | notOwner (id : Ident)
  | walletExists (name : String)
  | productExists (name : String)
  | store (error : StoreError)
  /-- An entry was about to be made for an amount that is not positive. -/
  | entryNotPositive
  deriving DecidableEq

/-- The kind of a rejection. -/
def ServiceError.kind : ServiceError → ErrorKind
  | .walletNotFound _ | .productNotFound _ | .entryNotFound _ => .notFound
  | .invalidAmount _ | .quantityNotPositive | .emptyName | .sameWallet _ | .invalidQuery _ =>
      .invalidArgument
  | .insufficientFunds .. | .productUnavailable .. | .unknownProduct _ | .notOwner _
  | .walletExists _ | .productExists _ => .permissionDenied
  | .store _ | .entryNotPositive => .internal

/-- A quantity as a numeral. -/
def quantityText (q : Quantity) : String := String.ofList (numeral q.toNat)

/-- The message of a rejection. -/
def ServiceError.message : ServiceError → String
  | .walletNotFound id => "Wallet not found: " ++ id.text
  | .productNotFound id => "Product not found: " ++ id.text
  | .entryNotFound id => "Transaction not found: " ++ id.text
  | .invalidAmount fault => "Invalid amount: " ++ fault.reason
  | .quantityNotPositive => "Invalid quantity: quantity must be greater than zero"
  | .emptyName => "Invalid name: name cannot be empty"
  | .sameWallet id => "Cannot transfer from a wallet to itself: " ++ id.text
  | .invalidQuery error => error.message
  | .insufficientFunds walletName balance required =>
      walletName ++ " does not have enough balance. Balance: " ++ Cents.text balance ++
        ", required: " ++ Cents.text required
  | .productUnavailable name requested inStock =>
      "Product " ++ name ++ " does not have enough quantity or is unavailable (requested " ++
        quantityText requested ++ ", in stock " ++ quantityText inStock ++ ")"
  | .unknownProduct id => "Product does not exist: " ++ id.text
  | .notOwner id => "Wallet " ++ id.text ++ " belongs to another user"
  | .walletExists name => "Wallet already exists: " ++ name
  | .productExists name => "Product already exists: " ++ name
  | .store error => "Database error: " ++ error.message
  | .entryNotPositive => "Transaction amount must be positive"

/-- A failed look-up as a rejection. -/
def ofLookup (result : Except LookupError α) : Except ServiceError α :=
  match result with
  | .ok a => .ok a
  | .error (.query error) => .error (.invalidQuery error)
  | .error (.store error) => .error (.store error)

/-- A failure of the store as a rejection. -/
def ofStoreResult (result : Except StoreError α) : Except ServiceError α :=
  match result with
  | .ok a => .ok a
  | .error error => .error (.store error)

end Purse.Service
