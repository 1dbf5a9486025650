/-
  Purse.Service.Call

  The operations that may change the store, as values, and runs of them.  A run starts
  from a database and carries out one call after the other, each in its own moment;
  a state is reachable when an orderly run from the fresh database ends in it.
-/
import Purse.Service.Ledger

namespace Purse.Service

open Store

/-- An operation with its arguments. -/
inductive Call where
  | createWallet (ownerId : Ident) (name : String)
  | renameWallet (ownerId id : Ident) (name : String)
  | deleteWallet (ownerId id : Ident)
  | createProduct (draft : ProductDraft)
  | updateProduct (id : Ident) (draft : ProductDraft)
  | deleteProduct (id : Ident)
  | credit (request : CreditRequest)
  | transfer (request : TransferRequest)
  | purchase (request : PurchaseRequest)
  deriving DecidableEq

/-- What an operation answers. -/
inductive Answer where
  | wallet (wallet : Wallet)
  | product (product : Product)
  | entry (entry : Entry)
  | transfer (receipt : TransferReceipt)
  | done
  deriving DecidableEq

/-- An outcome with another answer. -/
def Outcome.map (f : α → β) (outcome : Outcome α) : Outcome β :=
  { outcome with result := outcome.result.map f }

/-- Carries out a call. -/
def runCall (call : Call) (moment : Moment) (db : Database) : Outcome Answer :=
  match call with
  | .createWallet ownerId name => (createWallet moment ownerId name db).map .wallet
  | .renameWallet ownerId id name => (renameWallet ownerId id name db).map .wallet
  | .deleteWallet ownerId id => (deleteWallet ownerId id db).map fun _ => .done
  | .createProduct draft => (createProduct moment draft db).map .product
  | .updateProduct id draft => (updateProduct moment id draft db).map .product
  | .deleteProduct id => (deleteProduct id db).map fun _ => .done
  | .credit request => (credit moment request db).map .entry
  | .transfer request => (transfer moment request db).map .transfer
  | .purchase request => (purchase moment request db).map .entry

/-- The database after calls in their moments. -/
def runCalls : List (Call × Moment) → Database → Database
  | [], db => db
  | (call, moment) :: calls, db => runCalls calls (runCall call moment db).database

/-- Calls in moments that can follow each other: every clock shows a time in a plain year, and
    no identifier is handed out twice. -/
structure Orderly (calls : List (Call × Moment)) : Prop where
  clocks : ∀ c ∈ calls, c.2.clock.WellFormed ∧ c.2.clock.InPlainYear
  idents : (calls.flatMap fun c => [c.2.ids 0, c.2.ids 1]).Nodup

/-- True of the databases that orderly runs from the fresh one end in. -/
def Reachable (db : Database) : Prop :=
  ∃ calls, Orderly calls ∧ runCalls calls Database.fresh = db

end Purse.Service
