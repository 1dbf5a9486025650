/-
  Purse.Service.Change

  How an operation changes the store.  An operation first decides: it reads, checks its
  rules, and ends in a rejection or in a list of writes with an answer.  Then the writes
  are carried out in one scope: either all of them take effect, or none does.

  New records take their identifiers from the surroundings, in the order in which they
  are written.
-/
import Purse.Service.Error

namespace Purse.Service

open Store

/-- What an operation takes from its surroundings: the time, and identifiers that are not in
    use. -/
structure Moment where
  clock : Instant
  ids : Nat → Ident

/-- The time as the ledger keeps it: to the whole second. -/
def Moment.now (moment : Moment) : Instant := moment.clock.truncate

/-- The identifiers after the first `n`. -/
def Moment.after (moment : Moment) (n : Nat) : Moment :=
  { moment with ids := fun i => moment.ids (n + i) }

/-- A write that an operation asks for. -/
inductive Write where
  | createWallet (wallet : Wallet)
  | updateWallet (wallet : Wallet)
  | deleteWallet (id : Ident)
  | createProduct (product : Product)
  | updateProduct (product : Product)
  | deleteProduct (id : Ident)
  | createEntry (entry : Entry)
  deriving DecidableEq

/-- Forgets the answer of a write. -/
def settle : Except StoreError α × Database → Except StoreError Database
  | (.ok _, db) => .ok db
  | (.error e, _) => .error e

/-- Carries out one write. -/
def Write.run (write : Write) (db : Database) : Except StoreError Database :=
  match write with
  | .createWallet wallet => settle (create wallet db)
  | .updateWallet wallet => settle (update wallet db)
  | .deleteWallet id => .ok (delete WalletRow id db).2
  | .createProduct product => settle (create product db)
  | .updateProduct product => settle (update product db)
  | .deleteProduct id => .ok (delete ProductRow id db).2
  | .createEntry entry => settle (create entry db)

/-- The identifiers that a write takes. -/
def Write.draws : Write → Nat
  | .createWallet _ | .createProduct _ | .createEntry _ => 1
  | _ => 0

/-- Carries out writes up to the first that fails. -/
def runWrites : List Write → Database → Except StoreError Database
  | [], db => .ok db
  | write :: writes, db => do runWrites writes (← write.run db)

/-- The identifiers taken by the writes up to and with the first that fails. -/
def drawnBy : List Write → Database → Nat
  | [], _ => 0
  | write :: writes, db =>
      match write.run db with
      | .ok db => write.draws + drawnBy writes db
      | .error _ => write.draws

/-- What an operation decided to do. -/
structure Decision (α : Type) where
  writes : List Write
  answer : α
  /-- The rejection when a write meets a value that is already taken, if the operation has
      one of its own for that. -/
  taken : Option ServiceError := none

/-- How an operation ended, the database that it left, and the number of identifiers it
    took. -/
structure Outcome (α : Type) where
  result : Except ServiceError α
  database : Database
  drawn : Nat

/-- The rejection for a write that failed. -/
def Decision.rejection (decision : Decision α) (error : StoreError) : ServiceError :=
  match decision.taken with
  | some taken => if error.isUnique then taken else .store error
  | none => .store error

/-- Carries out a decision in one scope. -/
def Decision.carryOut (decision : Decision α) (db : Database) : Outcome α :=
  let drawn := drawnBy decision.writes db
  match runWrites decision.writes db with
  | .ok after => ⟨.ok decision.answer, after, drawn⟩
  | .error error => ⟨.error (decision.rejection error), db, drawn⟩

/-- Carries out what was decided; a rejection changes nothing. -/
def carryOut (decided : Except ServiceError (Decision α)) (db : Database) : Outcome α :=
  match decided with
  | .ok decision => decision.carryOut db
  | .error error => ⟨.error error, db, 0⟩

/-- An operation that ends in a rejection leaves the database as it was. -/
theorem database_carryOut_of_error {decided : Except ServiceError (Decision α)} {db : Database}
    {error : ServiceError} (h : (carryOut decided db).result = .error error) :
    (carryOut decided db).database = db := by
  unfold carryOut at h ⊢
  split at h
  · unfold Decision.carryOut at h ⊢
    split at h
    · simp at h
    · simp
  · rfl

end Purse.Service
