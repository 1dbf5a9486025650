/-
  Purse.Store.Row

  The stored form of the records, and the database that holds them.  A row keeps what
  its columns keep: identifiers and instants as text, and in the columns of amounts,
  quantities and flags whatever cell a writer left there.  Every table lists its rows in
  the order in which they were inserted.
-/
import Purse.Cell

namespace Purse.Store

/-- A stored wallet. -/
structure WalletRow where
  id : String
  name : String
  ownerId : String
  balance : Cell
  lastMovedAt : Option String
  createdAt : String
  deriving DecidableEq, Repr

/-- A stored product. -/
structure ProductRow where
  id : String
  name : String
  description : Option String
  price : Cell
  quantity : Cell
  available : Cell
  createdAt : String
  updatedAt : String
  deriving DecidableEq, Repr

/-- A stored entry. -/
structure EntryRow where
  id : String
  kind : String
  direction : String
  amount : Cell
  description : String
  walletId : String
  productId : Option String
  counterpartyId : Option String
  createdAt : String
  deriving DecidableEq, Repr

/-- A stored group. Its key may be missing; such a group is found by no key. -/
structure GroupRow where
  id : Option String
  name : String
  deriving DecidableEq, Repr

/-- A row of a link table: `owner` is linked to `target`. -/
structure Link where
  table : String
  owner : String
  target : String
  deriving DecidableEq, Repr

/-- Everything that is stored. -/
structure Database where
  wallets : List WalletRow
  products : List ProductRow
  entries : List EntryRow
  groups : List GroupRow
  links : List Link
  deriving DecidableEq, Repr

/-- A database with empty tables. -/
def Database.fresh : Database := ⟨[], [], [], [], []⟩

instance : Inhabited Database := ⟨Database.fresh⟩

end Purse.Store
