/-
  Purse.Store.Archive

  A database as a value of the exchange format, for keeping it in a file.  A row is the
  list of its cells in the declared order of its columns; a double is written as the
  numeral of its units.
-/
import Purse.Json.Reader
import Purse.Store.Schema

namespace Purse.Store

open Text

/-- A cell as a value. -/
def cellToJson : Cell → Json
  | .null => .null
  | .integer n => .integer n
  | .real n => .object [("real", .text (String.ofList (integerNumeral n)))]
  | .text s => .text s

/-- The cell of a value. -/
def cellOfJson? : Json → Option Cell
  | .null => some .null
  | .integer n => some (.integer n)
  | .object [("real", .text s)] => (integer? s.toList).map .real
  | .text s => some (.text s)
  | _ => none

/-- The rows of a table as a value. -/
def rowsToJson [Table ρ] (rows : List ρ) : Json :=
  .list (rows.map fun row => .list ((Table.cells row).map fun cell => cellToJson cell.2))

/-- A link as a value. -/
def Link.toJson (link : Link) : Json :=
  .list [.text link.table, .text link.owner, .text link.target]

/-- A database as a value. -/
def Database.toJson (db : Database) : Json :=
  .object [
    ("wallets", rowsToJson db.wallets),
    ("products", rowsToJson db.products),
    ("transactions", rowsToJson db.entries),
    ("wallet_groups", rowsToJson db.groups),
    ("links", .list (db.links.map Link.toJson))]

/-- A text that may be absent. -/
def openText? : Json → Option (Option String)
  | .null => some none
  | .text s => some (some s)
  | _ => none

def WalletRow.ofJson? : Json → Option WalletRow
  | .list [.text id, .text name, .text ownerId, balance, lastMovedAt, .text createdAt] =>
      return ⟨id, name, ownerId, ← cellOfJson? balance, ← openText? lastMovedAt, createdAt⟩
  | _ => none

def ProductRow.ofJson? : Json → Option ProductRow
  | .list [.text id, .text name, description, price, quantity, available, .text createdAt,
      .text updatedAt] =>
      return ⟨id, name, ← openText? description, ← cellOfJson? price, ← cellOfJson? quantity,
        ← cellOfJson? available, createdAt, updatedAt⟩
  | _ => none

def EntryRow.ofJson? : Json → Option EntryRow
  | .list [.text id, .text kind, .text direction, amount, .text description, .text walletId,
      productId, counterpartyId, .text createdAt] =>
      return ⟨id, kind, direction, ← cellOfJson? amount, description, walletId,
        ← openText? productId, ← openText? counterpartyId, createdAt⟩
  | _ => none

def GroupRow.ofJson? : Json → Option GroupRow
  | .list [id, .text name] => return ⟨← openText? id, name⟩
  | _ => none

def Link.ofJson? : Json → Option Link
  | .list [.text table, .text owner, .text target] => some ⟨table, owner, target⟩
  | _ => none

/-- The items of a list, each read in the same way. -/
def readItems? (read : Json → Option α) : Json → Option (List α)
  | .list items => items.mapM read
  | _ => none

/-- The database of a value. -/
def Database.ofJson? : Json → Option Database
  | .object [("wallets", wallets), ("products", products), ("transactions", entries),
      ("wallet_groups", groups), ("links", links)] =>
      return ⟨← readItems? WalletRow.ofJson? wallets, ← readItems? ProductRow.ofJson? products,
        ← readItems? EntryRow.ofJson? entries, ← readItems? GroupRow.ofJson? groups,
        ← readItems? Link.ofJson? links⟩
  | _ => none

end Purse.Store
