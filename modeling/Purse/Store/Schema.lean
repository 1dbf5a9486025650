/-
  Purse.Store.Schema

  The tables and their constraints.  A balance is never negative, a price and an amount
  are positive, and a product's flag says whether its quantity is positive.  Names
  are unique: a wallet's among the wallets of its owner, a product's among all
  products.  An entry belongs to a stored wallet and goes when the wallet goes; it
  may refer to a stored product and loses the reference when the product goes.
-/
import Purse.Store.Column
import Purse.Store.Table

namespace Purse.Store

instance : Table WalletRow where
  name := "wallets"
  rows := Database.wallets
  withRows db rows := { db with wallets := rows }
  key row := some row.id
  columns := ["id", "name", "owner_id", "balance", "last_transaction_at", "created_at"]
  values row := [
    .text row.id, .text row.name, .text row.ownerId, row.balance, .ofText? row.lastMovedAt,
    .text row.createdAt]
  layout := ⟨5, 1, [⟨["owner_id"], false⟩, ⟨["owner_id", "name"], true⟩, ⟨["id"], true⟩]⟩
  put? row column value := match column with
    | "id" => (textValue? value).map fun v => { row with id := v }
    | "name" => (textValue? value).map fun v => { row with name := v }
    | "owner_id" => (textValue? value).map fun v => { row with ownerId := v }
    | "balance" => (numberValue? value).map fun v => { row with balance := v }
    | "last_transaction_at" => (openTextValue? value).map fun v => { row with lastMovedAt := v }
    | "created_at" => (textValue? value).map fun v => { row with createdAt := v }
    | _ => none
  admissible row := isAtLeast 0 row.balance
  clashes a b := a.ownerId = b.ownerId && a.name = b.name
  resolves _ _ := true
  referenced db k := db.entries.any (·.walletId = k)
  release db k := { db with entries := db.entries.filter (·.walletId ≠ k) }

instance : Table ProductRow where
  name := "products"
  rows := Database.products
  withRows db rows := { db with products := rows }
  key row := some row.id
  columns := [
    "id", "name", "description", "price", "quantity", "available", "created_at", "updated_at"]
  values row := [
    .text row.id, .text row.name, .ofText? row.description, row.price, row.quantity,
    row.available, .text row.createdAt, .text row.updatedAt]
  layout := ⟨5, 3, [⟨["name"], true⟩, ⟨["id"], true⟩]⟩
  put? row column value := match column with
    | "id" => (textValue? value).map fun v => { row with id := v }
    | "name" => (textValue? value).map fun v => { row with name := v }
    | "description" => (openTextValue? value).map fun v => { row with description := v }
    | "price" => (numberValue? value).map fun v => { row with price := v }
    | "quantity" => (numberValue? value).map fun v => { row with quantity := v }
    | "available" => (numberValue? value).map fun v => { row with available := v }
    | "created_at" => (textValue? value).map fun v => { row with createdAt := v }
    | "updated_at" => (textValue? value).map fun v => { row with updatedAt := v }
    | _ => none
  admissible row :=
    isAbove 0 row.price && isAtLeast 0 row.quantity &&
      row.available = .ofBool (isAbove 0 row.quantity)
  clashes a b := a.name = b.name
  resolves _ _ := true
  referenced db k := db.entries.any (·.productId = some k)
  release db k := { db with
    entries := db.entries.map fun e =>
      if e.productId = some k then { e with productId := none } else e }

instance : Table EntryRow where
  name := "transactions"
  rows := Database.entries
  withRows db rows := { db with entries := rows }
  key row := some row.id
  columns := [
    "id", "kind", "direction", "amount", "description", "wallet_id", "product_id",
    "counterparty_wallet_id", "created_at"]
  values row := [
    .text row.id, .text row.kind, .text row.direction, row.amount, .text row.description,
    .text row.walletId, .ofText? row.productId, .ofText? row.counterpartyId,
    .text row.createdAt]
  layout :=
    ⟨8, 1, [⟨["product_id"], false⟩, ⟨["wallet_id", "created_at"], false⟩, ⟨["id"], true⟩]⟩
  put? row column value := match column with
    | "id" => (textValue? value).map fun v => { row with id := v }
    | "kind" => (textValue? value).map fun v => { row with kind := v }
    | "direction" => (textValue? value).map fun v => { row with direction := v }
    | "amount" => (numberValue? value).map fun v => { row with amount := v }
    | "description" => (textValue? value).map fun v => { row with description := v }
    | "wallet_id" => (textValue? value).map fun v => { row with walletId := v }
    | "product_id" => (openTextValue? value).map fun v => { row with productId := v }
    | "counterparty_wallet_id" =>
        (openTextValue? value).map fun v => { row with counterpartyId := v }
    | "created_at" => (textValue? value).map fun v => { row with createdAt := v }
    | _ => none
  admissible row :=
    ["income", "expense", "transfer"].contains row.kind && ["in", "out"].contains row.direction &&
      isAbove 0 row.amount
  clashes _ _ := false
  resolves db row :=
    db.wallets.any (·.id = row.walletId) &&
      match row.productId with
      | none => true
      | some productId => db.products.any (·.id = productId)
  referenced _ _ := false
  release db _ := db

instance : Table GroupRow where
  name := "wallet_groups"
  rows := Database.groups
  withRows db rows := { db with groups := rows }
  key := GroupRow.id
  columns := ["id", "name"]
  values row := [.ofText? row.id, .text row.name]
  layout := ⟨2, 0, [⟨["id"], true⟩]⟩
  put? row column value := match column with
    | "id" => (openTextValue? value).map fun v => { row with id := v }
    | "name" => (textValue? value).map fun v => { row with name := v }
    | _ => none
  admissible _ := true
  clashes _ _ := false
  resolves _ _ := true
  referenced _ _ := false
  release db _ := db

end Purse.Store
