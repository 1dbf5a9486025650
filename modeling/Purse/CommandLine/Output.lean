/-
  Purse.CommandLine.Output

  What the commands print for people: one record as labelled lines, many as a table
  with a footer.  Widths count characters; a name that is too long for its column is
  cut and ends in three points.
-/
import Purse.Audit
import Purse.Query.Page
import Purse.Service.Accounts
import Purse.Service.Ledger

namespace Purse.CommandLine

open Query Service Text

/-! ## Columns -/

/-- A text filled up with blanks after it. -/
def padRight (width : Nat) (s : String) : String :=
  s ++ String.ofList (List.replicate (width - s.length) ' ')

/-- A text filled up with blanks before it. -/
def padLeft (width : Nat) (s : String) : String :=
  String.ofList (List.replicate (width - s.length) ' ') ++ s

/-- A text cut to a width. -/
def cut (width : Nat) (s : String) : String :=
  if s.length ≤ width then s else String.ofList (s.toList.take (width - 3)) ++ "..."

/-- A number as a numeral. -/
def numeralText (n : Nat) : String := String.ofList (numeral n)

/-- A line of hyphens. -/
def rule (width : Nat) : String := String.ofList (List.replicate width '-')

/-- Lines as a text. -/
def unlines (lines : List String) : String := String.join (lines.map (· ++ "\n"))

/-- The lines of a table, or one line when it has no rows. -/
def table (none : String) (header : String) (width : Nat) (row : α → String) (page : Page α) :
    String :=
  if page.rows.isEmpty then unlines [none]
  else unlines ([header, rule width] ++ page.rows.map row ++ ["",
    "Page " ++ numeralText page.page ++ "/" ++ numeralText page.totalPages ++ " (" ++
      numeralText page.rowsOnPage ++ " of " ++ numeralText page.totalCount ++ " rows)"])

/-! ## Wallets -/

/-- A wallet with all its fields. -/
def walletLines (wallet : Wallet) : List String := [
  "Wallet: " ++ wallet.name,
  "  ID:       " ++ wallet.id.text,
  "  Owner:    " ++ wallet.ownerId.text,
  "  Balance:  " ++ Cents.text wallet.balance,
  "  Created:  " ++ wallet.createdAt.displayText] ++
  match wallet.lastMovedAt with
  | some t => ["  Last transaction: " ++ t.displayText]
  | none => []

/-- A row of the table of wallets. -/
def walletRow (id name balance : String) : String :=
  padRight 36 id ++ "  " ++ padRight 20 name ++ " " ++ padLeft 12 balance

/-- The table of wallets. -/
def walletTable (page : Page Wallet) : String :=
  table "No wallets found." (walletRow "ID" "NAME" "BALANCE") 70
    (fun w => walletRow w.id.text (cut 20 w.name) (Cents.text w.balance)) page

/-- A wallet's audit. -/
def auditLines (audit : WalletAudit) : List String := [
  "Wallet:  " ++ audit.walletName ++ " (" ++ audit.walletId.text ++ ")",
  "Entries: " ++ numeralText audit.entryCount,
  "Stored:  " ++ Cents.text audit.stored,
  "Ledger:  " ++ Cents.text audit.computed,
  "Status:  " ++ if audit.isConsistent then "OK" else "MISMATCH"]

/-! ## Products -/

/-- A product with all its fields. -/
def productLines (product : Product) : List String :=
  ["Product: " ++ product.name, "  ID:        " ++ product.id.text] ++
  (match product.description with
    | some d => ["  Description: " ++ d]
    | none => []) ++ [
  "  Price:     " ++ Cents.text product.price,
  "  In stock:  " ++ quantityText product.quantity,
  "  Available: " ++ if product.available then "yes" else "no"]

/-- A row of the table of products. -/
def productRow (id name price quantity : String) : String :=
  padRight 36 id ++ "  " ++ padRight 20 name ++ " " ++ padLeft 10 price ++ " " ++
    padLeft 6 quantity

/-- The table of products. -/
def productTable (page : Page Product) : String :=
  table "No products found." (productRow "ID" "NAME" "PRICE" "QTY") 76
    (fun p => productRow p.id.text (cut 20 p.name) (Cents.text p.price) (quantityText p.quantity))
    page

/-! ## Entries -/

/-- An entry with all its fields. -/
def entryLines (entry : Entry) : List String :=
  ["Transaction: " ++ entry.id.text,
    "  Kind:        " ++ entry.kind.word ++ " (" ++ entry.direction.word ++ ")",
    "  Amount:      " ++ Cents.text entry.signedAmount,
    "  Wallet:      " ++ entry.walletId.text] ++
  (match entry.counterpartyId with
    | some id => ["  Counterpart: " ++ id.text]
    | none => []) ++
  (match entry.productId with
    | some id => ["  Product:     " ++ id.text]
    | none => []) ++
  ["  Description: " ++ entry.description, "  Date:        " ++ entry.createdAt.displayText]

/-- A row of the table of entries. -/
def entryRow (date kind amount description : String) : String :=
  padRight 20 date ++ " " ++ padRight 9 kind ++ " " ++ padLeft 12 amount ++ "  " ++ description

/-- An entry as a row. -/
def entryLine (entry : Entry) : String :=
  entryRow entry.createdAt.displayText entry.kind.word (Cents.text entry.signedAmount)
    (cut 40 entry.description)

/-- The table of entries. -/
def entryTable (page : Page Entry) : String :=
  table "No transactions found." (entryRow "DATE" "KIND" "AMOUNT" "DESCRIPTION") 70 entryLine page

/-- A wallet with its entries in a window. -/
def historyLines (history : WalletHistory) : List String :=
  walletLines history.wallet ++ [""] ++
    (if history.entries.isEmpty then ["No transactions in window."] else []) ++
    history.entries.map entryLine

/-- The two entries of a transfer. -/
def receiptLines (receipt : TransferReceipt) : List String := [
  "Transferred " ++ Cents.text receipt.sent.amount ++ ": " ++ receipt.sent.walletId.text ++
    " -> " ++ receipt.received.walletId.text,
  "  " ++ receipt.sent.id.text,
  "  " ++ receipt.received.id.text]

/-! ## The check of the ledger -/

/-- What a check found. -/
def reportLines (report : IntegrityReport) : List String :=
  ["Wallets:      " ++ numeralText report.walletCount,
    "Transactions: " ++ numeralText report.entryCount, ""] ++
  report.mismatches.map (fun m =>
    "  - " ++ m.walletName ++ " (" ++ m.walletId.text ++ "): stored " ++ Cents.text m.stored ++
      ", ledger " ++ Cents.text m.computed) ++
  report.negativeWallets.map (fun id => "  - wallet " ++ id.text ++ " has a negative balance") ++
  report.inconsistentProducts.map (fun id =>
    "  - product " ++ id.text ++ " availability disagrees with stock")

end Purse.CommandLine
