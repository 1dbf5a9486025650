/-
  Purse.Exchange.Writer

  Records in the exchange format.  The members stand in the order in which the record
  declares its fields; an absent value is written as null, an amount as its
  cents, an instant in its exchange form.
-/
import Purse.Audit
import Purse.Json
import Purse.Query.Page
import Purse.Request

namespace Purse

/-- An identifier as its written form. -/
def Ident.toJson (id : Ident) : Json := .text id.text

/-- An instant in its exchange form. -/
def Instant.toJson (t : Instant) : Json := .text t.exchangeText

/-- A quantity as a number. -/
def Quantity.toJson (q : Quantity) : Json := .natural q.toNat

def Wallet.toJson (wallet : Wallet) : Json :=
  .object [
    ("id", wallet.id.toJson),
    ("name", .text wallet.name),
    ("owner_id", wallet.ownerId.toJson),
    ("balance", .integer wallet.balance),
    ("last_transaction_at", .optional (wallet.lastMovedAt.map Instant.toJson)),
    ("created_at", wallet.createdAt.toJson)]

def Product.toJson (product : Product) : Json :=
  .object [
    ("id", product.id.toJson),
    ("name", .text product.name),
    ("description", .optional (product.description.map Json.text)),
    ("price", .integer product.price),
    ("quantity", Quantity.toJson product.quantity),
    ("available", .bool product.available),
    ("created_at", product.createdAt.toJson),
    ("updated_at", product.updatedAt.toJson)]

def Entry.toJson (entry : Entry) : Json :=
  .object [
    ("id", entry.id.toJson),
    ("kind", .text entry.kind.word),
    ("direction", .text entry.direction.word),
    ("amount", .integer entry.amount),
    ("description", .text entry.description),
    ("wallet_id", entry.walletId.toJson),
    ("product_id", .optional (entry.productId.map Ident.toJson)),
    ("counterparty_wallet_id", .optional (entry.counterpartyId.map Ident.toJson)),
    ("created_at", entry.createdAt.toJson)]

def CreditRequest.toJson (request : CreditRequest) : Json :=
  .object [
    ("wallet_id", request.walletId.toJson),
    ("amount", .integer request.amount)]

def TransferRequest.toJson (request : TransferRequest) : Json :=
  .object [
    ("sender_wallet_id", request.senderId.toJson),
    ("receiver_wallet_id", request.receiverId.toJson),
    ("amount", .integer request.amount)]

def PurchaseRequest.toJson (request : PurchaseRequest) : Json :=
  .object [
    ("wallet_id", request.walletId.toJson),
    ("product_id", request.productId.toJson),
    ("quantity", Quantity.toJson request.quantity)]

def ProductDraft.toJson (draft : ProductDraft) : Json :=
  .object [
    ("name", .text draft.name),
    ("description", .optional (draft.description.map Json.text)),
    ("price", .integer draft.price),
    ("quantity", Quantity.toJson draft.quantity)]

def WalletAudit.toJson (audit : WalletAudit) : Json :=
  .object [
    ("wallet_id", audit.walletId.toJson),
    ("wallet_name", .text audit.walletName),
    ("stored", .integer audit.stored),
    ("computed", .integer audit.computed),
    ("entry_count", .natural audit.entryCount)]

def Mismatch.toJson (mismatch : Mismatch) : Json :=
  .object [
    ("wallet_id", mismatch.walletId.toJson),
    ("wallet_name", .text mismatch.walletName),
    ("stored", .integer mismatch.stored),
    ("computed", .integer mismatch.computed)]

def IntegrityReport.toJson (report : IntegrityReport) : Json :=
  .object [
    ("wallet_count", .natural report.walletCount),
    ("transaction_count", .natural report.entryCount),
    ("mismatches", .list (report.mismatches.map Mismatch.toJson)),
    ("negative_wallets", .list (report.negativeWallets.map Ident.toJson)),
    ("inconsistent_products", .list (report.inconsistentProducts.map Ident.toJson))]

def Query.Page.toJson (page : Query.Page Json) : Json :=
  .object [
    ("page", .natural page.page),
    ("page_size", .natural page.size),
    ("total_pages", .natural page.totalPages),
    ("total_count", .natural page.totalCount),
    ("rows_on_page", .natural page.rowsOnPage),
    ("rows", .list page.rows)]

end Purse
