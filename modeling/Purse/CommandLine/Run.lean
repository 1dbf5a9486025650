/-
  Purse.CommandLine.Run

  Carrying out commands on an open store.  A command decodes what the line gives as text,
  calls one operation, and prints its answer, for people or in the exchange format.
  Nothing is printed for a rejection; its kind decides the exit status.
-/
import Purse.CommandLine.Commands
import Purse.CommandLine.Output
import Purse.Exchange.Writer
import Purse.Service.Call

namespace Purse.CommandLine

open Query Service Store

/-- Why a command fails on an open store. -/
inductive Failure where
  | service (error : ServiceError)
  /-- The command needs to know who is calling. -/
  | noCaller
  /-- The check of the ledger found something. -/
  | inconsistent
  deriving DecidableEq

/-- The exit status for a failure. -/
def Failure.status : Failure → Nat
  | .service error => match error.kind with
    | .notFound => 2
    | .invalidArgument => 3
    | .permissionDenied => 4
    | .internal => 1
  | .noCaller | .inconsistent => 1

/-- What a failure prints. -/
def Failure.message : Failure → String
  | .service error =>
      (match error.kind with
        | .notFound => "not found: "
        | .invalidArgument => "invalid argument: "
        | .permissionDenied => "rejected: "
        | .internal => "internal error: ") ++ error.message
  | .noCaller => "error: No caller identity: pass --user or set WALLET_LEDGER_USER"
  | .inconsistent => "error: Ledger integrity check failed"

/-- How a command ended: what it printed, why it failed if it did, the database that it
    left, and the number of identifiers it took. -/
structure Ending where
  output : String
  failure : Option Failure
  database : Database
  drawn : Nat

/-! ## Arguments that are read late -/

/-- Reads an amount. -/
def readAmount (raw : String) : Except ServiceError Cents :=
  match Cents.parse raw with
  | .ok amount => .ok amount
  | .error error => .error (.invalidAmount (.unreadable raw error))

/-- Reads a date or an instant. -/
def readDate (raw : String) : Except ServiceError Instant :=
  match Instant.parse? raw with
  | some t => .ok t
  | none => .error (.invalidQuery (.invalidValue "date" raw .notADate))

/-- A refused query as a rejection. -/
def ofQuery (result : Except QueryError α) : Except ServiceError α :=
  match result with
  | .ok a => .ok a
  | .error error => .error (.invalidQuery error)

/-- Reads what to list: the page, the filter, the sort rule. -/
def readListing (options : Options) (listing : Listing) :
    Except ServiceError (PageRequest × Filter × Option SortRule) := do
  let request ← ofQuery (PageRequest.make listing.page options.pageSize)
  let filter ← ofQuery ((listing.filter.map Filter.parse).getD (.ok []))
  let sort ← ofQuery (listing.sort.mapM SortRule.parse)
  return (request, filter, sort)

/-- Reads the fields of a product. -/
def readDraft (fields : ProductFields) : Except ServiceError ProductDraft := do
  return {
    name := fields.name, description := fields.description
    price := ← readAmount fields.price, quantity := fields.quantity }

/-! ## Endings -/

/-- Prints a value. -/
def printed (options : Options) (toJson : α → Json) (human : α → String) (a : α) : String :=
  if options.json then (toJson a).pretty ++ "\n" else human a

/-- The ending of a command that only reads. -/
def afterRead (db : Database) (output : α → String) (result : Except ServiceError α) : Ending :=
  match result with
  | .ok a => ⟨output a, none, db, 0⟩
  | .error error => ⟨"", some (.service error), db, 0⟩

/-- The ending of a command that writes. -/
def afterWrite (output : α → String) (outcome : Outcome α) : Ending :=
  match outcome.result with
  | .ok a => ⟨output a, none, outcome.database, outcome.drawn⟩
  | .error error => ⟨"", some (.service error), outcome.database, outcome.drawn⟩

/-- Goes on with an argument that could be read. -/
def withArgument (db : Database) (argument : Except ServiceError α) (next : α → Ending) : Ending :=
  match argument with
  | .ok a => next a
  | .error error => ⟨"", some (.service error), db, 0⟩

/-- Goes on with the caller's identity. -/
def withCaller (options : Options) (db : Database) (next : Ident → Ending) : Ending :=
  match options.user with
  | some id => next id
  | none => ⟨"", some .noCaller, db, 0⟩

/-- The ending of a check; what was found is printed also when the check fails. -/
def afterCheck (options : Options) (db : Database) (result : Except ServiceError IntegrityReport) :
    Ending :=
  match result with
  | .error error => ⟨"", some (.service error), db, 0⟩
  | .ok report =>
      let output := printed options IntegrityReport.toJson (unlines ∘ reportLines) report
      if report.isOk then
        ⟨output ++ (if options.json then "" else "Ledger is consistent.\n"), none, db, 0⟩
      else ⟨output, some .inconsistent, db, 0⟩

/-- A page in the exchange format. -/
def pageJson (toJson : α → Json) (page : Page α) : Json := (page.map toJson).toJson

/-- A history in the exchange format. -/
def historyJson (history : WalletHistory) : Json :=
  .object [
    ("wallet", history.wallet.toJson),
    ("from", history.start.toJson),
    ("to", history.stop.toJson),
    ("transactions", .list (history.entries.map Entry.toJson))]

/-- The entries of a transfer in the exchange format. -/
def receiptJson (receipt : TransferReceipt) : Json :=
  .object [
    ("sender_transaction", receipt.sent.toJson),
    ("receiver_transaction", receipt.received.toJson)]

/-! ## Commands -/

/-- Carries out a command on an open store. -/
def runCommand (options : Options) (command : Command) (moment : Moment) (db : Database) : Ending :=
  match command with
  | .init => ⟨"", none, db, 0⟩
  | .createWallet name => withCaller options db fun owner =>
      afterWrite (printed options Wallet.toJson fun w =>
        "Created wallet: " ++ w.name ++ " (" ++ w.id.text ++ ")\n")
        (createWallet moment owner name db)
  | .renameWallet id name => withCaller options db fun owner =>
      afterWrite (printed options Wallet.toJson fun w =>
        "Renamed wallet " ++ w.id.text ++ " to " ++ w.name ++ "\n") (renameWallet owner id name db)
  | .deleteWallet id => withCaller options db fun owner =>
      afterWrite (fun _ => "Deleted wallet: " ++ id.text ++ "\n") (deleteWallet owner id db)
  | .showWallet id =>
      afterRead db (printed options Wallet.toJson (unlines ∘ walletLines)) (getWallet id db)
  | .listWallets listing =>
      withArgument db (readListing options listing) fun (request, filter, sort) =>
        afterRead db (printed options (pageJson Wallet.toJson) walletTable)
          (listWallets request filter sort db)
  | .auditWallet id =>
      afterRead db (printed options WalletAudit.toJson (unlines ∘ auditLines)) (auditOf id db)
  | .walletHistory id start stop =>
      withArgument db ((start.map readDate).getD (.ok Instant.epoch)) fun start =>
        withArgument db ((stop.map readDate).getD (.ok (moment.now.plusSeconds 1))) fun stop =>
          afterRead db (printed options historyJson (unlines ∘ historyLines))
            (walletHistory id start stop db)
  | .createProduct fields => withArgument db (readDraft fields) fun draft =>
      afterWrite (printed options Product.toJson fun p =>
        "Created product: " ++ p.name ++ " (" ++ p.id.text ++ ")\n") (createProduct moment draft db)
  | .updateProduct id fields => withArgument db (readDraft fields) fun draft =>
      afterWrite (printed options Product.toJson (unlines ∘ productLines))
        (updateProduct moment id draft db)
  | .deleteProduct id =>
      afterWrite (fun _ => "Deleted product: " ++ id.text ++ "\n") (deleteProduct id db)
  | .showProduct id =>
      afterRead db (printed options Product.toJson (unlines ∘ productLines)) (getProduct id db)
  | .listProducts listing =>
      withArgument db (readListing options listing) fun (request, filter, sort) =>
        afterRead db (printed options (pageJson Product.toJson) productTable)
          (listProducts request filter sort db)
  | .credit walletId amount => withArgument db (readAmount amount) fun amount =>
      afterWrite (printed options Entry.toJson fun e =>
        "Credited " ++ Cents.text e.amount ++ " to " ++ e.walletId.text ++
          " (" ++ e.id.text ++ ")\n")
        (credit moment ⟨walletId, amount⟩ db)
  | .transfer amount senderId receiverId => withArgument db (readAmount amount) fun amount =>
      afterWrite (printed options receiptJson (unlines ∘ receiptLines))
        (transfer moment ⟨senderId, receiverId, amount⟩ db)
  | .purchase walletId productId quantity =>
      afterWrite (printed options Entry.toJson fun e =>
        e.description ++ " (" ++ e.id.text ++ ")\n")
        (purchase moment ⟨walletId, productId, quantity⟩ db)
  | .listEntries listing =>
      withArgument db (readListing options listing) fun (request, filter, sort) =>
        afterRead db (printed options (pageJson Entry.toJson) entryTable)
          (listEntries request filter sort db)
  | .showEntry id =>
      afterRead db (printed options Entry.toJson (unlines ∘ entryLines)) (getEntry id db)
  | .check => afterCheck options db (checkIntegrity db)

end Purse.CommandLine
