/-
  Purse.CommandLine.Commands

  The commands of the program: their grammar, and the commands themselves as values.
-/
import Purse.CommandLine.Grammar
import Purse.Product
import Purse.Query.Page

namespace Purse.CommandLine

/-! ## Grammar of the program -/

/-- The largest number of 32 bits. -/
def largest32 : Nat := 4294967295

/-- The largest number of 64 bits. -/
def largest64 : Nat := 18446744073709551615

/-- A small number. -/
def small : ValueKind := .number largest32 true

/-- A positional argument. -/
def positional (name : String) (kind : ValueKind) : Arg :=
  { name, action := .value kind, required := true }

/-- An option with a long form. -/
def option (name : String) (kind : ValueKind) : Arg :=
  { name, long := some name, action := .value kind }

/-- An option with a long form that has to be given. -/
def requiredOption (name : String) (kind : ValueKind) : Arg :=
  { option name kind with required := true }

/-- An option with a long and a short form. -/
def shortOption (short : Char) (name : String) (kind : ValueKind) : Arg :=
  { option name kind with short := some short }

/-- The arguments that may be given at every level. -/
def globalArgs : List Arg := [
  { shortOption 'd' "database" .text with variableName := some "WALLET_LEDGER_DB" },
  { shortOption 'u' "user" .ident with variableName := some "WALLET_LEDGER_USER" },
  option "busy-timeout-ms" (.number largest64 false),
  option "page-size" small,
  { option "log-format" (.word ["pretty", "json"]) with
    variableName := some "WALLET_LEDGER_LOG_FORMAT" },
  { name := "json", long := some "json", action := .flag }]

/-- The flag that asks for help. -/
def helpFlag : Arg := { name := "help", short := some 'h', long := some "help", action := .help }

/-- The flag that asks for the version. -/
def versionFlag : Arg :=
  { name := "version", short := some 'V', long := some "version", action := .version }

/-- The arguments of the commands that list records. -/
def listingArgs : List Arg := [
  shortOption 'f' "filter" .text, shortOption 's' "sort" .text, shortOption 'p' "page" small]

/-- A command without commands inside it. -/
def leaf (name : String) (args : List Arg) : Spec :=
  .mk name (args ++ globalArgs ++ [helpFlag]) []

/-- A command that is only there for the commands inside it. -/
def branch (name : String) (extra : List Arg) (commands : List Spec) : Spec :=
  .mk name (globalArgs ++ [helpFlag] ++ extra) (commands ++ [.mk helpCommand [] []])

/-- The grammar of the commands on wallets. -/
def walletSpec : Spec := branch "wallet" [] [
  leaf "create" [positional "name" .text],
  leaf "rename" [positional "id" .ident, positional "name" .text],
  leaf "delete" [positional "id" .ident],
  leaf "show" [positional "id" .ident],
  leaf "list" listingArgs,
  leaf "audit" [positional "id" .ident],
  leaf "history" [positional "id" .ident, option "from" .text, option "to" .text]]

/-- The grammar of the commands on products. -/
def productSpec : Spec := branch "product" [] [
  leaf "create" [
    positional "name" .text, requiredOption "price" .text, shortOption 'q' "quantity" small,
    option "description" .text],
  leaf "update" [
    positional "id" .ident, requiredOption "name" .text, requiredOption "price" .text,
    { shortOption 'q' "quantity" small with required := true }, option "description" .text],
  leaf "delete" [positional "id" .ident],
  leaf "show" [positional "id" .ident],
  leaf "list" listingArgs]

/-- The grammar of the program. -/
def programSpec : Spec := branch "wallet-ledger" [versionFlag] [
  leaf "init" [],
  walletSpec,
  productSpec,
  leaf "credit" [positional "wallet" .ident, positional "amount" .text],
  leaf "transfer" [
    positional "amount" .text, requiredOption "from" .ident, requiredOption "to" .ident],
  leaf "purchase" [
    positional "wallet" .ident, positional "product" .ident, shortOption 'q' "quantity" small],
  leaf "transactions" listingArgs,
  leaf "show" [positional "id" .ident],
  leaf "check" []]

/-! ## Commands -/

/-- What applies to every command. -/
structure Options where
  database : String
  user : Option Ident
  /-- How long to wait for a store that is in use, in thousandths of a second. -/
  patience : Nat
  pageSize : Nat
  json : Bool
  deriving DecidableEq

/-- What to list. -/
structure Listing where
  filter : Option String
  sort : Option String
  page : Nat
  deriving DecidableEq

/-- The fields of a product as they are written on a line. -/
structure ProductFields where
  name : String
  price : String
  quantity : Quantity
  description : Option String
  deriving DecidableEq

/-- A command with its arguments. -/
inductive Command where
  | init
  | createWallet (name : String)
  | renameWallet (id : Ident) (name : String)
  | deleteWallet (id : Ident)
  | showWallet (id : Ident)
  | listWallets (listing : Listing)
  | auditWallet (id : Ident)
  | walletHistory (id : Ident) (start stop : Option String)
  | createProduct (fields : ProductFields)
  | updateProduct (id : Ident) (fields : ProductFields)
  | deleteProduct (id : Ident)
  | showProduct (id : Ident)
  | listProducts (listing : Listing)
  | credit (walletId : Ident) (amount : String)
  | transfer (amount : String) (senderId receiverId : Ident)
  | purchase (walletId productId : Ident) (quantity : Quantity)
  | listEntries (listing : Listing)
  | showEntry (id : Ident)
  | check
  deriving DecidableEq

/-- The text of an argument. -/
def Parsed.text? (parsed : Parsed) (name : String) : Option String :=
  match parsed.value? name with
  | some (.text s) => some s
  | _ => none

/-- The identifier of an argument. -/
def Parsed.ident? (parsed : Parsed) (name : String) : Option Ident :=
  match parsed.value? name with
  | some (.ident id) => some id
  | _ => none

/-- The number of an argument. -/
def Parsed.number? (parsed : Parsed) (name : String) : Option Nat :=
  match parsed.value? name with
  | some (.number n) => some n
  | _ => none

/-- The quantity of an argument. -/
def Parsed.quantity? (parsed : Parsed) (name : String) : Option Quantity :=
  (parsed.number? name).map UInt32.ofNat

/-- How long to wait for a store when the line does not say it. -/
def defaultPatience : Nat := 5000

/-- The options of a line, with their defaults. -/
def Parsed.options (parsed : Parsed) : Options :=
  { database := (parsed.text? "database").getD "wallet-ledger.db"
    user := parsed.ident? "user"
    patience := (parsed.number? "busy-timeout-ms").getD defaultPatience
    pageSize := (parsed.number? "page-size").getD Query.PageRequest.defaultSize
    json := (parsed.value? "json").isSome }

/-- The listing of a line. -/
def Parsed.listing (parsed : Parsed) : Listing :=
  { filter := parsed.text? "filter", sort := parsed.text? "sort"
    page := (parsed.number? "page").getD 1 }

/-- The product fields of a line. -/
def Parsed.productFields? (parsed : Parsed) : Option ProductFields := do
  return {
    name := ← parsed.text? "name", price := ← parsed.text? "price"
    quantity := (parsed.quantity? "quantity").getD 0, description := parsed.text? "description" }

/-- The command of a line. -/
def Parsed.command? (parsed : Parsed) : Option Command :=
  match parsed.path with
  | ["init"] => some .init
  | ["wallet", "create"] => return .createWallet (← parsed.text? "name")
  | ["wallet", "rename"] => return .renameWallet (← parsed.ident? "id") (← parsed.text? "name")
  | ["wallet", "delete"] => return .deleteWallet (← parsed.ident? "id")
  | ["wallet", "show"] => return .showWallet (← parsed.ident? "id")
  | ["wallet", "list"] => some (.listWallets parsed.listing)
  | ["wallet", "audit"] => return .auditWallet (← parsed.ident? "id")
  | ["wallet", "history"] =>
      return .walletHistory (← parsed.ident? "id") (parsed.text? "from") (parsed.text? "to")
  | ["product", "create"] => return .createProduct (← parsed.productFields?)
  | ["product", "update"] => return .updateProduct (← parsed.ident? "id") (← parsed.productFields?)
  | ["product", "delete"] => return .deleteProduct (← parsed.ident? "id")
  | ["product", "show"] => return .showProduct (← parsed.ident? "id")
  | ["product", "list"] => some (.listProducts parsed.listing)
  | ["credit"] => return .credit (← parsed.ident? "wallet") (← parsed.text? "amount")
  | ["transfer"] =>
      return .transfer (← parsed.text? "amount") (← parsed.ident? "from") (← parsed.ident? "to")
  | ["purchase"] =>
      return .purchase (← parsed.ident? "wallet") (← parsed.ident? "product")
        ((parsed.quantity? "quantity").getD 1)
  | ["transactions"] => some (.listEntries parsed.listing)
  | ["show"] => return .showEntry (← parsed.ident? "id")
  | ["check"] => some .check
  | _ => none

/-- The options and the command of a line. -/
def parseLine (env : Environment) (line : List String) :
    Except UsageError (Options × Command) := do
  let parsed ← programSpec.parse env line
  match parsed.command? with
  | some command => return (parsed.options, command)
  | none => .error .missingArgument

end Purse.CommandLine
