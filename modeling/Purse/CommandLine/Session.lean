/-
  Purse.CommandLine.Session

  Whole runs of the program: a line is read, its store is opened, its command is carried
  out, and the store is put back.  On a store without tables every statement fails, and a
  store that may be read only refuses every write.
-/
import Purse.CommandLine.Opening
import Purse.CommandLine.Run

namespace Purse.CommandLine

open Service Store

/-! ## Stores that refuse statements -/

/-- The first statement of a command, which takes the lock when the command writes to
    stored records. -/
def Command.firstAttempt : Command → Attempt
  | .init => .list "wallets"
  | .createWallet _ | .showWallet _ | .auditWallet _ | .walletHistory .. => .fetch "wallet"
  | .renameWallet .. | .deleteWallet _ | .credit .. | .transfer .. | .purchase .. => .lock "wallet"
  | .listWallets _ => .count "wallets"
  | .createProduct _ | .showProduct _ => .fetch "product"
  | .updateProduct .. => .lock "product"
  | .deleteProduct _ => .delete "product"
  | .listProducts _ => .count "products"
  | .listEntries _ => .count "transactions"
  | .showEntry _ => .fetch "transaction"
  | .check => .list "wallets"

/-- True for a command that changes stored records when it succeeds. -/
def Command.writes : Command → Bool
  | .createWallet _ | .renameWallet .. | .deleteWallet _ | .createProduct _ | .updateProduct ..
  | .deleteProduct _ | .credit .. | .transfer .. | .purchase .. => true
  | _ => false

/-- True for a failure that comes before the first statement. -/
def Failure.isEarly : Failure → Bool
  | .service error => error.kind == .invalidArgument
  | .noCaller => true
  | .inconsistent => false

/-- The ending of a command whose statement cannot run. -/
def unavailable (attempt : Attempt) (db : Database) (drawn : Nat) : Ending :=
  ⟨"", some (.service (.store (.unavailable attempt))), db, drawn⟩

/-- Carries out a command whose first statement cannot run: only a failure that comes before
    any statement still shows. -/
def runBlocked (options : Options) (command : Command) (moment : Moment) (db : Database) : Ending :=
  match (runCommand options command moment Database.fresh).failure with
  | some failure =>
      if failure.isEarly then ⟨"", some failure, db, 0⟩ else unavailable command.firstAttempt db 0
  | none => unavailable command.firstAttempt db 0

/-- True for a command that fails before its first statement. -/
def Command.isIdle (options : Options) (moment : Moment) (command : Command) : Bool :=
  ((runCommand options command moment Database.fresh).failure.map Failure.isEarly).getD false

/-- Carries out a command on a store that may be read only. -/
def runReadOnly (options : Options) (command : Command) (moment : Moment) (db : Database) :
    Ending :=
  match command with
  | .createWallet _ | .createProduct _ =>
      let ending := runCommand options command moment db
      match ending.failure with
      | some _ => { ending with database := db }
      | none =>
          let entity := if command.firstAttempt = .fetch "wallet" then "wallet" else "product"
          unavailable (.create entity) db ending.drawn
  | .renameWallet .. | .deleteWallet _ | .updateProduct .. | .deleteProduct _ | .credit ..
  | .transfer .. | .purchase .. => runBlocked options command moment db
  | _ => runCommand options command moment db

/-! ## Runs -/

/-- What a run of the program leaves on its outputs, and its exit status. -/
structure Report where
  status : Nat
  output : String
  errors : String
  deriving DecidableEq, Repr

/-- The report of a run that ended with a failure on an open store, or without one. -/
def Ending.report (ending : Ending) : Report :=
  match ending.failure with
  | none => ⟨0, ending.output, ""⟩
  | some failure => ⟨failure.status, ending.output, failure.message ++ "\n"⟩

/-- The report of a store that cannot be opened. -/
def openReport (context : String) (error : OpenError) : Report :=
  ⟨1, "", "error: " ++ context ++ error.message ++ "\n"⟩

/-- A run: its report, the disk that it leaves, and the number of identifiers it
    took. -/
structure Run where
  report : Report
  disk : Disk
  drawn : Nat

/-- Makes a store, or leaves the one that is there. -/
def runInit (options : Options) (disk : Disk) : Run :=
  match (openStore options true).run disk with
  | (.error error, disk) => ⟨openReport "" error, disk, 0⟩
  | (.ok opened, disk) => match opened.withTables with
    | .error fault => ⟨openReport "" (.tables fault), disk.leave true false opened, 0⟩
    | .ok made =>
        let report := ⟨0, "Database initialized: " ++ options.database ++ "\n", ""⟩
        ⟨report, (disk.keep made).leave true opened.isNew made, 0⟩

/-- The ending of a command on an open store. -/
def Opened.run (options : Options) (command : Command) (moment : Moment) : Opened → Ending
  | .file target _ (some db) _ =>
      if target.isReadOnly then runReadOnly options command moment db
      else runCommand options command moment db
  | _ => runBlocked options command moment Database.fresh

/-- An open store after a command that left a database. -/
def Opened.leave (db : Database) : Opened → Opened
  | .file target path (some _) logged => .file target path (some db) logged
  | opened => opened

/-- Carries out a command on the store that the options name. -/
def runOn (options : Options) (command : Command) (moment : Moment) (disk : Disk) : Run :=
  match (openStore options false).run disk with
  | (.error error, disk) =>
      let context := "Cannot open " ++ options.database ++ "; run `wallet-ledger init` first: "
      ⟨openReport context error, disk, 0⟩
  | (.ok opened, disk) =>
      let ending := opened.run options command moment
      let opened := opened.leave ending.database
      let ran := !command.isIdle options moment
      let wrote := command.writes && ending.failure.isNone
      ⟨ending.report, (disk.keep opened).leave ran wrote opened, ending.drawn⟩

/-- Carries out the command of a line. -/
def runLine (env : Environment) (line : List String) (moment : Moment) (disk : Disk) :
    Except UsageError Run := do
  let (options, command) ← parseLine env line
  match command with
  | .init => return runInit options disk
  | _ => return runOn options command moment disk

end Purse.CommandLine
