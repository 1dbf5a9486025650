/-
  Purse.CommandLine.Opening

  Opening the store that a line names.  It goes on from the target to the path of a file, then
  to the file itself, then to the files beside it, then to its log, which is switched on when
  the target allows one.  Only `init` makes a file, in a folder that exists, and only `init`
  makes the tables in it.  What an attempt did to the disk stays, also when a later step fails.

  A journal beside a store is taken for that of an unfinished write, which is undone: the
  journal goes.  A log beside a store is taken into use.  Neither counts while it is empty.
-/
import Purse.CommandLine.Commands
import Purse.CommandLine.Companion
import Purse.CommandLine.Target

namespace Purse.CommandLine

open Store

/-! ## Failures -/

/-- Why a store cannot be opened, or cannot be made. -/
inductive OpenError where
  | location (error : LocationError)
  | target (error : TargetError)
  /-- The time to wait for a store in use is longer than can be counted. -/
  | patience
  /-- The tables cannot be made. -/
  | tables (fault : EngineFault)
  deriving DecidableEq, Repr

/-- A fault of the engine while it opens a store. -/
def OpenError.engine (fault : EngineFault) : OpenError := .target (.engine fault)

/-- The message of a step that failed from a cause in another part. The cause stands twice: in the
    answer of that part, and by itself. -/
def failedStep (step answer cause : String) : String :=
  step ++ ": " ++ answer ++ ": " ++ cause ++ ": " ++ cause

/-- The message of a store that cannot be opened. -/
def OpenError.message : OpenError → String
  | .location error => error.message
  | .target .nulInPath =>
      failedStep "Failed to connect to database" "error communicating with database"
        "filename passed to SQLite must not contain nul bytes"
  | .target (.engine fault) =>
      failedStep "Failed to connect to database" "error returned from database" fault.answer
  | .patience =>
      "Failed to connect to database: attempted to communicate with a crashed background worker"
  | .tables fault =>
      failedStep "Failed to run migration 001" "error returned from database" fault.answer

/-! ## Opening -/

/-- A store that is open. -/
inductive Opened where
  /-- A file: what was asked for, its tables if it has any, and whether it has a log. -/
  | file (target : Target) (path : Path) (tables : Option Database) (logged : Bool)
  /-- A file that is open but for its log, without which no statement runs. -/
  | stuck (path : Path) (fault : EngineFault)
  /-- A store without tables, which is gone afterwards. -/
  | bare (readOnly : Bool)

/-- A step of opening a store. It can fail, and what it did to the disk stays. -/
abbrev Opening := ExceptT OpenError (StateM Disk)

/-- A step that fails with a fault of the engine. -/
def Opening.fail {α : Type} (fault : EngineFault) : Opening α := throw (.engine fault)

/-- The longest time to wait, in thousandths of a second. -/
def longestPatience : Nat := 2147483647

/-- The engine is told how long to wait. -/
def Opening.wait (patience : Nat) : Opening Unit := do
  if longestPatience < patience then throw .patience

/-- Opens the file at a path. A missing file is made if the target allows it; a folder that is
    opened for reading cannot be read. -/
def Target.enter (target : Target) (path : Path) : Opening Unit := do
  let disk ← get
  if (target.pattern.map fun name => !disk.finds name).getD false then .fail .patternMissing
  else if (disk.content? path).isSome then return
  else if disk.folders.contains path then
    .fail (if target.access = .read then .unreadable else .cannotOpen)
  else if target.access = .make && disk.folders.contains path.dropLast then
    set (disk.put path (.store none false))
  else .fail .cannotOpen

/-! ## Files beside the store -/

/-- Takes the lock that is a file. -/
def Target.takeLock (target : Target) (path : Path) : Opening Unit := do
  if target.takesLockFile then
    if !Companion.lock.fits path then .fail .unlockable
    else if (← get).isTaken (Companion.lock.path path) then .fail .locked

/-- True when there is a lock that is a file, its own or another one. A write is under way then, so
    that a journal is not that of an unfinished one. -/
def Target.seesLock (target : Target) (path : Path) (disk : Disk) : Bool :=
  target.layer = .lockFile && (!target.lockless || disk.isTaken (Companion.lock.path path))

/-- Undoes an unfinished write. Beside an empty store there is nothing to undo, and its journal
    goes if the lock can be had. -/
def Target.undo (target : Target) (path : Path) (content : Content) : Opening Unit := do
  let disk ← get
  let journal := Companion.journal.path path
  if disk.isFilled journal && !target.seesLock path disk then
    if content.isEmpty then
      if target.canReserve then set (disk.erase journal)
    else if target.access = .read then .fail .unfinished
    else set (disk.erase journal)

/-- Looks for the log of a store: true when there is one, which is taken into use. The log of an
    empty store goes. -/
def Target.findLog (target : Target) (path : Path) (content : Content) : Opening Bool := do
  let disk ← get
  let log := Companion.log.path path
  if !disk.isFilled log then return false
  else if content.isEmpty then
    set (disk.erase log)
    return false
  else if target.canLog then return true
  else .fail .cannotOpen

/-- The disk with a log beside a store, which is made empty where it is missing. -/
def Disk.withLog (disk : Disk) (path : Path) : Disk :=
  let log := Companion.log.path path
  if (disk.content? log).isSome then disk else disk.put log (.store none false)

/-- The disk after the log of a store was used. With the right to write the log is empty at the end
    and goes with its index; else both stay. -/
def Disk.closeLog (disk : Disk) (target : Target) (path : Path) : Disk :=
  let log := Companion.log.path path
  let index := Companion.index.path path
  if target.keepsIndex then disk.withLog path
  else if target.access = .read then (disk.withLog path).put index .foreign
  else if target.sharesIndex then (disk.erase log).erase index
  else disk.erase log

/-- True when the index is missing that a target has to take as it is. -/
def Target.lacksIndex (target : Target) (path : Path) (disk : Disk) : Bool :=
  target.keepsIndex && !(disk.content? (Companion.index.path path)).isSome

/-- Takes the log of a store into use. What a log holds is sorted out through the index, so an
    index that has to stay as it is does for an empty log only. -/
def Target.useLog (target : Target) (path : Path) : Opening Unit := do
  let disk ← get
  set (disk.closeLog target path)
  if target.lacksIndex path disk then .fail .cannotOpen
  else if target.keepsIndex && disk.isFilled (Companion.log.path path) then .fail .unsettled

/-- Switches the log of a store on, by a write under a journal. -/
def Target.switchOn (target : Target) (path : Path) (tables : Option Database) :
    Opening Opened := do
  if target.access = .read then .fail .readOnly
  else if !Companion.journal.fits path then .fail .cannotOpen
  else
    modify fun disk => (disk.erase (Companion.journal.path path)).put path (.store tables true)
    if target.lacksIndex path (← get) then return .stuck path .cannotOpen
    else return .file target path tables true

/-! ## Reading the store -/

/-- The disk with the store that is open. -/
def Disk.keep (disk : Disk) : Opened → Disk
  | .file _ path tables logged => disk.put path (.store tables logged)
  | .stuck .. | .bare _ => disk

/-- The store in a file. -/
def Content.opened (target : Target) (path : Path) : Content → Opening Opened
  | .foreign => .fail .notAStore
  | .store tables logged => return .file target path tables logged

/-- Opens a store whose writes can go into a log. The log is needed to read a store that has
    one. -/
def Target.readLogged (target : Target) (path : Path) (found : Bool) (content : Content) :
    Opening Opened := do
  if found then target.useLog path
  match content with
  | .store tables false =>
      if found then content.opened target path else target.switchOn path tables
  | .store _ true =>
      if !found then target.useLog path
      content.opened target path
  | .foreign => content.opened target path

/-- Opens a store whose writes go to the file at once. -/
def Target.readPlain (target : Target) (path : Path) (content : Content) : Opening Opened :=
  match content with
  | .store _ true => .fail .cannotOpen
  | _ => content.opened target path

/-- Reads the file at a path. A file that cannot change is read by itself. -/
def Target.read (target : Target) (path : Path) : Opening Opened := do
  match (← get).content? path with
  | none => .fail .cannotOpen
  | some content =>
      if target.immutable then content.opened target path
      else
        target.takeLock path
        target.undo path content
        let found ← target.findLog path content
        if target.canLog then target.readLogged path found content
        else target.readPlain path content

/-- Opens a target. -/
def Target.open (target : Target) (patience : Nat) : Opening Opened := do
  if target.isBare then
    Opening.wait patience
    return .bare target.isReadOnly
  else match (← get).resolve? target.name with
    | none => .fail .cannotOpen
    | some path =>
        target.enter path
        Opening.wait patience
        target.read path

/-- Opens the store that the options name; with `make` a missing file is made. -/
def openStore (options : Options) (make : Bool) : Opening Opened := do
  match Location.parse options.database with
  | .error error => throw (.location error)
  | .ok location => match location.target make with
    | .error error => throw (.target error)
    | .ok target => target.open options.patience

/-- An open store with its tables, which are made where they are missing. -/
def Opened.withTables : Opened → Except EngineFault Opened
  | .file target path (some db) logged => .ok (.file target path (some db) logged)
  | .file target path none logged =>
      if target.isReadOnly then .error .readOnly
      else if !logged && !Companion.journal.fits path then .error .cannotOpen
      else .ok (.file target path (some Database.fresh) logged)
  | .stuck _ fault => .error fault
  | .bare readOnly => if readOnly then .error .readOnly else .ok (.bare readOnly)

/-! ## Closing -/

/-- True for a store without tables. -/
def Opened.isNew : Opened → Bool
  | .file _ _ none _ => true
  | _ => false

/-- The disk after a store was used: by a statement at all, and by one that wrote. A write without
    a log went under a journal. -/
def Disk.leave (disk : Disk) (ran wrote : Bool) : Opened → Disk
  | .file target path _ _ =>
      if target.canLog then if ran then disk.closeLog target path else disk
      else if wrote then disk.erase (Companion.journal.path path)
      else disk
  | .stuck path _ => if ran then disk.withLog path else disk
  | .bare _ => disk

end Purse.CommandLine
