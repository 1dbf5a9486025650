/-
  Purse.Main

  The program: it takes its arguments, the environment, the clock and a source of random
  identifiers, looks at the paths that lead to the store of the line, runs the line, and
  writes back what changed.
-/
import Purse.CommandLine.Session
import Purse.CommandLine.Usage
import Std.Time.DateTime.Timestamp

open Purse Purse.CommandLine

/-- The current time. -/
def readClock : IO Instant := do
  let t ← Std.Time.Timestamp.now
  return ⟨t.val.second.val, t.val.nano.val.toNat⟩

/-- Random identifiers; an operation takes two at most. -/
def drawIdents : IO (Nat → Ident) := do
  let first ← IO.getRandomBytes 16
  let second ← IO.getRandomBytes 16
  return fun n => Ident.ofRandom (if n = 0 then first else second).toList

/-- The variables of the environment that the grammar names. -/
def readEnvironment : IO Environment := do
  let found ← programSpec.args.filterMapM fun arg => do
    match arg.variableName with
    | none => return none
    | some name => return (← IO.getEnv name).map (name, ·)
  return fun name => found.lookup name

/-- A path as the system writes it, when its bytes are text. -/
def pathText? (path : Path) : Option String :=
  Text.decodeBytes? (path.flatMap fun name => Disk.slash :: name)

/-- True for a folder that exists. -/
def folderExists (folder : String) : IO Bool := do
  try
    let _ ← IO.FS.realPath (folder ++ "/.")
    return true
  catch _ => return false

/-- What is in a file that exists. -/
def readContent? (file : String) : IO (Option Content) := do
  try
    let bytes ← IO.FS.readBinFile file
    return some (((Text.decodeBytes? bytes.toList).map Content.ofArchive).getD .foreign)
  catch _ => return none

/-- The disk with what is found at a path. -/
def probe (disk : Disk) (path : Path) : IO Disk := do
  match pathText? path with
  | none => return disk
  | some text =>
      if ← folderExists text then return { disk with folders := path :: disk.folders }
      else match ← readContent? text with
        | some content => return disk.put path content
        | none => return disk

/-- The folder in which the program runs. -/
def readHome : IO Path := do
  let name := (← IO.currentDir).toString.toUTF8.toList
  return ((Disk.visited [] name).getLast?).getD []

/-- Writes what a run left at a path, if it is not what was there. -/
def save (before after : Disk) (path : Path) : IO Unit := do
  if after.content? path ≠ before.content? path then
    if let some text := pathText? path then
      match after.content? path with
      | some content => IO.FS.writeFile text content.archive
      | none => IO.FS.removeFile text

def main (args : List String) : IO UInt32 := do
  let env ← readEnvironment
  let moment := ⟨← readClock, ← drawIdents⟩
  let home ← readHome
  let paths := linePaths env args home
  let disk ← paths.foldlM probe (Disk.withHome home)
  match runLine env args moment disk with
  | .error error =>
      if error.isRequest then IO.print error.message else IO.eprint error.message
      return UInt32.ofNat error.status
  | .ok run =>
      paths.forM (save disk run.disk)
      IO.print run.report.output
      IO.eprint run.report.errors
      return UInt32.ofNat run.report.status
