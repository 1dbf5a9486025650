/-
  Purse.CommandLine.Target

  What the storage engine is asked to open for a location.  It is asked by a name with
  settings.  A location with parameters for the engine is asked for by its path, taken
  literally, and those parameters; else a path that starts with `file:` is an address
  in itself, and any other path is the name.

  An address names a machine after two slashes, of which only this one will do, then a
  path, and after a question mark settings `name=value` with `&` between them; a number
  sign ends it.  Settings can lower what may be done with a file and never raise it.
-/
import Purse.CommandLine.Location

namespace Purse.CommandLine

open Text

/-! ## Failures -/

/-- Why the storage engine does not open what it is asked for. -/
inductive EngineFault where
  | machine (name : String)
  | sharing (value : String)
  | access (value : String)
  /-- More is asked for than the program may do. -/
  | accessDenied (value : String)
  | layer (name : String)
  /-- Something else holds the lock. -/
  | locked
  /-- A write to a store that may be read only. -/
  | readOnly
  /-- An unfinished write would have to be undone on a store that may be read only. -/
  | unfinished
  | cannotOpen
  /-- The file holds something else. -/
  | notAStore
  /-- What is there cannot be read like a file. -/
  | unreadable
  /-- The lock beside a file cannot be made. -/
  | unlockable
  /-- The file whose rights a new file is to have cannot be looked at. -/
  | patternMissing
  /-- A log would have to be sorted out through an index that may not change. -/
  | unsettled
  deriving DecidableEq, Repr

/-- The number that the engine gives a fault. -/
def EngineFault.code : EngineFault → Nat
  | .machine _ | .sharing _ | .access _ | .layer _ => 1
  | .accessDenied _ => 3
  | .locked => 5
  | .readOnly => 8
  | .unfinished => 776
  | .cannotOpen => 14
  | .unsettled => 15
  | .notAStore => 26
  | .unreadable => 266
  | .patternMissing => 1802
  | .unlockable => 3850

/-- What the engine says of a fault. -/
def EngineFault.reason : EngineFault → String
  | .machine name => "invalid uri authority: " ++ name
  | .sharing value => "no such cache mode: " ++ value
  | .access value => "no such access mode: " ++ value
  | .accessDenied value => "access mode not allowed: " ++ value
  | .layer name => "no such vfs: " ++ name
  | .locked => "database is locked"
  | .readOnly | .unfinished => "attempt to write a readonly database"
  | .cannotOpen => "unable to open database file"
  | .notAStore => "file is not a database"
  | .unsettled => "locking protocol"
  | .unreadable | .unlockable | .patternMissing => "disk I/O error"

/-- The answer of the engine, with its number. -/
def EngineFault.answer (fault : EngineFault) : String :=
  "(code: " ++ String.ofList (numeral fault.code) ++ ") " ++ fault.reason

/-- Why no address can be made of a location, or why the engine refuses it. -/
inductive TargetError where
  /-- The path holds a NUL. -/
  | nulInPath
  | engine (fault : EngineFault)
  deriving DecidableEq, Repr

/-! ## Addresses -/

/-- A name with settings. -/
structure Address where
  name : List UInt8
  settings : List (String × String)
  deriving DecidableEq, Repr

/-- The bytes up to the first NUL. -/
def upToNul (bytes : List UInt8) : List UInt8 := bytes.takeWhile (· ≠ 0)

/-- The text of a setting's name or value. -/
def settingText (cs : List Char) : String := decodeRepaired (upToNul (unescape cs))

/-- The settings of an address; those without a name do not count. -/
def settingsOf (cs : List Char) : List (String × String) :=
  ((splitAll '&' cs).map fun part =>
    let (name, value) := (splitFirst '=' part).getD (part, [])
    (settingText name, settingText value)).filter (·.1 ≠ "")

/-- The machine that an address names after two slashes, and the rest. -/
def splitMachine : List Char → List Char × List Char
  | '/' :: '/' :: rest => (rest.takeWhile (· ≠ '/'), rest.dropWhile (· ≠ '/'))
  | cs => ([], cs)

/-- Reads an address after its `file:`. -/
def Address.parse (cs : List Char) : Except EngineFault Address :=
  let (machine, rest) := splitMachine cs
  if machine ≠ [] ∧ machine ≠ "localhost".toList then .error (.machine (String.ofList machine))
  else
    let rest := rest.takeWhile (· ≠ '#')
    let (path, settings) := (splitFirst '?' rest).getD (rest, [])
    .ok ⟨upToNul (unescape path), settingsOf settings⟩

/-- The scheme of an address. -/
def addressScheme : List Char := "file:".toList

/-- The value of a parameter as the engine gets it: with pluses for the blanks. -/
def passedOn (value : String) : String :=
  String.ofList ((value.toList.takeWhile (·.toNat ≠ 0)).map fun c => if c = ' ' then '+' else c)

/-- The address of a location. -/
def Location.address (location : Location) : Except TargetError Address :=
  let cs := location.path.toList
  if location.immutable || location.layer.isSome then
    .ok {
      name := upToNul (encodeChars cs)
      settings := (if location.immutable then [("immutable", "true")] else []) ++
        (location.layer.toList.map fun layer => ("vfs", passedOn layer)) }
  else if cs.any (·.toNat = 0) then .error .nulInPath
  else if addressScheme.isPrefixOf cs then
    match Address.parse (cs.drop addressScheme.length) with
    | .ok address => .ok address
    | .error fault => .error (.engine fault)
  else .ok ⟨encodeChars cs, []⟩

/-! ## Rights -/

/-- What may be done with a file. -/
inductive Access where
  | read
  | write
  /-- A missing file is made. -/
  | make
  deriving DecidableEq, Repr

/-- The rank of what may be done: each includes those of lower rank. -/
def Access.rank : Access → Nat
  | .read => 0
  | .write => 1
  | .make => 2

/-- What may be done, and whether the store is a file at all. -/
structure Rights where
  access : Access
  inMemory : Bool
  deriving DecidableEq, Repr

/-- Rights lowered as a setting asks for. In memory everything is allowed. -/
def Rights.lower (rights : Rights) (value : String) (access : Access) :
    Except EngineFault Rights :=
  if !rights.inMemory && rights.access.rank < access.rank then .error (.accessDenied value)
  else .ok ⟨access, false⟩

/-- Rights after a setting. -/
def Rights.apply (rights : Rights) (name value : String) : Except EngineFault Rights :=
  match name with
  | "cache" =>
      if ["shared", "private"].contains value then .ok rights else .error (.sharing value)
  | "mode" => match value with
    | "ro" => rights.lower value .read
    | "rw" => rights.lower value .write
    | "rwc" => rights.lower value .make
    | "memory" => .ok ⟨.write, true⟩
    | _ => .error (.access value)
  | _ => .ok rights

/-- A whole number of 31 bits at the front of a text, in decimal or, after `0x`, in hexadecimal
    digits; any other counts as zero. -/
def leadingNumber (cs : List Char) : Nat :=
  let n := match cs with
    | '0' :: x :: rest =>
        let digits := rest.takeWhile fun c => (Ident.hexValue? c).isSome
        if (x = 'x' ∨ x = 'X') ∧ digits ≠ [] then (Ident.hexNumber? digits).getD 0
        else numeralValue (cs.takeWhile isDigit)
    | _ => numeralValue (cs.takeWhile isDigit)
  if n < 0x80000000 then n else 0

/-- True for a setting that is switched on: by a word in any case, or by a number whose low byte
    is not zero. -/
def isOn (value : String) : Bool :=
  if (value.toList.head?.map isDigit).getD false then leadingNumber value.toList % 256 ≠ 0
  else ["on", "yes", "true"].contains value.toLower

/-- True when the first setting of a name is switched on. -/
def Address.has (address : Address) (name : String) : Bool :=
  ((address.settings.lookup name).map isOn).getD false

/-! ## Targets -/

/-- The layers through which the engine reaches files. -/
inductive Layer where
  /-- Files with locks that other programs see. -/
  | shared
  /-- Files that are kept locked. -/
  | exclusive
  /-- Files without locks. -/
  | unlocked
  /-- Files with locks that are files themselves. -/
  | lockFile
  /-- No files: what is stored is gone afterwards. -/
  | memory
  deriving DecidableEq, Repr

/-- The layer of a name. -/
def Layer.ofName? : String → Option Layer
  | "unix" => some .shared
  | "unix-excl" => some .exclusive
  | "unix-none" => some .unlocked
  | "unix-dotfile" => some .lockFile
  | "memdb" => some .memory
  | _ => none

/-- What the engine is asked to open. -/
structure Target where
  name : List UInt8
  access : Access
  inMemory : Bool
  layer : Layer
  immutable : Bool
  /-- No locks are taken. -/
  lockless : Bool
  /-- The index of a log may not change. -/
  indexFixed : Bool
  /-- The file whose rights a new file is to have. -/
  pattern : Option (List UInt8)
  deriving DecidableEq, Repr

/-- The layer that an address asks for; the last setting decides. -/
def Address.layer (address : Address) : Except EngineFault Layer :=
  match (address.settings.filter (·.1 = "vfs")).getLast? with
  | none => .ok .shared
  | some (_, name) => match Layer.ofName? name with
    | some layer => .ok layer
    | none => .error (.layer name)

/-- What is opened for an address: its settings are applied in their order, then the layer is
    looked up. -/
def Address.target (address : Address) (rights : Rights) : Except EngineFault Target := do
  let rights ← address.settings.foldlM (fun rights (name, value) => rights.apply name value) rights
  let layer ← address.layer
  return {
    name := address.name, access := rights.access, inMemory := rights.inMemory, layer
    immutable := address.has "immutable", lockless := address.has "nolock"
    indexFixed := address.has "readonly_shm"
    pattern := (address.settings.lookup "modeof").map fun name => encodeChars name.toList }

/-- What is opened for a location; only with `make` a missing file may be made. -/
def Location.target (location : Location) (make : Bool) : Except TargetError Target := do
  let address ← location.address
  let access := if location.readOnly then .read else if make then .make else .write
  match address.target ⟨access, location.inMemory⟩ with
  | .ok target => return target
  | .error fault => .error (.engine fault)

/-- True for a store without a name of its own. -/
def Target.isNameless (target : Target) : Bool :=
  target.inMemory || target.name.isEmpty || target.name = encodeChars ":memory:".toList

/-- True for a store that is no file. -/
def Target.isBare (target : Target) : Bool := target.isNameless || target.layer = .memory

/-- True for a target whose lock is a file beside the store. -/
def Target.takesLockFile (target : Target) : Bool :=
  target.layer = .lockFile && !target.lockless && !target.immutable

/-- True for a target that can take the lock of a writer: it may write, or takes no locks. -/
def Target.canReserve (target : Target) : Bool :=
  target.access ≠ .read || target.layer = .unlocked || target.lockless

/-- True for a target whose writes can go into a log beside the file. -/
def Target.canLog (target : Target) : Bool :=
  (target.layer = .shared || target.layer = .exclusive) && !target.lockless && !target.immutable

/-- True for a target with a log whose index is a file. A writer that keeps its files locked has the
    index for itself. -/
def Target.sharesIndex (target : Target) : Bool :=
  target.canLog && (target.layer = .shared || target.access = .read)

/-- True for a target that has to take the index of its log as it is. -/
def Target.keepsIndex (target : Target) : Bool :=
  target.sharesIndex && target.indexFixed && !target.isBare

/-- True for a target that may be read only. A store without a name is not kept from changing. -/
def Target.isReadOnly (target : Target) : Bool :=
  target.access = .read || (target.immutable && !target.isNameless) || target.keepsIndex

end Purse.CommandLine
