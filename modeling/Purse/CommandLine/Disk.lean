/-
  Purse.CommandLine.Disk

  The folders and files that the program can see, and how the name of a file leads to one of
  them.  A path is the list of the names from the root down.  A name that starts with a
  slash starts at the root, any other one at home; points go nowhere, two points go
  up, and everything on the way down is looked at, so that a path through a file, or
  through a name that is too long, leads nowhere even if it comes up again.
-/
import Purse.Store.Archive
import Purse.Text.Split

namespace Purse.CommandLine

open Store Text

/-- A name in a folder. -/
abbrev Name := List UInt8

/-- A path: the names from the root down. -/
abbrev Path := List Name

/-- What a file holds. -/
inductive Content where
  /-- A store. Without tables the file is new; with a log, writes do not go to it at once. -/
  | store (tables : Option Database) (logged : Bool)
  /-- Something else. -/
  | foreign
  deriving DecidableEq, Repr

/-- True for a file without a byte. -/
def Content.isEmpty : Content → Bool
  | .store none false => true
  | _ => false

/-- The text of a file. -/
def Content.archive : Content → String
  | .foreign => "\n"
  | .store none false => ""
  | .store tables logged =>
      let tables := Json.optional (tables.map Database.toJson)
      (Json.object [("logged", .bool logged), ("tables", tables)]).pretty ++ "\n"

/-- What is in a file with a text. -/
def Content.ofArchive (text : String) : Content :=
  if text.isEmpty then .store none false
  else match Json.read? text with
    | some (.object [("logged", .bool logged), ("tables", .null)]) => .store none logged
    | some (.object [("logged", .bool logged), ("tables", tables)]) =>
        match Database.ofJson? tables with
        | some db => .store (some db) logged
        | none => .foreign
    | _ => .foreign

/-- The folders and files that the program can see. -/
structure Disk where
  /-- The folder in which the program runs. -/
  home : Path
  folders : List Path
  files : List (Path × Content)

namespace Disk

/-- A disk without files on which a folder and those around it exist. -/
def withHome (home : Path) : Disk :=
  ⟨home, (List.range (home.length + 1)).map home.take, []⟩

/-- The disk with something in a file. -/
def put (disk : Disk) (path : Path) (content : Content) : Disk :=
  { disk with files := (path, content) :: disk.files.filter (·.1 ≠ path) }

/-- The disk without a file. -/
def erase (disk : Disk) (path : Path) : Disk :=
  { disk with files := disk.files.filter (·.1 ≠ path) }

/-- What is in a file. -/
def content? (disk : Disk) (path : Path) : Option Content := disk.files.lookup path

/-- True for a file that is there and holds a byte. -/
def isFilled (disk : Disk) (path : Path) : Bool :=
  ((disk.content? path).map fun content => !content.isEmpty).getD false

/-- True for a path with a file or a folder. -/
def isTaken (disk : Disk) (path : Path) : Bool :=
  (disk.content? path).isSome || disk.folders.contains path

/-- Dropping a file keeps what is found in the other ones. -/
theorem lookup_filter_ne {files : List (Path × Content)} {path other : Path} (h : other ≠ path) :
    (files.filter (·.1 ≠ path)).lookup other = files.lookup other := by
  induction files with
  | nil => rfl
  | cons file files ih =>
      obtain ⟨p, c⟩ := file
      by_cases hp : p = path
      · subst hp
        simpa [List.lookup_cons, beq_false_of_ne h] using ih
      · by_cases ho : other = p
        · simp [hp, ho]
        · simpa [hp, List.lookup_cons, beq_false_of_ne ho] using ih

/-- A file holds what was put into it. -/
@[simp] theorem content?_put_self (disk : Disk) (path : Path) (content : Content) :
    (disk.put path content).content? path = some content := by
  simp [content?, put]

/-- Putting something into a file leaves the other ones alone. -/
theorem content?_put_other {disk : Disk} {path other : Path} {content : Content}
    (h : other ≠ path) : (disk.put path content).content? other = disk.content? other := by
  simp only [content?, put, List.lookup_cons, beq_false_of_ne h, lookup_filter_ne h]

/-- Erasing a file leaves the other ones alone. -/
theorem content?_erase_other {disk : Disk} {path other : Path} (h : other ≠ path) :
    (disk.erase path).content? other = disk.content? other := by
  simp only [content?, erase, lookup_filter_ne h]

/-! ## Resolving names -/

/-- The byte that stands between names. -/
def slash : UInt8 := 0x2f

/-- The byte that names a folder from inside it. -/
def point : UInt8 := 0x2e

/-- The largest number of bytes of a path, with room for the files beside it. -/
def longestPath : Nat := 512

/-- The largest number of bytes of a name. -/
def longestName : Nat := 255

/-- The most bytes that the name of a file beside a store has more than the store's. -/
def longestEnding : Nat := 8

/-- The number of bytes of a path, with a slash before each name. -/
def pathLength (path : Path) : Nat := path.foldl (fun n name => n + name.length + 1) 0

/-- The path one name further. -/
def advance (path : Path) (name : Name) : Path :=
  if name = [] ∨ name = [point] then path
  else if name = [point, point] then path.dropLast
  else path ++ [name]

/-- The paths that a name leads through, from its start on. -/
def visited (home : Path) (name : List UInt8) : List Path :=
  let start := if name.head? = some slash then [] else home
  let names := splitAll slash name
  (List.range (names.length + 1)).map fun n => (names.take n).foldl advance start

/-- True for a path on which a look-up stops: below a file, or at a name in a folder that is too
    long for any folder. -/
def isBlocked (disk : Disk) (path : Path) : Bool :=
  match path.getLast? with
  | none => false
  | some name =>
      (disk.content? path.dropLast).isSome ||
        (disk.folders.contains path.dropLast && longestName < name.length)

/-- The path of a file's name. -/
def resolve? (disk : Disk) (name : List UInt8) : Option Path :=
  let paths := visited disk.home name
  match paths.getLast? with
  | none => none
  | some path =>
      if paths.any (fun p => disk.isBlocked p || longestPath ≤ pathLength p) then none
      else if path.isEmpty || longestPath < pathLength path + longestEnding then none
      else some path

/-- True for a name under which the system finds something. Unlike the path of a store it is walked
    folder by folder. -/
def finds (disk : Disk) (name : List UInt8) : Bool :=
  let paths := visited disk.home name
  name ≠ [] && paths.dropLast.all disk.folders.contains &&
    (paths.getLast?.map disk.isTaken).getD false

end Disk

end Purse.CommandLine
