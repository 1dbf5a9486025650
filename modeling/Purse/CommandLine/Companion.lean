/-
  Purse.CommandLine.Companion

  The files that the engine keeps beside a store while it is in use: the journal, from which an
  unfinished write is undone; the log, which holds the writes that are not in the store yet; the
  index of the log; and the lock, for a layer whose locks are files.  Their names are the name
  of the store with an ending, so another store can have such a name, and is then taken for the
  companion of the first.
-/
import Purse.CommandLine.Disk

namespace Purse.CommandLine

/-- What a file beside a store is for. -/
inductive Companion where
  | journal
  | log
  | index
  | lock
  deriving DecidableEq, Repr

namespace Companion

/-- All companions of a store. -/
def all : List Companion := [.journal, .log, .index, .lock]

/-- What the name of a companion has after the name of the store. -/
def ending (companion : Companion) : Name := (endingChars companion).map (·.val.toUInt8)
where
  /-- The characters of an ending; all are ASCII. -/
  endingChars : Companion → List Char
    | .journal => ['-', 'j', 'o', 'u', 'r', 'n', 'a', 'l']
    | .log => ['-', 'w', 'a', 'l']
    | .index => ['-', 's', 'h', 'm']
    | .lock => ['.', 'l', 'o', 'c', 'k']

/-- The name of a companion of a file. -/
def name (companion : Companion) (file : Path) : Name :=
  file.getLast?.getD [] ++ companion.ending

/-- The path of a companion of a file. -/
def path (companion : Companion) (file : Path) : Path := file.dropLast ++ [companion.name file]

/-- True for a companion whose name is not too long for a folder. -/
def fits (companion : Companion) (file : Path) : Bool :=
  (companion.name file).length ≤ Disk.longestName

theorem ending_ne_nil (companion : Companion) : companion.ending ≠ [] := by
  cases companion <;> decide

/-- A companion is another file than the store. -/
theorem path_ne (companion : Companion) (file : Path) : companion.path file ≠ file := by
  intro h
  have last := congrArg List.getLast? h
  rw [path, List.getLast?_append, List.getLast?_singleton, Option.some_or] at last
  have long := congrArg List.length (show companion.name file = file.getLast?.getD [] by
    rw [← last, Option.getD_some])
  rw [name, List.length_append] at long
  exact companion.ending_ne_nil (List.eq_nil_of_length_eq_zero (by omega))

end Companion

end Purse.CommandLine
