/-
  Purse.Proofs.CommandLine.Stores

  What opening and closing a store do to the disk.  A line names at most one store.  Between the
  disks before and after, only that store and the files beside it may differ
  (`Disk.Rewritten`), and no step of opening changes the tables of the store, whether it ends
  well or not (`openStore_keeps`).  A store with tables that is written through a log can always
  be opened (`openStore_of_plain`).
-/
import Purse.CommandLine.Session

namespace Purse.CommandLine

open Store

/-! ## Disks that differ in one store -/

/-- The tables of a store. -/
def Content.tables? : Content → Option Database
  | .store tables _ => tables
  | .foreign => none

/-- The tables of the store at a path. -/
def Disk.tables? (disk : Disk) (path : Path) : Option Database :=
  (disk.content? path).bind Content.tables?

/-- A disk on which a store got new tables. Only it and the files beside it are different. -/
structure Disk.Rewritten (disk : Disk) (path : Path) (tables : Option Database) (new : Disk) :
    Prop where
  tables : new.tables? path = tables
  others : ∀ other, other ≠ path → (∀ companion : Companion, other ≠ companion.path path) →
    new.content? other = disk.content? other

/-- A disk on which the store at a path kept its tables. -/
abbrev Disk.Kept (disk : Disk) (path : Path) (new : Disk) : Prop :=
  disk.Rewritten path (disk.tables? path) new

section

variable {disk new last : Disk} {path : Path} {tables : Option Database} {logged : Bool}
  {content : Content} {companion : Companion}

namespace Disk

theorem tables?_of_content? (h : disk.content? path = some content) :
    disk.tables? path = content.tables? := by
  rw [tables?, h, Option.bind_some]

theorem tables?_congr (h : new.content? path = disk.content? path) :
    new.tables? path = disk.tables? path := by
  rw [tables?, tables?, h]

theorem Kept.refl (disk : Disk) (path : Path) : disk.Kept path disk := ⟨rfl, fun _ _ _ => rfl⟩

theorem Rewritten.trans {before : Option Database} (h : disk.Rewritten path before new)
    (next : new.Rewritten path tables last) : disk.Rewritten path tables last :=
  ⟨next.tables, fun other hp hc => (next.others other hp hc).trans (h.others other hp hc)⟩

theorem Rewritten.trans_kept (h : disk.Rewritten path tables new) (next : new.Kept path last) :
    disk.Rewritten path tables last :=
  h.trans (h.tables ▸ next)

/-- What is put beside a store is not put into it. -/
theorem kept_put_companion (disk : Disk) (path : Path) (companion : Companion) (content : Content) :
    disk.Kept path (disk.put (companion.path path) content) :=
  ⟨tables?_congr (content?_put_other (companion.path_ne path).symm),
    fun _ _ hc => content?_put_other (hc companion)⟩

theorem kept_erase_companion (disk : Disk) (path : Path) (companion : Companion) :
    disk.Kept path (disk.erase (companion.path path)) :=
  ⟨tables?_congr (content?_erase_other (companion.path_ne path).symm),
    fun _ _ hc => content?_erase_other (hc companion)⟩

theorem rewritten_put (disk : Disk) (path : Path) (tables : Option Database) (logged : Bool) :
    disk.Rewritten path tables (disk.put path (.store tables logged)) :=
  ⟨tables?_of_content? (content?_put_self ..), fun _ hp _ => content?_put_other hp⟩

theorem kept_put (h : disk.tables? path = tables) (logged : Bool) :
    disk.Kept path (disk.put path (.store tables logged)) :=
  h ▸ rewritten_put disk path tables logged

theorem kept_withLog (disk : Disk) (path : Path) : disk.Kept path (disk.withLog path) := by
  rw [withLog]
  split
  · exact .refl disk path
  · exact kept_put_companion ..

theorem kept_closeLog (disk : Disk) (target : Target) (path : Path) :
    disk.Kept path (disk.closeLog target path) := by
  rw [closeLog]
  split
  · exact kept_withLog disk path
  · split
    · exact (kept_withLog disk path).trans_kept (kept_put_companion ..)
    · split
      · exact (kept_erase_companion ..).trans_kept (kept_erase_companion ..)
      · exact kept_erase_companion ..

end Disk

/-! ## Open stores -/

/-- True of an open store that is the file at a path, with given tables. -/
def Opened.Shows (path : Path) (tables : Option Database) : Opened → Prop
  | .file _ place shown _ => place = path ∧ shown = tables
  | .stuck place _ => place = path
  | .bare _ => False

theorem Opened.shows_file (target : Target) (path : Path) (tables : Option Database)
    (logged : Bool) : (Opened.file target path tables logged).Shows path tables := ⟨rfl, rfl⟩

/-- Putting an open store back writes its tables. -/
theorem Disk.kept_keep {opened : Opened} (h : opened.Shows path (disk.tables? path)) :
    disk.Kept path (disk.keep opened) := by
  cases opened with
  | file target place tables logged =>
      obtain ⟨rfl, same⟩ := h
      exact Disk.kept_put same.symm logged
  | stuck place fault => exact .refl disk path
  | bare readOnly => exact .refl disk path

theorem Disk.kept_leave {opened : Opened} (h : opened.Shows path tables) (ran wrote : Bool) :
    disk.Kept path (disk.leave ran wrote opened) := by
  cases opened with
  | file target place shown logged =>
      obtain ⟨rfl, -⟩ := h
      rw [Disk.leave]
      repeat' split
      · exact Disk.kept_closeLog ..
      · exact .refl ..
      · exact Disk.kept_erase_companion ..
      · exact .refl ..
  | stuck place fault =>
      obtain rfl : place = path := h
      rw [Disk.leave]
      split
      · exact Disk.kept_withLog ..
      · exact .refl ..
  | bare readOnly => exact h.elim

/-! ## Steps that keep a store -/

/-- True of a step that keeps the tables of the store at a path, whether it ends well or not; what
    it gives when it ends well is good. -/
structure Opening.Keeps {α : Type} (path : Path) (disk : Disk) (step : Opening α)
    (good : α → Prop) : Prop where
  kept : disk.Kept path (step.run disk).2
  result : ∀ a, (step.run disk).1 = .ok a → good a

namespace Opening

variable {α β : Type} {step : Opening α} {next : α → Opening β} {good : α → Prop}
  {goodNext : β → Prop}

theorem Keeps.pure {a : α} (h : good a) : Keeps path disk (Pure.pure a) good :=
  ⟨.refl disk path, fun _ same => Except.ok.inj same ▸ h⟩

theorem Keeps.throw (error : OpenError) : Keeps path disk (MonadExcept.throw error) good :=
  ⟨.refl disk path, nofun⟩

theorem Keeps.fail (fault : EngineFault) : Keeps path disk (Opening.fail fault) good :=
  .throw (.engine fault)

theorem Keeps.set (h : disk.Kept path new) : Keeps path disk (MonadStateOf.set new) fun _ => True :=
  ⟨h, fun _ _ => trivial⟩

theorem Keeps.modify {f : Disk → Disk} (h : disk.Kept path (f disk)) :
    Keeps path disk (modify f) fun _ => True := ⟨h, fun _ _ => trivial⟩

theorem run_bind (step : Opening α) (next : α → Opening β) (disk : Disk) :
    (step >>= next).run disk = match step.run disk with
      | (.ok a, new) => (next a).run new
      | (.error error, new) => (.error error, new) := by
  simp only [ExceptT.run, bind, ExceptT.bind, ExceptT.mk, StateT.bind, ExceptT.bindCont]
  cases step disk with
  | mk outcome new => cases outcome <;> rfl

theorem Keeps.bind (h : Keeps path disk step good)
    (rest : ∀ a new, disk.Kept path new → good a → Keeps path new (next a) goodNext) :
    Keeps path disk (step >>= next) goodNext := by
  obtain ⟨kept, result⟩ := h
  have run := run_bind step next disk
  rcases ran : step.run disk with ⟨error | a, new⟩ <;> rw [ran] at kept result run
  -- a step that fails ends the chain, with the disk that it leaves
  · exact ⟨run ▸ kept, by rw [run]; nofun⟩
  · have later := rest a new kept (result a rfl)
    exact ⟨run ▸ kept.trans_kept later.kept, run ▸ later.result⟩

theorem run_get_bind (next : Disk → Opening α) (disk : Disk) :
    (get >>= next).run disk = (next disk).run disk := rfl

/-- A step that looks at the disk first. -/
theorem Keeps.get_bind {next : Disk → Opening α} (h : Keeps path disk (next disk) good) :
    Keeps path disk (get >>= next) good := ⟨h.kept, h.result⟩

end Opening

/-! ## The steps of opening -/

theorem Opening.wait_keeps (patience : Nat) :
    Keeps path disk (Opening.wait patience) fun _ => True := by
  rw [Opening.wait]
  split
  · exact .throw _
  · exact .pure trivial

section

variable (target : Target)

open Opening

/-- A file is made only where there was none. -/
theorem Target.enter_keeps : Keeps path disk (target.enter path) fun _ => True := by
  refine .get_bind ?_
  split
  · exact .fail _
  split
  · exact .pure trivial
  split
  · exact .fail _
  split
  · rename_i absent _ _
    have none : disk.tables? path = none := by
      rw [Disk.tables?, Option.not_isSome_iff_eq_none.1 absent, Option.bind_none]
    exact .set (Disk.kept_put none false)
  · exact .fail _

theorem Target.takeLock_keeps : Keeps path disk (target.takeLock path) fun _ => True := by
  rw [Target.takeLock]
  split
  · split
    · exact .fail _
    · refine .get_bind ?_
      split
      · exact .fail _
      · exact .pure trivial
  · exact .pure trivial

theorem Target.undo_keeps : Keeps path disk (target.undo path content) fun _ => True := by
  refine .get_bind ?_
  dsimp only
  have erased := disk.kept_erase_companion path .journal
  split
  · split
    · split
      · exact .set erased
      · exact .pure trivial
    · split
      · exact .fail _
      · exact .set erased
  · exact .pure trivial

theorem Target.findLog_keeps : Keeps path disk (target.findLog path content) fun _ => True := by
  refine .get_bind ?_
  dsimp only
  split
  · exact .pure trivial
  split
  · exact .bind (.set (disk.kept_erase_companion path .log)) fun _ _ _ _ => .pure trivial
  split
  · exact .pure trivial
  · exact .fail _

theorem Target.useLog_keeps : Keeps path disk (target.useLog path) fun _ => True := by
  refine .get_bind (.bind (.set (disk.kept_closeLog target path)) fun _ new _ _ => ?_)
  split
  · exact .fail _
  split
  · exact .fail _
  · exact .pure trivial

/-- Switching the log on leaves the tables alone. -/
theorem Target.switchOn_keeps (h : disk.tables? path = tables) :
    Keeps path disk (target.switchOn path tables) (Opened.Shows path tables) := by
  rw [Target.switchOn]
  split
  · exact .fail _
  split
  · exact .fail _
  -- the write that switches the log on repeats the tables that the store has
  have erased := disk.kept_erase_companion path .journal
  have switched := erased.trans_kept (Disk.kept_put (erased.tables.trans h) true)
  refine .bind (.modify switched) fun _ new _ _ => .get_bind ?_
  split
  · exact .pure rfl
  · exact .pure ⟨rfl, rfl⟩

theorem Content.opened_keeps (content : Content) :
    Keeps path disk (content.opened target path) (Opened.Shows path content.tables?) := by
  cases content with
  | foreign => exact .fail _
  | store tables logged => exact .pure ⟨rfl, rfl⟩

theorem Target.readLogged_keeps (found : Bool) (h : disk.tables? path = content.tables?) :
    Keeps path disk (target.readLogged path found content)
      (Opened.Shows path content.tables?) := by
  cases found with
  | false =>
      match content with
      | .foreign => exact .fail _
      | .store tables false => exact target.switchOn_keeps h
      | .store tables true =>
          exact .bind target.useLog_keeps fun _ _ _ _ => Content.opened_keeps target _
  | true =>
      refine .bind target.useLog_keeps fun _ _ _ _ => ?_
      match content with
      | .foreign => exact .fail _
      | .store tables false => exact Content.opened_keeps target (.store tables false)
      | .store tables true => exact Content.opened_keeps target (.store tables true)

theorem Target.readPlain_keeps :
    Keeps path disk (target.readPlain path content) (Opened.Shows path content.tables?) := by
  match content with
  | .foreign => exact .fail _
  | .store tables false => exact Content.opened_keeps target (.store tables false)
  | .store tables true => exact .fail _

/-- Reading a file shows the tables that it had before. -/
theorem Target.read_keeps :
    Keeps path disk (target.read path) (Opened.Shows path (disk.tables? path)) := by
  refine .get_bind ?_
  split
  · exact .fail _
  rename_i content found
  rw [Disk.tables?_of_content? found]
  split
  · exact content.opened_keeps target
  -- the lock, the journal and the log are files beside the store, so that its content is still
  -- the one that was looked up before them
  refine .bind target.takeLock_keeps fun _ unlocked locking _ => ?_
  refine .bind target.undo_keeps fun _ undone undoing _ => ?_
  refine .bind target.findLog_keeps fun log looked looking _ => ?_
  have same : looked.tables? path = content.tables? := by
    rw [looking.tables, undoing.tables, locking.tables, Disk.tables?_of_content? found]
  split
  · exact target.readLogged_keeps log same
  · exact target.readPlain_keeps

end

end

/-! ## Opening the store of a line -/

/-- The path of the store that a target names, unless it is no file. -/
def Target.path? (target : Target) (disk : Disk) : Option Path :=
  if target.isBare then none else disk.resolve? target.name

/-- The path of the store that the options name, unless it is no file. -/
def Options.path? (options : Options) (make : Bool) (disk : Disk) : Option Path :=
  match Location.parse options.database with
  | .error _ => none
  | .ok location => match location.target make with
    | .error _ => none
    | .ok target => target.path? disk

/-- True of a step that leaves the disk alone: it fails or opens a store that is no file. -/
def Opening.LeavesAlone (step : Opening Opened) (disk : Disk) : Prop :=
  (∃ error, step.run disk = (.error error, disk)) ∨
    ∃ readOnly, step.run disk = (.ok (.bare readOnly), disk)

section

variable {options : Options} {make : Bool} {disk : Disk} {path : Path}

theorem Target.open_keeps (target : Target) (patience : Nat) (h : target.path? disk = some path) :
    Opening.Keeps path disk (target.open patience) (Opened.Shows path (disk.tables? path)) := by
  unfold Target.open
  unfold Target.path? at h
  by_cases bare : target.isBare
  · rw [if_pos bare] at h
    cases h
  · rw [if_neg bare] at h ⊢
    refine .get_bind ?_
    simp only [h]
    refine .bind target.enter_keeps fun _ entered entering _ => ?_
    refine .bind (Opening.wait_keeps _) fun _ waited waiting _ => ?_
    rw [← entering.tables, ← waiting.tables]
    exact target.read_keeps

theorem Target.open_of_no_path (target : Target) (patience : Nat) (h : target.path? disk = none) :
    (target.open patience).LeavesAlone disk := by
  unfold Target.open
  unfold Target.path? at h
  by_cases bare : target.isBare
  · rw [if_pos bare, Opening.wait]
    by_cases long : longestPatience < patience
    · rw [if_pos long]
      exact .inl ⟨.patience, rfl⟩
    · rw [if_neg long]
      exact .inr ⟨target.isReadOnly, rfl⟩
  · rw [if_neg bare] at h ⊢
    refine .inl ⟨.engine .cannotOpen, ?_⟩
    rw [Opening.run_get_bind, h]
    rfl

/-- Opening a store keeps its tables and shows them. -/
theorem openStore_keeps (h : options.path? make disk = some path) :
    Opening.Keeps path disk (openStore options make) (Opened.Shows path (disk.tables? path)) := by
  unfold openStore
  unfold Options.path? at h
  cases parsed : Location.parse options.database with
  | error error =>
      rw [parsed] at h
      cases h
  | ok location =>
      simp only [parsed] at h ⊢
      cases aimed : location.target make with
      | error error =>
          rw [aimed] at h
          cases h
      | ok target =>
          simp only [aimed] at h ⊢
          exact target.open_keeps options.patience h

/-- Opening a store with tables keeps and shows these. -/
theorem openStore_of_tables {db : Database} (h : options.path? make disk = some path)
    (stored : disk.tables? path = some db) :
    disk.Rewritten path (some db) ((openStore options make).run disk).2 ∧
      ∀ opened, ((openStore options make).run disk).1 = .ok opened →
        opened.Shows path (some db) := by
  rw [← stored]
  exact ⟨(openStore_keeps h).kept, (openStore_keeps h).result⟩

/-- When the options name no file, opening leaves the disk alone. -/
theorem openStore_of_no_path (h : options.path? make disk = none) :
    (openStore options make).LeavesAlone disk := by
  unfold openStore
  unfold Options.path? at h
  cases parsed : Location.parse options.database with
  | error error => exact .inl ⟨.location error, rfl⟩
  | ok location =>
      simp only [parsed] at h ⊢
      cases aimed : location.target make with
      | error error => exact .inl ⟨.target error, rfl⟩
      | ok target =>
          simp only [aimed] at h ⊢
          exact target.open_of_no_path options.patience h

end

/-! ## Stores that can be used -/

/-- True of a target that may write a store through a log. -/
structure Target.IsPlain (target : Target) : Prop where
  access : target.access ≠ .read
  logs : target.canLog = true
  index : target.indexFixed = false
  pattern : target.pattern = none

/-- True of a step that ends well, with a good result. -/
def Opening.Ends {α : Type} (disk : Disk) (step : Opening α) (good : α → Prop) : Prop :=
  ∃ a new, step.run disk = (.ok a, new) ∧ good a

namespace Opening

variable {α β : Type} {disk new : Disk} {step : Opening α} {next : α → Opening β}
  {good : α → Prop} {goodNext : β → Prop}

theorem Ends.pure {a : α} (h : good a) : Ends disk (Pure.pure a) good := ⟨a, disk, rfl, h⟩

theorem Ends.set (new : Disk) : Ends disk (MonadStateOf.set new) fun _ => True :=
  ⟨(), new, rfl, trivial⟩

theorem Ends.modify (f : Disk → Disk) : Ends disk (modify f) fun _ => True :=
  ⟨(), f disk, rfl, trivial⟩

theorem Ends.bind (h : Ends disk step good)
    (rest : ∀ a new, good a → Ends new (next a) goodNext) :
    Ends disk (step >>= next) goodNext := by
  obtain ⟨a, new, ran, well⟩ := h
  obtain ⟨b, last, ranNext, wellNext⟩ := rest a new well
  exact ⟨b, last, by rw [run_bind, ran]; exact ranNext, wellNext⟩

/-- What a step keeps is there for the next one. -/
theorem Ends.bind_keeps (path : Path) {kept : α → Prop} (h : Ends disk step good)
    (keeps : Keeps path disk step kept)
    (rest : ∀ a new, disk.Kept path new → good a → Ends new (next a) goodNext) :
    Ends disk (step >>= next) goodNext := by
  obtain ⟨a, new, ran, well⟩ := h
  have beside : disk.Kept path new := by
    have both := keeps.kept
    rwa [ran] at both
  obtain ⟨b, last, ranNext, wellNext⟩ := rest a new beside well
  exact ⟨b, last, by rw [run_bind, ran]; exact ranNext, wellNext⟩

theorem Ends.get_bind {next : Disk → Opening α} (h : Ends disk (next disk) good) :
    Ends disk (get >>= next) good := h

end Opening

theorem Opening.wait_ends {disk : Disk} {patience : Nat} (h : patience ≤ longestPatience) :
    Ends disk (Opening.wait patience) fun _ => True := by
  rw [Opening.wait, if_neg (Nat.not_lt.2 h)]
  exact .pure trivial

theorem Content.isEmpty_tables (db : Database) (logged : Bool) :
    (Content.store (some db) logged).isEmpty = false := rfl

namespace Target.IsPlain

variable {target : Target} {disk : Disk} {path : Path} {tables : Option Database} {db : Database}
  {logged : Bool}

open Opening

theorem layer (plain : target.IsPlain) : target.layer ≠ .lockFile := by
  have logs := plain.logs
  intro layer
  simp [Target.canLog, layer] at logs

theorem keepsIndex (plain : target.IsPlain) : target.keepsIndex = false := by
  simp [Target.keepsIndex, plain.index]

theorem immutable (plain : target.IsPlain) : target.immutable = false := by
  have logs := plain.logs
  simp only [Target.canLog, Bool.and_eq_true, Bool.not_eq_true'] at logs
  exact logs.2

theorem isReadOnly (plain : target.IsPlain) : target.isReadOnly = false := by
  simp [Target.isReadOnly, plain.access, plain.immutable, plain.keepsIndex]

theorem enter_ends (plain : target.IsPlain) (there : (disk.content? path).isSome) :
    Ends disk (target.enter path) fun _ => True := by
  refine .get_bind ?_
  rw [plain.pattern, Option.map_none, Option.getD_none, if_neg Bool.false_ne_true, if_pos there]
  exact .pure trivial

theorem takeLock_ends (plain : target.IsPlain) :
    Ends disk (target.takeLock path) fun _ => True := by
  rw [Target.takeLock, Target.takesLockFile, decide_eq_false plain.layer]
  exact .pure trivial

/-- An unfinished write can be undone. -/
theorem undo_ends (plain : target.IsPlain) :
    Ends disk (target.undo path (.store (some db) logged)) fun _ => True := by
  refine .get_bind ?_
  dsimp only
  split
  · rw [Content.isEmpty_tables, if_neg Bool.false_ne_true, if_neg plain.access]
    exact .set _
  · exact .pure trivial

theorem findLog_ends (plain : target.IsPlain) :
    Ends disk (target.findLog path (.store (some db) logged)) fun _ => True := by
  refine .get_bind ?_
  dsimp only
  split
  · exact .pure trivial
  · rw [Content.isEmpty_tables, if_neg Bool.false_ne_true, if_pos plain.logs]
    exact .pure trivial

theorem useLog_ends (plain : target.IsPlain) :
    Ends disk (target.useLog path) fun _ => True := by
  refine .get_bind (.bind (.set _) fun _ _ _ => ?_)
  rw [Target.lacksIndex, plain.keepsIndex]
  exact .pure trivial

theorem switchOn_ends (plain : target.IsPlain) (disk : Disk) (tables : Option Database)
    (fits : Companion.journal.fits path = true) :
    Ends disk (target.switchOn path tables) (· = .file target path tables true) := by
  rw [Target.switchOn, if_neg plain.access, fits]
  refine .bind (.modify _) fun _ _ _ => .get_bind ?_
  rw [Target.lacksIndex, plain.keepsIndex]
  exact .pure rfl

theorem readLogged_ends (plain : target.IsPlain) (fits : Companion.journal.fits path = true)
    (found : Bool) :
    Ends disk (target.readLogged path found (.store tables logged)) fun opened =>
      ∃ logged, opened = .file target path tables logged := by
  cases found with
  | false =>
      cases logged with
      | false =>
          obtain ⟨opened, new, ran, rfl⟩ := plain.switchOn_ends disk tables fits
          exact ⟨_, new, ran, true, rfl⟩
      | true => exact .bind plain.useLog_ends fun _ _ _ => .pure ⟨true, rfl⟩
  | true =>
      refine .bind plain.useLog_ends fun _ _ _ => ?_
      cases logged <;> exact .pure ⟨_, rfl⟩

theorem read_ends (plain : target.IsPlain) (fits : Companion.journal.fits path = true)
    (stored : disk.tables? path = some db) :
    Ends disk (target.read path) fun opened =>
      ∃ logged, opened = .file target path (some db) logged := by
  obtain ⟨content, found, same⟩ := Option.bind_eq_some_iff.1 stored
  cases content with
  | foreign => cases same
  | store tables logged =>
      obtain rfl : tables = some db := same
      refine .get_bind ?_
      rw [found]
      dsimp only
      rw [plain.immutable, if_neg Bool.false_ne_true]
      refine .bind plain.takeLock_ends fun _ _ _ => ?_
      refine .bind plain.undo_ends fun _ _ _ => ?_
      refine .bind plain.findLog_ends fun log _ _ => ?_
      rw [if_pos plain.logs]
      exact plain.readLogged_ends fits log

theorem open_ends (plain : target.IsPlain) {patience : Nat} (patient : patience ≤ longestPatience)
    (fits : Companion.journal.fits path = true) (named : target.path? disk = some path)
    (stored : disk.tables? path = some db) :
    Ends disk (target.open patience) fun opened =>
      ∃ logged, opened = .file target path (some db) logged := by
  unfold Target.open
  unfold Target.path? at named
  by_cases bare : target.isBare
  · rw [if_pos bare] at named
    cases named
  · rw [if_neg bare] at named ⊢
    refine .get_bind ?_
    simp only [named]
    have there : (disk.content? path).isSome := by
      obtain ⟨content, found, -⟩ := Option.bind_eq_some_iff.1 stored
      rw [found, Option.isSome_some]
    have entered := plain.enter_ends there
    refine .bind_keeps path entered target.enter_keeps fun _ _ entering _ => ?_
    refine .bind_keeps path (wait_ends patient) (wait_keeps _) fun _ _ waiting _ => ?_
    exact plain.read_ends fits (waiting.tables.trans (entering.tables.trans stored))

end Target.IsPlain

/-- True of options that name a store to be written through a log, and do not wait too long. -/
def Options.IsPlain (options : Options) (make : Bool) : Prop :=
  options.patience ≤ longestPatience ∧
    ∃ location target, Location.parse options.database = .ok location ∧
      location.target make = .ok target ∧ target.IsPlain

/-- Such a store with tables can be opened and written, whatever else the disk holds. -/
theorem openStore_of_plain {options : Options} {make : Bool} {disk : Disk} {path : Path}
    {db : Database} (plain : options.IsPlain make) (fits : Companion.journal.fits path = true)
    (named : options.path? make disk = some path) (stored : disk.tables? path = some db) :
    ∃ target logged, target.isReadOnly = false ∧
      ((openStore options make).run disk).1 = .ok (.file target path (some db) logged) := by
  obtain ⟨patient, location, target, parsed, aimed, plain⟩ := plain
  have named : target.path? disk = some path := by
    unfold Options.path? at named
    simpa only [parsed, aimed] using named
  obtain ⟨opened, new, ran, logged, rfl⟩ := plain.open_ends patient fits named stored
  refine ⟨target, logged, plain.isReadOnly, ?_⟩
  unfold openStore
  simp only [parsed, aimed, ran]

end Purse.CommandLine
