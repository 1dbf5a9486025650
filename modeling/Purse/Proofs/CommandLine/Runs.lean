/-
  Purse.Proofs.CommandLine.Runs

  Runs of the program on a store with tables.  A line that is read always ends in a run, which
  leaves all other stores alone and does to the store of the line what the one request of its
  command does (`runLine_carries`).  A run that fails leaves the tables as they were, and its
  exit status tells the kind of the failure.
-/
import Purse.Proofs.CommandLine.Requests
import Purse.Proofs.CommandLine.Stores
import Purse.Proofs.Ledger.Effects

namespace Purse.CommandLine

open Service Store Text

/-! ## Reports -/

/-- Why a run fails. -/
inductive Refusal where
  /-- The store cannot be opened, or cannot be made. -/
  | opening (error : OpenError)
  | command (failure : Failure)

/-- The kind of a rejection by the service. -/
def Refusal.kind? : Refusal → Option ErrorKind
  | .opening _ => none
  | .command failure => failure.kind?

/-- True of a report whose exit status tells the kind of a refusal. -/
structure Report.Tells (report : Report) (refusal : Option Refusal) : Prop where
  success : report.status = 0 ↔ refusal = none
  notFound : report.status = 2 ↔ refusal.bind Refusal.kind? = some .notFound
  invalidArgument : report.status = 3 ↔ refusal.bind Refusal.kind? = some .invalidArgument
  permissionDenied : report.status = 4 ↔ refusal.bind Refusal.kind? = some .permissionDenied
  other : report.status = 1 ↔ refusal ≠ none ∧
    (refusal.bind Refusal.kind? = none ∨ refusal.bind Refusal.kind? = some .internal)

theorem openReport_tells (context : String) (error : OpenError) :
    (openReport context error).Tells (some (.opening error)) := by
  constructor <;> simp [openReport, Refusal.kind?]

theorem Report.tells_none {report : Report} (h : report.status = 0) : report.Tells none := by
  constructor <;> simp [h]

theorem Ending.report_tells (ending : Ending) :
    ending.report.Tells (ending.failure.map .command) := by
  obtain ⟨output, failure, database, drawn⟩ := ending
  cases failure with
  | none => constructor <;> simp [Ending.report]
  | some failure =>
      cases failure with
      | service error =>
          cases kind : error.kind <;> constructor <;>
            simp [Ending.report, Failure.status, Refusal.kind?, Failure.kind?, kind]
      | noCaller | inconsistent =>
          constructor <;> simp [Ending.report, Failure.status, Refusal.kind?, Failure.kind?]

/-! ## Commands on open stores -/

/-- True of an open store on which a command can be carried out. -/
def Opened.serves (command : Command) : Opened → Bool
  | .file target _ (some _) _ => !(target.isReadOnly && command.writes)
  | _ => false

/-- True of the ending of a command that could not be carried out: it failed, as it should where it
    asks for nothing, and left the database alone. -/
structure Ending.Refuses (ending : Ending) (options : Options) (command : Command)
    (moment : Moment) (db : Database) : Prop where
  failure : ending.failure ≠ none
  undecoded : ∀ failure, command.request? options moment = .error failure →
    ending.failure = some failure
  database : ending.database = db

section

variable {options : Options} {command : Command} {moment : Moment} {db left : Database}
  {path : Path} {opened : Opened} {disk : Disk}

theorem failure_runCommand_of_undecoded {failure : Failure}
    (h : command.request? options moment = .error failure) :
    (runCommand options command moment db).failure = some failure := by
  rw [(runCommand_shows options command moment db).failure, Command.effect, h]
  rfl

/-- A failure of decoding shows before any statement. -/
theorem Failure.isEarly_of_undecoded {failure : Failure} (h : failure.IsUndecoded options) :
    failure.isEarly = true := by
  obtain ⟨rfl, -⟩ | invalid := h
  · rfl
  · cases failure with
    | service error => exact beq_iff_eq.2 (Option.some.inj invalid)
    | noCaller | inconsistent => cases invalid

theorem runBlocked_refuses (options : Options) (command : Command) (moment : Moment)
    (db : Database) :
    (runBlocked options command moment db).Refuses options command moment db := by
  rw [runBlocked]
  -- whether the fresh database is used or the one in the store, decoding fails in the same way
  cases failed : (runCommand options command moment Database.fresh).failure with
  | none =>
      refine ⟨nofun, fun failure undecoded => ?_, rfl⟩
      rw [failure_runCommand_of_undecoded undecoded] at failed
      cases failed
  | some failure =>
      dsimp only
      split
      · refine ⟨nofun, fun other undecoded => ?_, rfl⟩
        rw [← failed, failure_runCommand_of_undecoded undecoded]
      · rename_i late
        refine ⟨nofun, fun other undecoded => ?_, rfl⟩
        rw [failure_runCommand_of_undecoded undecoded] at failed
        cases failed
        exact absurd (Failure.isEarly_of_undecoded (request?_failsBy _ _ _ _ undecoded)) late

/-- A record whose making fails for no other reason cannot be stored. -/
theorem unstored_refuses (attempt : Attempt) :
    (match (runCommand options command moment db).failure with
      | some _ => { runCommand options command moment db with database := db }
      | none => unavailable attempt db (runCommand options command moment db).drawn).Refuses
        options command moment db := by
  split
  · rename_i failure failed
    exact ⟨failed ▸ nofun, fun _ undecoded => failure_runCommand_of_undecoded undecoded, rfl⟩
  · rename_i none
    refine ⟨nofun, fun failure undecoded => ?_, rfl⟩
    rw [failure_runCommand_of_undecoded undecoded] at none
    cases none

/-- A store that may be read only refuses every write. -/
theorem runReadOnly_refuses (options : Options) (moment : Moment) (db : Database)
    (h : command.writes = true) :
    (runReadOnly options command moment db).Refuses options command moment db := by
  cases command with
  | createWallet | createProduct => exact unstored_refuses _
  | renameWallet | deleteWallet | updateProduct | deleteProduct | credit | transfer | purchase =>
      rw [runReadOnly]
      exact runBlocked_refuses ..
  | _ => cases h

theorem runReadOnly_of_not_writes (h : command.writes = false) :
    runReadOnly options command moment db = runCommand options command moment db := by
  cases command <;> first | rfl | cases h

/-- An open store that serves is a file, on which the command is carried out. -/
theorem Opened.eq_file_of_serves (options : Options) (moment : Moment)
    (h : opened.serves command = true)
    (shows : opened.Shows path (some db)) :
    ∃ target logged, opened = .file target path (some db) logged ∧
      opened.run options command moment = runCommand options command moment db := by
  cases opened with
  | bare readOnly => exact shows.elim
  | stuck place fault => cases h
  | file target place tables logged =>
      obtain ⟨rfl, rfl⟩ := shows
      refine ⟨target, logged, rfl, ?_⟩
      rw [Opened.run]
      split
      · rename_i readOnly
        rw [Opened.serves, readOnly, Bool.true_and, Bool.not_eq_true'] at h
        exact runReadOnly_of_not_writes h
      · rfl

/-- An open store that does not serve refuses and shows the same tables afterwards. -/
theorem Opened.refuses_of_not_serves (options : Options) (moment : Moment)
    (h : opened.serves command = false)
    (shows : opened.Shows path (some db)) :
    (∃ base, (opened.run options command moment).Refuses options command moment base) ∧
      (opened.leave (opened.run options command moment).database).Shows path (some db) := by
  cases opened with
  | bare readOnly => exact shows.elim
  | stuck place fault => exact ⟨⟨_, runBlocked_refuses ..⟩, shows⟩
  | file target place tables logged =>
      obtain ⟨rfl, rfl⟩ := shows
      rw [Opened.serves, Bool.not_eq_false', Bool.and_eq_true] at h
      have refuses := runReadOnly_refuses options moment db h.2
      have ran : (Opened.file target place (some db) logged).run options command moment =
          runReadOnly options command moment db := if_pos h.1
      rw [ran]
      exact ⟨⟨db, refuses⟩, rfl, congrArg some refuses.database⟩

end

/-! ## How commands fare -/

/-- Why the tables cannot be made in an open store, if they cannot. -/
def Opened.unmade? (opened : Opened) : Option OpenError :=
  match opened.withTables with
  | .error fault => some (.tables fault)
  | .ok _ => none

/-- How a command fares on a store with the tables `db`, after the store could be opened or not:
    whether it is refused, and the tables that it leaves. -/
inductive Command.Fares (options : Options) (command : Command) (moment : Moment) (db : Database) :
    Except OpenError Opened → Option Refusal → Database → Prop
  | unopened (error : OpenError) : Fares options command moment db (.error error)
      (some (.opening error)) db
  /-- A store that is there is not made again. -/
  | made {opened : Opened} (init : command = .init) :
      Fares options command moment db (.ok opened) (opened.unmade?.map .opening) db
  /-- A store that can be used is changed as the request of the command changes it. -/
  | served {opened : Opened} (runs : command ≠ .init) (able : opened.serves command = true) :
      Fares options command moment db (.ok opened)
        ((command.effect options moment db).1.map .command) (command.effect options moment db).2
  /-- Any other store stays as it is. That the command asks for nothing shows all the same. -/
  | refused {opened : Opened} {failure : Failure} (runs : command ≠ .init)
      (unable : opened.serves command = false)
      (fails : (opened.run options command moment).failure = some failure)
      (undecoded : ∀ other, command.request? options moment = .error other → failure = other) :
      Fares options command moment db (.ok opened) (some (.command failure)) db

namespace Command.Fares

variable {options : Options} {command : Command} {moment : Moment} {db left : Database}
  {opening : Except OpenError Opened} {refusal : Option Refusal}

theorem left_of_refusal (h : command.Fares options moment db opening refusal left)
    (refused : refusal ≠ none) : left = db := by
  cases h with
  | served =>
      cases failed : (command.effect options moment db).1 with
      | none => exact absurd (by rw [failed]; rfl) refused
      | some failure => exact Command.effect_of_failure failed
  | _ => rfl

theorem left_of_not_writes (h : command.Fares options moment db opening refusal left)
    (reads : command.writes = false) : left = db := by
  cases h with
  | served => exact Command.effect_of_not_writes reads
  | _ => rfl

theorem left_of_undecoded (h : command.Fares options moment db opening refusal left)
    {failure : Failure} (undecoded : command.request? options moment = .error failure) :
    left = db := by
  cases h with
  | served => rw [Command.effect, undecoded, effectOf]
  | _ => rfl

/-- On a store that is open a failure of decoding shows. -/
theorem refusal_of_undecoded {opened : Opened}
    (h : command.Fares options moment db (.ok opened) refusal left) {failure : Failure}
    (undecoded : command.request? options moment = .error failure) :
    refusal = some (.command failure) := by
  cases h with
  | made init => subst init; cases undecoded
  | served => rw [Command.effect, undecoded, effectOf, Option.map_some]
  | refused runs unable fails other => rw [other failure undecoded]

theorem failure?_checkIntegrity_eq_none (moment : Moment) :
    Request.checkIntegrity.failure? moment db = none ↔
      ∃ report, Service.checkIntegrity db = .ok report ∧ report.isOk = true := by
  rw [Request.failure?]
  cases Service.checkIntegrity db with
  | error error => simp
  | ok report => simp

/-- A check ends well when the store can be used, and the check of the service ends well and finds
    nothing. -/
theorem check {opened : Opened}
    (h : Command.check.Fares options moment db (.ok opened) refusal left) :
    refusal = none ↔ opened.serves .check = true ∧
      ∃ report, Service.checkIntegrity db = .ok report ∧ report.isOk = true := by
  cases h with
  | made init => cases init
  | served runs able =>
      rw [Option.map_eq_none_iff, able, eq_self_iff_true, true_and]
      exact failure?_checkIntegrity_eq_none moment
  | refused runs unable => simp [unable]

/-- On a store that can be used every command has the effect of its request. -/
theorem of_serves {opened : Opened}
    (h : command.Fares options moment db (.ok opened) refusal left)
    (able : opened.serves command = true) :
    refusal = (command.effect options moment db).1.map .command ∧
      left = (command.effect options moment db).2 := by
  cases h with
  | made init =>
      subst init
      cases opened with
      | file target path tables logged =>
          cases tables with
          | none => cases able
          | some tables => exact ⟨rfl, rfl⟩
      | stuck | bare => cases able
  | served => exact ⟨rfl, rfl⟩
  | refused _ unable => rw [able] at unable; cases unable

end Command.Fares

/-! ## Runs -/

section

variable {options : Options} {command : Command} {moment : Moment} {db : Database} {path : Path}
  {disk : Disk}

/-- Putting back a store that still has its tables keeps them. -/
theorem Disk.Rewritten.keep_leave {new : Disk} {opened : Opened}
    (h : disk.Rewritten path (some db) new) (shows : opened.Shows path (some db))
    (ran wrote : Bool) :
    disk.Rewritten path (some db) ((new.keep opened).leave ran wrote opened) :=
  (h.trans_kept (Disk.kept_keep (h.tables ▸ shows))).trans_kept (Disk.kept_leave shows ran wrote)

/-- Putting a store back with new tables. -/
theorem Disk.Rewritten.put_leave {before : Option Database} {new : Disk}
    (h : disk.Rewritten path before new) (target : Target) (left : Database)
    (logged ran wrote : Bool) :
    disk.Rewritten path (some left) ((new.put path (.store (some left) logged)).leave ran wrote
      (.file target path (some left) logged)) :=
  (h.trans (Disk.rewritten_put ..)).trans_kept
    (Disk.kept_leave (Opened.shows_file target path (some left) logged) ran wrote)

/-- True of a run on a disk with the tables `db` at a path that tells a refusal, or none, and leaves
    other tables there, just as its command fares. -/
structure Run.Carries (run : Run) (options : Options) (command : Command) (moment : Moment)
    (disk : Disk) (path : Path) (db : Database) (opening : Except OpenError Opened)
    (refusal : Option Refusal) (left : Database) : Prop where
  disk : disk.Rewritten path (some left) run.disk
  report : run.report.Tells refusal
  fares : command.Fares options moment db opening refusal left

/-- A run that takes effect succeeds. -/
theorem Run.Carries.of_effect {run : Run} {opening : Except OpenError Opened}
    {refusal : Option Refusal} {left after : Database}
    (h : run.Carries options command moment disk path db opening refusal left)
    (done : refusal = (command.effect options moment db).1.map .command ∧
      left = (command.effect options moment db).2)
    (effect : command.effect options moment db = (none, after)) :
    run.report.status = 0 ∧ run.disk.tables? path = some after := by
  rw [effect] at done
  obtain ⟨rfl, rfl⟩ := done
  exact ⟨h.report.success.2 rfl, h.disk.tables⟩

/-- Making a store that is there keeps it. -/
theorem runInit_carries (moment : Moment) (h : options.path? true disk = some path)
    (stored : disk.tables? path = some db) :
    ∃ refusal, (runInit options disk).Carries options .init moment disk path db
      ((openStore options true).run disk).1 refusal db := by
  obtain ⟨kept, shows⟩ := openStore_of_tables h stored
  unfold runInit
  generalize (openStore options true).run disk = outcome at kept shows ⊢
  obtain ⟨error | opened, new⟩ := outcome
  · exact ⟨_, kept, openReport_tells _ error, .unopened error⟩
  have shown := shows opened rfl
  cases opened with
  | bare readOnly => exact shown.elim
  | stuck place fault =>
      exact ⟨_, kept.keep_leave shown true false, openReport_tells _ _,
        .made rfl⟩
  | file target place tables logged =>
      obtain ⟨rfl, rfl⟩ := shown
      have same := Opened.shows_file target place (some db) logged
      exact ⟨none, kept.keep_leave same true false, Report.tells_none rfl, .made rfl⟩

/-- Running a command on a store with tables does what the command asks for. -/
theorem runOn_carries (h : options.path? false disk = some path)
    (stored : disk.tables? path = some db) (runs : command ≠ .init) :
    ∃ refusal left, (runOn options command moment disk).Carries options command moment disk path db
      ((openStore options false).run disk).1 refusal left := by
  obtain ⟨kept, shows⟩ := openStore_of_tables h stored
  unfold runOn
  generalize (openStore options false).run disk = outcome at kept shows ⊢
  obtain ⟨error | opened, new⟩ := outcome
  · exact ⟨_, _, kept, openReport_tells _ error, .unopened error⟩
  have shown := shows opened rfl
  -- only a store that serves gets new tables: those that the command leaves
  cases serves : opened.serves command with
  | true =>
      obtain ⟨target, logged, rfl, ran⟩ :=
        Opened.eq_file_of_serves options moment serves shown
      have done := runCommand_shows options command moment db
      rw [← ran] at done
      refine ⟨_, _, done.database ▸ kept.put_leave target _ logged _ _,
        done.failure ▸ Ending.report_tells _, .served runs serves⟩
  | false =>
      obtain ⟨⟨base, refuses⟩, showsAfter⟩ :=
        Opened.refuses_of_not_serves options moment serves shown
      obtain ⟨failure, failed⟩ := Option.ne_none_iff_exists'.1 refuses.failure
      have told := Ending.report_tells (opened.run options command moment)
      rw [failed] at told
      refine ⟨_, _, kept.keep_leave showsAfter _ _, told,
        .refused runs serves failed fun other undecoded => ?_⟩
      exact Option.some.inj (failed.symm.trans (refuses.undecoded other undecoded))

/-- When the options name no file, nothing is made. -/
theorem disk_runInit_of_no_path (h : options.path? true disk = none) :
    (runInit options disk).disk = disk := by
  unfold runInit
  obtain ⟨error, opening⟩ | ⟨readOnly, opening⟩ := openStore_of_no_path h
  · rw [opening]
  · rw [opening]
    cases readOnly <;> rfl

theorem disk_runOn_of_no_path (h : options.path? false disk = none) :
    (runOn options command moment disk).disk = disk := by
  unfold runOn
  obtain ⟨error, opening⟩ | ⟨readOnly, opening⟩ := openStore_of_no_path h
  · rw [opening]
  · rw [opening]
    rfl

end

/-- The store of a command when it is open, or why it cannot be opened. -/
def Options.opening (options : Options) (command : Command) (disk : Disk) :
    Except OpenError Opened :=
  ((openStore options (command = .init)).run disk).1

theorem exists_run_of_parsed {env : Environment} {line : List String} {options : Options}
    {command : Command} (accepted : parseLine env line = .ok (options, command)) (moment : Moment)
    (disk : Disk) :
    ∃ run, runLine env line moment disk = .ok run ∧
      (options.path? (command = .init) disk = none → run.disk = disk) ∧
      ∀ path db, options.path? (command = .init) disk = some path →
        disk.tables? path = some db → ∃ refusal left, run.Carries options command moment disk path
          db (options.opening command disk) refusal left := by
  rw [runLine, accepted, ok_bind]
  by_cases making : command = .init
  · subst making
    refine ⟨_, rfl, disk_runInit_of_no_path, fun path db named stored => ?_⟩
    obtain ⟨refusal, carried⟩ := runInit_carries moment named stored
    exact ⟨refusal, db, carried⟩
  · have other : decide (command = .init) = false := decide_eq_false making
    rw [Options.opening, other]
    refine ⟨runOn options command moment disk, ?_, disk_runOn_of_no_path,
      fun path db named stored => runOn_carries named stored making⟩
    dsimp only
    split
    · exact absurd rfl making
    · rfl

/-- A line that is read ends in a run.  If it names no file, the run leaves the disk alone.  If it
    names a store with tables, only this store and the files beside it can change, the tables of
    the store just as the one request of the command changes them.  They stay as they were when
    the run is refused, when the command does not write, and when it cannot be decoded, and the
    exit status tells the kind of the refusal.  A check succeeds when the store can be used and the
    check of the service finds nothing. -/
theorem runLine_carries {env : Environment} {line : List String} {options : Options}
    {command : Command} (accepted : parseLine env line = .ok (options, command)) (moment : Moment)
    (disk : Disk) :
    ∃ run, runLine env line moment disk = .ok run ∧
      (options.path? (command = .init) disk = none → run.disk = disk) ∧
      ∀ path db, options.path? (command = .init) disk = some path →
        disk.tables? path = some db → ∃ refusal left,
          run.Carries options command moment disk path db (options.opening command disk)
            refusal left ∧
          (refusal ≠ none → left = db) ∧
          (command.writes = false → left = db) ∧
          (∀ failure, command.request? options moment = .error failure →
            failure.IsUndecoded options ∧ left = db ∧
              ∀ opened, options.opening command disk = .ok opened →
                refusal = some (.command failure)) ∧
          (options.IsPlain (command = .init) → Companion.journal.fits path = true →
            refusal = (command.effect options moment db).1.map .command ∧
              left = (command.effect options moment db).2) ∧
          (command = .check → ∀ opened, options.opening command disk = .ok opened →
            (refusal = none ↔ opened.serves command = true ∧
              ∃ report, Service.checkIntegrity db = .ok report ∧ report.isOk = true)) := by
  obtain ⟨run, ran, spares, carries⟩ := exists_run_of_parsed accepted moment disk
  refine ⟨run, ran, spares, fun path db named stored => ?_⟩
  obtain ⟨refusal, left, carried⟩ := carries path db named stored
  have fares := carried.fares
  refine ⟨refusal, left, carried, fares.left_of_refusal, fares.left_of_not_writes,
    fun failure undecoded => ?_, fun plain fits => ?_, fun check opened opening => ?_⟩
  · refine ⟨request?_failsBy _ _ _ _ undecoded, fares.left_of_undecoded undecoded, ?_⟩
    intro opened opening
    rw [opening] at fares
    exact fares.refusal_of_undecoded undecoded
  · obtain ⟨target, logged, writable, opening⟩ := openStore_of_plain plain fits named stored
    rw [Options.opening, opening] at fares
    exact fares.of_serves (by rw [Opened.serves, writable]; rfl)
  · subst check
    rw [opening] at fares
    exact fares.check

/-- The path of the store that a line names by default, at the root. -/
def marketPath : Path := [encodeChars "wallet-ledger.db".toList]

/-- A disk on which it is the store of a day at the market. -/
def marketDisk : Disk := (Disk.withHome []).put marketPath (.store (some marketRows) true)

/-- A line that sends something from the first wallet of that day to the second. -/
def transferLine : List String :=
  ["transfer", "0.50", "--from", (Ident.ofBits 2).text, "--to", (Ident.ofBits 4).text]

theorem tables?_marketDisk : marketDisk.tables? marketPath = some marketRows :=
  (Disk.rewritten_put ..).tables

theorem runLine_carries_transferLine :
    let moment : Moment := ⟨⟨100, 0⟩, fun n => .ofBits (20 + n)⟩
    ∃ run, runLine (fun _ => none) transferLine moment marketDisk = .ok run ∧
      run.report.status = 0 ∧
      run.disk.tables? marketPath =
        some (runCall (.transfer ⟨.ofBits 2, .ofBits 4, 50⟩) moment marketRows).database := by
  intro moment
  let options : Options := ⟨"wallet-ledger.db", none, 5000, 20, false⟩
  let command : Command := .transfer "0.50" (.ofBits 2) (.ofBits 4)
  have accepted : parseLine (fun _ => none) transferLine = .ok (options, command) := by
    decide +kernel
  have named : options.path? (command = .init) marketDisk = some marketPath := by decide +kernel
  have plain : options.IsPlain (command = .init) := by
    refine ⟨by decide, ⟨"wallet-ledger.db", false, false, false, none⟩,
      ⟨encodeChars "wallet-ledger.db".toList, .write, false, .shared, false, false, false, none⟩,
      by decide +kernel, by decide +kernel, ?_⟩
    exact ⟨by decide, rfl, rfl, rfl⟩
  have amount : readAmount "0.50" = .ok 50 := by decide +kernel
  have granted : rejection? (runCall (.transfer ⟨.ofBits 2, .ofBits 4, 50⟩) moment
      marketRows).result = none := by decide +kernel
  have decodes : command.request? options moment =
      .ok (some (.call (.transfer ⟨.ofBits 2, .ofBits 4, 50⟩))) := by
    rw [Command.request?, amount]
    rfl
  obtain ⟨run, ran, -, carries⟩ := runLine_carries accepted moment marketDisk
  obtain ⟨refusal, left, carried, -, -, -, done, -⟩ :=
    carries marketPath marketRows named tables?_marketDisk
  exact ⟨run, ran, carried.of_effect (done plain (by decide +kernel))
    (Command.effect_of_granted decodes granted)⟩

end Purse.CommandLine
