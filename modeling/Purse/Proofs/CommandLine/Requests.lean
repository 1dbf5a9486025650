/-
  Purse.Proofs.CommandLine.Requests

  What commands ask of the service.  A command names one request: an operation that may write, or
  a read.  Its arguments are decoded first, and a command whose arguments cannot be decoded, or
  that misses the identity of its caller, asks for nothing.  Carrying out a command is carrying
  out its request (`runCommand_shows`): the database afterwards is the one that the request
  leaves, and the command fails as the request does.
-/
import Purse.CommandLine.Session
import Purse.Proofs.Ledger.History

namespace Purse.CommandLine

open Query Service Store

/-! ## Requests -/

/-- A request to the service. -/
inductive Request where
  | call (call : Call)
  | getWallet (id : Ident)
  | listWallets (page : PageRequest) (filter : Filter) (sort : Option SortRule)
  | auditWallet (id : Ident)
  | walletHistory (id : Ident) (start stop : Instant)
  | getProduct (id : Ident)
  | listProducts (page : PageRequest) (filter : Filter) (sort : Option SortRule)
  | getEntry (id : Ident)
  | listEntries (page : PageRequest) (filter : Filter) (sort : Option SortRule)
  | checkIntegrity

/-- The failure that a rejection is. -/
def rejection? {α : Type} : Except ServiceError α → Option Failure
  | .ok _ => none
  | .error error => some (.service error)

/-- Why a request fails, if it does. A check fails also when it finds something. -/
def Request.failure? (request : Request) (moment : Moment) (db : Database) : Option Failure :=
  match request with
  | .call c => rejection? (runCall c moment db).result
  | .getWallet id => rejection? (Service.getWallet id db)
  | .listWallets page filter sort => rejection? (Service.listWallets page filter sort db)
  | .auditWallet id => rejection? (auditOf id db)
  | .walletHistory id start stop => rejection? (Service.walletHistory id start stop db)
  | .getProduct id => rejection? (Service.getProduct id db)
  | .listProducts page filter sort => rejection? (Service.listProducts page filter sort db)
  | .getEntry id => rejection? (Service.getEntry id db)
  | .listEntries page filter sort => rejection? (Service.listEntries page filter sort db)
  | .checkIntegrity => match Service.checkIntegrity db with
    | .ok report => if report.isOk then none else some .inconsistent
    | .error error => some (.service error)

/-- The database after a request; only an operation changes it. -/
def Request.after (request : Request) (moment : Moment) (db : Database) : Database :=
  match request with
  | .call c => (runCall c moment db).database
  | _ => db

/-! ## Decoding -/

/-- An argument, or the failure of a command whose argument cannot be decoded. -/
def decoded {α : Type} (argument : Except ServiceError α) : Except Failure α :=
  argument.mapError .service

/-- The identity of the caller. -/
def Options.caller (options : Options) : Except Failure Ident :=
  match options.user with
  | some id => .ok id
  | none => .error .noCaller

/-- The request that a command makes, with its arguments decoded; `init` makes none. -/
def Command.request? (options : Options) (moment : Moment) :
    Command → Except Failure (Option Request)
  | .init => return none
  | .createWallet name => return some (.call (.createWallet (← options.caller) name))
  | .renameWallet id name => return some (.call (.renameWallet (← options.caller) id name))
  | .deleteWallet id => return some (.call (.deleteWallet (← options.caller) id))
  | .showWallet id => return some (.getWallet id)
  | .listWallets listing => do
      let (page, filter, sort) ← decoded (readListing options listing)
      return some (.listWallets page filter sort)
  | .auditWallet id => return some (.auditWallet id)
  | .walletHistory id start stop => do
      let start ← decoded ((start.map readDate).getD (.ok Instant.epoch))
      let stop ← decoded ((stop.map readDate).getD (.ok (moment.now.plusSeconds 1)))
      return some (.walletHistory id start stop)
  | .createProduct fields => return some (.call (.createProduct (← decoded (readDraft fields))))
  | .updateProduct id fields =>
      return some (.call (.updateProduct id (← decoded (readDraft fields))))
  | .deleteProduct id => return some (.call (.deleteProduct id))
  | .showProduct id => return some (.getProduct id)
  | .listProducts listing => do
      let (page, filter, sort) ← decoded (readListing options listing)
      return some (.listProducts page filter sort)
  | .credit walletId amount =>
      return some (.call (.credit ⟨walletId, ← decoded (readAmount amount)⟩))
  | .transfer amount senderId receiverId =>
      return some (.call (.transfer ⟨senderId, receiverId, ← decoded (readAmount amount)⟩))
  | .purchase walletId productId quantity =>
      return some (.call (.purchase ⟨walletId, productId, quantity⟩))
  | .listEntries listing => do
      let (page, filter, sort) ← decoded (readListing options listing)
      return some (.listEntries page filter sort)
  | .showEntry id => return some (.getEntry id)
  | .check => return some .checkIntegrity

/-- Why a command fails, if it does, and the database that it leaves. -/
abbrev Effect := Option Failure × Database

/-- The effect of what was decoded. -/
def effectOf (moment : Moment) (db : Database) : Except Failure (Option Request) → Effect
  | .error failure => (some failure, db)
  | .ok none => (none, db)
  | .ok (some request) => (request.failure? moment db, request.after moment db)

/-- The effect of a command: that of its request. -/
def Command.effect (options : Options) (command : Command) (moment : Moment) (db : Database) :
    Effect :=
  effectOf moment db (command.request? options moment)

/-! ## Commands and their requests -/

/-- True of an ending with a given effect. -/
structure Ending.Shows (ending : Ending) (effect : Effect) : Prop where
  failure : ending.failure = effect.1
  database : ending.database = effect.2

section

variable {α β : Type} {options : Options} {moment : Moment} {db : Database}

theorem afterRead_shows (output : α → String) (result : Except ServiceError α) :
    (afterRead db output result).Shows (rejection? result, db) := by
  cases result <;> exact ⟨rfl, rfl⟩

theorem afterWrite_shows (output : α → String) (outcome : Outcome α) (wrap : α → β) :
    (afterWrite output outcome).Shows
      (rejection? (outcome.map wrap).result, (outcome.map wrap).database) := by
  obtain ⟨result, database, drawn⟩ := outcome
  cases result <;> exact ⟨rfl, rfl⟩

theorem afterCheck_shows :
    (afterCheck options db (Service.checkIntegrity db)).Shows
      (Request.checkIntegrity.failure? moment db, db) := by
  rw [Request.failure?]
  cases Service.checkIntegrity db with
  | error error => exact ⟨rfl, rfl⟩
  | ok report =>
      simp only [afterCheck]
      split <;> exact ⟨rfl, rfl⟩

/-- Decoding an argument first is decoding it before the rest. -/
theorem withArgument_shows {argument : Except ServiceError α} {next : α → Ending}
    {rest : α → Except Failure (Option Request)}
    (h : ∀ a, (next a).Shows (effectOf moment db (rest a))) :
    (withArgument db argument next).Shows (effectOf moment db (decoded argument >>= rest)) := by
  cases argument with
  | error error => exact ⟨rfl, rfl⟩
  | ok a => exact h a

theorem withCaller_shows {next : Ident → Ending} {rest : Ident → Except Failure (Option Request)}
    (h : ∀ id, (next id).Shows (effectOf moment db (rest id))) :
    (withCaller options db next).Shows (effectOf moment db (options.caller >>= rest)) := by
  rw [withCaller, Options.caller]
  cases options.user with
  | none => exact ⟨rfl, rfl⟩
  | some id => exact h id

/-- A command does what its request does. -/
theorem runCommand_shows (options : Options) (command : Command) (moment : Moment)
    (db : Database) : (runCommand options command moment db).Shows
      (command.effect options moment db) := by
  cases command with
  | init => exact ⟨rfl, rfl⟩
  | createWallet name => exact withCaller_shows fun owner => afterWrite_shows _ _ _
  | renameWallet id name => exact withCaller_shows fun owner => afterWrite_shows _ _ _
  | deleteWallet id => exact withCaller_shows fun owner => afterWrite_shows _ _ _
  | showWallet id => exact afterRead_shows _ _
  | listWallets listing => exact withArgument_shows fun _ => afterRead_shows _ _
  | auditWallet id => exact afterRead_shows _ _
  | walletHistory id start stop =>
      exact withArgument_shows fun _ => withArgument_shows fun _ => afterRead_shows _ _
  | createProduct fields => exact withArgument_shows fun _ => afterWrite_shows _ _ _
  | updateProduct id fields => exact withArgument_shows fun _ => afterWrite_shows _ _ _
  | deleteProduct id => exact afterWrite_shows _ _ _
  | showProduct id => exact afterRead_shows _ _
  | listProducts listing => exact withArgument_shows fun _ => afterRead_shows _ _
  | credit walletId amount => exact withArgument_shows fun _ => afterWrite_shows _ _ _
  | transfer amount senderId receiverId =>
      exact withArgument_shows fun _ => afterWrite_shows _ _ _
  | purchase walletId productId quantity => exact afterWrite_shows _ _ _
  | listEntries listing => exact withArgument_shows fun _ => afterRead_shows _ _
  | showEntry id => exact afterRead_shows _ _
  | check => exact afterCheck_shows

end

/-! ## Failures of commands -/

/-- The kind of a failure, unless the service has no part in it. -/
def Failure.kind? : Failure → Option ErrorKind
  | .service error => some error.kind
  | .noCaller | .inconsistent => none

/-- True of a failure of decoding: no caller was named, or a text cannot be read. -/
def Failure.IsUndecoded (options : Options) (failure : Failure) : Prop :=
  failure = .noCaller ∧ options.user = none ∨ failure.kind? = some .invalidArgument

section

variable {α : Type} {options : Options} {moment : Moment} {db : Database}

theorem readAmount_failsBy (raw : String) :
    FailsBy (·.kind = .invalidArgument) (readAmount raw) := by
  rw [readAmount]
  split
  · exact .ok _
  · exact .error rfl

theorem readDate_failsBy (raw : String) : FailsBy (·.kind = .invalidArgument) (readDate raw) := by
  rw [readDate]
  split
  · exact .ok _
  · exact .error rfl

theorem ofQuery_failsBy (result : Except QueryError α) :
    FailsBy (·.kind = .invalidArgument) (ofQuery result) := by
  cases result with
  | error error => exact .error rfl
  | ok a => exact .ok a

theorem readListing_failsBy (options : Options) (listing : Listing) :
    FailsBy (·.kind = .invalidArgument) (readListing options listing) :=
  .bind (ofQuery_failsBy _) fun _ => .bind (ofQuery_failsBy _) fun _ =>
    .bind (ofQuery_failsBy _) fun _ => .ok _

theorem readDraft_failsBy (fields : ProductFields) :
    FailsBy (·.kind = .invalidArgument) (readDraft fields) :=
  .bind (readAmount_failsBy _) fun _ => .ok _

theorem decoded_failsBy (options : Options) {argument : Except ServiceError α}
    (h : FailsBy (·.kind = .invalidArgument) argument) :
    FailsBy (Failure.IsUndecoded options) (decoded argument) :=
  h.mapError fun _ invalid => .inr (congrArg some invalid)

theorem caller_failsBy (options : Options) :
    FailsBy (Failure.IsUndecoded options) options.caller := by
  rw [Options.caller]
  split
  · exact .ok _
  · rename_i nobody
    exact .error (.inl ⟨rfl, nobody⟩)

/-- A date that need not be given. -/
theorem readDate_getD_failsBy (raw : Option String) (t : Instant) :
    FailsBy (·.kind = .invalidArgument) ((raw.map readDate).getD (.ok t)) := by
  cases raw with
  | none => exact .ok t
  | some raw => exact readDate_failsBy raw

/-- A command asks for nothing just because no caller is named or a text cannot be read. -/
theorem request?_failsBy (options : Options) (moment : Moment) (command : Command) :
    FailsBy (Failure.IsUndecoded options) (command.request? options moment) := by
  have listing (listing : Listing) := decoded_failsBy options
    (readListing_failsBy options listing)
  have draft (fields : ProductFields) := decoded_failsBy options
    (readDraft_failsBy fields)
  have amount (raw : String) := decoded_failsBy options (readAmount_failsBy raw)
  cases command with
  | createWallet | renameWallet | deleteWallet =>
      exact .bind (caller_failsBy options) fun _ => .ok _
  | listWallets | listProducts | listEntries => exact .bind (listing _) fun _ => .ok _
  | walletHistory id start stop =>
      exact .bind (decoded_failsBy options (readDate_getD_failsBy start _)) fun _ =>
        .bind (decoded_failsBy options (readDate_getD_failsBy stop _)) fun _ => .ok _
  | createProduct | updateProduct => exact .bind (draft _) fun _ => .ok _
  | credit | transfer => exact .bind (amount _) fun _ => .ok _
  | _ => exact .ok _

/-! ## Effects -/

/-- A request that fails leaves the database as it was. -/
theorem Request.after_of_failure {request : Request} {failure : Failure}
    (h : request.failure? moment db = some failure) : request.after moment db = db := by
  cases request with
  | call c =>
      rw [Request.failure?] at h
      cases result : (runCall c moment db).result with
      | error error => exact database_runCall_of_error result
      | ok answer => rw [result] at h; cases h
  | _ => rfl

/-- So does a command that fails. -/
theorem Command.effect_of_failure {command : Command} {failure : Failure}
    (h : (command.effect options moment db).1 = some failure) :
    (command.effect options moment db).2 = db := by
  rw [Command.effect] at h ⊢
  cases asked : command.request? options moment with
  | error other => rfl
  | ok request? =>
      rw [asked] at h
      cases request? with
      | none => rfl
      | some request => exact Request.after_of_failure h

/-- A command takes effect when its call is granted. -/
theorem Command.effect_of_granted {command : Command} {call : Call}
    (decodes : command.request? options moment = .ok (some (.call call)))
    (granted : rejection? (runCall call moment db).result = none) :
    command.effect options moment db = (none, (runCall call moment db).database) := by
  rw [Command.effect, decodes, effectOf, Request.failure?, granted, Request.after]

/-- A command that decodes something first. -/
theorem effectOf_bind_kept {argument : Except Failure α}
    {rest : α → Except Failure (Option Request)}
    (h : ∀ a, (effectOf moment db (rest a)).2 = db) :
    (effectOf moment db (argument >>= rest)).2 = db := by
  cases argument with
  | error failure => rfl
  | ok a => exact h a

/-- A command that only reads leaves the database as it was. -/
theorem Command.effect_of_not_writes {command : Command} (h : command.writes = false) :
    (command.effect options moment db).2 = db := by
  cases command with
  | listWallets | listProducts | listEntries => exact effectOf_bind_kept fun _ => rfl
  | walletHistory => exact effectOf_bind_kept fun _ => effectOf_bind_kept fun _ => rfl
  | createWallet | renameWallet | deleteWallet | createProduct | updateProduct | deleteProduct
  | credit | transfer | purchase => cases h
  | _ => rfl

end

end Purse.CommandLine
