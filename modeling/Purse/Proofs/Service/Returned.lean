/-
  Purse.Proofs.Service.Returned

  What is answered is what is stored.  A wallet, a product or an entry that was stored or replaced
  is found under its identifier with its times to the whole second, also when it is locked, and
  nothing beside its row has changed (`readBack_of_step`).  The calls of the service cut their
  times before they write, so the record that a call answers is the one that is found right
  after it (`readBack_of_granted`).
-/
import Purse.Proofs.Service.Audits
import Purse.Proofs.Store.Readback

namespace Purse.Store

/-! ## Records of any kind -/

/-- The kind of a record. -/
def AnyRecord.entity : AnyRecord → Entity
  | .wallet _ => .wallet
  | .product _ => .product
  | .entry _ => .entry
  | .group _ => .group

/-- The identifier of a record. -/
def AnyRecord.ident : AnyRecord → Ident
  | .wallet a => a.id
  | .product a => a.id
  | .entry a => a.id
  | .group a => a.id

/-- The record with its times to the whole second. -/
def AnyRecord.truncate : AnyRecord → AnyRecord
  | .wallet a => .wallet a.truncate
  | .product a => .product a.truncate
  | .entry a => .entry a.truncate
  | .group a => .group a

/-- The record of a kind with an identifier. -/
def Entity.find (entity : Entity) (id : Ident) (db : Database) :
    Except StoreError (Option AnyRecord) :=
  match entity with
  | .wallet => (findById Wallet id db).map (Option.map .wallet)
  | .product => (findById Product id db).map (Option.map .product)
  | .entry => (findById Entry id db).map (Option.map .entry)
  | .group => (findById Group id db).map (Option.map .group)

/-- True when a row of a kind has the identifier. -/
def Entity.IsStored (entity : Entity) (id : Ident) (db : Database) : Prop :=
  match entity with
  | .wallet => ∃ row ∈ Table.rows (ρ := WalletRow) db, Table.key row = some id.text
  | .product => ∃ row ∈ Table.rows (ρ := ProductRow) db, Table.key row = some id.text
  | .entry => ∃ row ∈ Table.rows (ρ := EntryRow) db, Table.key row = some id.text
  | .group => ∃ row ∈ Table.rows (ρ := GroupRow) db, Table.key row = some id.text

/-- All that is stored beside the row of a kind with an identifier. -/
def Entity.beside (entity : Entity) (id : Ident) (db : Database) : Database :=
  match entity with
  | .wallet => Store.beside WalletRow id.text db
  | .product => Store.beside ProductRow id.text db
  | .entry => Store.beside EntryRow id.text db
  | .group => Store.beside GroupRow id.text db

/-- What a write of a record leaves: the record is found, and locked, with its times to the whole
    second, and nothing beside it has changed. -/
structure ReadBack (record : AnyRecord) (db after : Database) : Prop where
  found : record.entity.find record.ident after = .ok (some record.truncate)
  locked : (Step.lock record.entity record.ident).run after =
    (.ok (.found (some record.truncate)), after)
  others : record.entity.beside record.ident after = record.entity.beside record.ident db

/-! ## Steps that write -/

theorem run_eq {step : Step} {db : Database} {answer : Except LookupError StepAnswer}
    (answered : (step.run db).1 = answer) : step.run db = (answer, (step.run db).2) :=
  Prod.ext answered rfl

theorem writeResult_eq_ok {α : Type} {answer : α → StepAnswer} {result : StepAnswer}
    {written : Except StoreError α × Database} {after : Database} :
    writeResult answer written = (.ok result, after) ↔
      ∃ a, written = (.ok a, after) ∧ answer a = result := by
  obtain ⟨_ | a, db⟩ := written
  · simp [writeResult]
  · simp [writeResult, and_comm]

section

variable {α ρ : Type} [Table ρ] [Record α ρ] [LawfulRecord α] {a : α} {db after : Database}

theorem written_of_step [LawfulTable ρ] [Described α] [LawfulDescribed α] [Truncates α]
    (plain : ∀ t ∈ Described.times a, t.WellFormed ∧ t.InPlainYear)
    (done : writeResult (fun _ => .done) (create a db) = (.ok .done, after) ∨
      writeResult .changed (update a db) = (.ok (.changed true), after)) :
    Written a (Truncates.truncate a) db after := by
  have reads := ofRow_toRow_truncate plain
  rcases done with created | replaced
  · obtain ⟨⟨⟩, created, -⟩ := writeResult_eq_ok.1 created
    exact written_of_create reads created
  · obtain ⟨_, replaced, ⟨⟩⟩ := writeResult_eq_ok.1 replaced
    exact written_of_update reads replaced

/-- A replacement that finds no row to replace changes nothing. -/
theorem unchanged_of_step :
    writeResult .changed (update a db) = (.ok (.changed false), after) ↔
      after = db ∧
        ¬ ∃ row ∈ Table.rows (ρ := ρ) db, Table.key row = some (Record.ident a).text := by
  have absent : Table.find? (ρ := ρ) db (Record.ident a).text = none ↔
      ¬ ∃ row ∈ Table.rows (ρ := ρ) db, Table.key row = some (Record.ident a).text := by
    simp [Table.find?]
  simp only [writeResult_eq_ok, StepAnswer.changed.injEq, exists_eq_right, update_eq_false_iff,
    absent]

end

variable {record : AnyRecord} {db after : Database}

/-- A record that was stored or replaced is read back, and nothing beside it has changed. -/
theorem readBack_of_step (kind : record.entity ≠ .group)
    (plain : ∀ t ∈ record.times, t.WellFormed ∧ t.InPlainYear)
    (done : (Step.create record).run db = (.ok .done, after) ∨
      (Step.update record).run db = (.ok (.changed true), after)) : ReadBack record db after := by
  cases record with
  | wallet a =>
      obtain ⟨found, others⟩ := written_of_step plain done
      exact ⟨congrArg (Except.map (Option.map AnyRecord.wallet)) found,
        congrArg (fun read => readResult .wallet after (ofStore read)) found, others⟩
  | product a =>
      obtain ⟨found, others⟩ := written_of_step plain done
      exact ⟨congrArg (Except.map (Option.map AnyRecord.product)) found,
        congrArg (fun read => readResult .product after (ofStore read)) found, others⟩
  | entry a =>
      obtain ⟨found, others⟩ := written_of_step plain done
      exact ⟨congrArg (Except.map (Option.map AnyRecord.entry)) found,
        congrArg (fun read => readResult .entry after (ofStore read)) found, others⟩
  | group a => exact absurd rfl kind

theorem unchanged_iff (kind : record.entity ≠ .group) :
    (Step.update record).run db = (.ok (.changed false), after) ↔
      after = db ∧ ¬ record.entity.IsStored record.ident db := by
  cases record with
  | wallet a => exact unchanged_of_step
  | product a => exact unchanged_of_step
  | entry a => exact unchanged_of_step
  | group a => exact absurd rfl kind

end Purse.Store

namespace Purse.Service

open Store

/-! ## Calls -/

/-- True for an answer whose records are found under their identifiers. -/
def Answer.IsFound (db : Database) : Answer → Prop
  | .wallet w => getWallet w.id db = .ok w
  | .product p => getProduct p.id db = .ok p
  | .entry e => getEntry e.id db = .ok e
  | .transfer receipt => getEntry receipt.sent.id db = .ok receipt.sent ∧
      getEntry receipt.received.id db = .ok receipt.received
  | .done => True

variable {moment : Moment} {db : Database} {book : Book}

/-- An entry with a new identifier is the one that is found under it. -/
theorem getEntry_of_new (kept : book.KeptIn db) (legible : book.Legible) {before later : List Entry}
    {entry : Entry} (entries : book.entries = before ++ entry :: later)
    (new : ∀ e ∈ before, e.id ≠ entry.id) : getEntry entry.id db = .ok entry := by
  have found : book.entries.find? (Record.ident · = entry.id) = some entry :=
    List.find?_eq_some_iff_append.2 ⟨by simp, before, later, entries, by simpa using new⟩
  rw [getEntry, findById_eq kept.entryRows legible.entryRecords, found]
  rfl

/-- On the book that a call leaves its answer is found. -/
theorem isFound_of_granted {call : Call} {answer : Answer} {writes : List Write}
    (kept : (book.applyAll writes).KeptIn db) (sound : (book.applyAll writes).Sound)
    (legible : (book.applyAll writes).Legible)
    (granted : Granted moment book call answer writes) (admitted : book.AdmitsAll writes) :
    answer.IsFound db := by
  have wallet {w : Wallet} (member : w ∈ (book.applyAll writes).wallets) :
      getWallet w.id db = .ok w :=
    getWallet_of_readsAs kept sound member (legible.walletRecords w member)
  have product {p : Product} (member : p ∈ (book.applyAll writes).products) :
      getProduct p.id db = .ok p :=
    getProduct_of_readsAs kept sound member (legible.productRecords p member)
  cases granted with
  | createWallet named opened => exact wallet (List.mem_append_right _ (List.mem_singleton_self _))
  | renameWallet named member read =>
      exact wallet (mem_putRecord_self member read.wallet.1.symm)
  | deleteWallet member read => trivial
  | createProduct named priced =>
      exact product (List.mem_append_right _ (List.mem_singleton_self _))
  | updateProduct named priced member read =>
      exact product (mem_putRecord_self member read.product.1.symm)
  | deleteProduct member => trivial
  | credit positive member read room made =>
      obtain ⟨⟨-, new, -⟩, -⟩ := admitted
      exact getEntry_of_new kept legible rfl new
  | transfer positive different senderMember senderRead receiverMember receiverRead funds room
      madeSent madeReceived =>
      obtain ⟨⟨-, newSent, -⟩, -, ⟨-, newReceived, -⟩, -⟩ := admitted
      exact ⟨getEntry_of_new kept legible (List.append_assoc ..) newSent,
        getEntry_of_new kept legible rfl newReceived⟩
  | purchase positive walletMember walletRead productMember productRead supplied priced worth funds
      made =>
      obtain ⟨-, -, ⟨-, new, -⟩, -⟩ := admitted
      exact getEntry_of_new kept legible rfl new

/-- What a call answers after a run is what is found right after it. -/
theorem isFound_of_run {calls : List (Call × Moment)} (plain : ∀ c ∈ calls, c.2.Plain)
    {call : Call} (now : moment.Plain) {answer : Answer}
    (done : (runCall call moment (runCalls calls Database.fresh)).result = .ok answer) :
    answer.IsFound (runCall call moment (runCalls calls Database.fresh)).database := by
  obtain ⟨book, kept, sound, legible⟩ := exists_book_of_run (fun _ book => book.Legible)
    Moment.Plain Book.legible_blank (fun _ held => held)
    (fun plain _ _ _ granted _ legible =>
      Book.legible_applyAll legible (storable_of_granted plain legible granted)) plain
  obtain ⟨writes, granted, admitted, keptAfter⟩ := granted_of_ok kept done
  exact isFound_of_granted keptAfter (Book.sound_applyAll sound admitted)
    (Book.legible_applyAll legible (storable_of_granted now legible granted)) granted admitted

/-- A record that was stored or replaced in any database is found with its times to the whole second
    and every other field as it was written, and nothing else has changed; a replacement reports
    that there was nothing to replace, and changes nothing, exactly where the identifier is not
    stored. After any calls at times that a clock can show in a plain year, the records that a call
    answers are those that are found right after it. -/
theorem answers_are_found :
    (∀ record : AnyRecord, record.entity ≠ .group → ∀ db after : Database,
      ((∀ t ∈ record.times, t.WellFormed ∧ t.InPlainYear) →
        (Step.create record).run db = (.ok .done, after) ∨
          (Step.update record).run db = (.ok (.changed true), after) → ReadBack record db after) ∧
      ((Step.update record).run db = (.ok (.changed false), after) ↔
        after = db ∧ ¬ record.entity.IsStored record.ident db)) ∧
    ∀ calls : List (Call × Moment), (∀ c ∈ calls, c.2.Plain) →
      ∀ (call : Call) (moment : Moment), moment.Plain →
        let outcome := runCall call moment (runCalls calls Database.fresh)
        ∀ answer, outcome.result = .ok answer → answer.IsFound outcome.database := by
  refine ⟨fun record kind db after => ⟨readBack_of_step kind, unchanged_iff kind⟩, ?_⟩
  intro calls plain call moment now outcome answer done
  exact isFound_of_run plain now done

/-- A wallet with times within a second is found with the starts of these seconds, and the entry of
    a credit within a second is the one that is found. -/
theorem answers_are_found_of_marketDay :
    let wallet : Wallet := ⟨.ofBits 2, "Main", default, 70, some ⟨30, 500000000⟩, ⟨0, 7⟩⟩
    let moment : Moment := ⟨⟨90, 250000000⟩, fun n => .ofBits (8 + n)⟩
    wallet.truncate = ⟨.ofBits 2, "Main", default, 70, some ⟨30, 0⟩, ⟨0, 0⟩⟩ ∧
      ReadBack (.wallet wallet) marketRows ((Step.update (.wallet wallet)).run marketRows).2 ∧
      getEntry (.ofBits 8) (runCall (.credit ⟨.ofBits 2, 500⟩) moment
          (runCalls (marketDay.take 1) Database.fresh)).database =
        .ok (incomeEntry (.ofBits 8) (.ofBits 2) 500 ⟨90, 0⟩) := by
  intro wallet moment
  obtain ⟨steps, calls⟩ := answers_are_found
  refine ⟨by decide +kernel, ?_, ?_⟩
  · have clocks : ∀ t ∈ (AnyRecord.wallet wallet).times, t.WellFormed ∧ t.InPlainYear :=
      List.forall_mem_cons.2 ⟨⟨.inl (by decide), by decide, by decide⟩,
        List.forall_mem_singleton.2 ⟨.inl (by decide), by decide, by decide⟩⟩
    have replaced : ((Step.update (.wallet wallet)).run marketRows).1 = .ok (.changed true) := by
      decide +kernel
    exact (steps (.wallet wallet) nofun marketRows _).1 clocks (.inr (run_eq replaced))
  · have opened : ∀ c ∈ marketDay.take 1, c.2.Plain :=
      List.forall_mem_singleton.2 ⟨.inl (by decide), by decide, by decide⟩
    have credited : (runCall (.credit ⟨.ofBits 2, 500⟩) moment
        (runCalls (marketDay.take 1) Database.fresh)).result =
          .ok (.entry (incomeEntry (.ofBits 8) (.ofBits 2) 500 ⟨90, 0⟩)) := by
      decide +kernel
    exact calls (marketDay.take 1) opened (.credit ⟨.ofBits 2, 500⟩) moment
      ⟨.inl (by decide), by decide, by decide⟩ _ credited

end Purse.Service
