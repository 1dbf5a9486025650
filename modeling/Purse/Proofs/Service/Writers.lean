/-
  Purse.Proofs.Service.Writers

  What the constraints of the tables hold against any writer.  Scopes of steps on records of any
  kind, with whatever their fields hold, committed or undone, mixed with calls of the service,
  leave the rows of a book that is intact (`guarded_runActions`): balances are not negative,
  prices and amounts are positive, flags follow the stocks, names stand once, and what an entry
  refers to is stored.  So a check of the ledger finds at most balances that are not the sums of
  their entries (`guarded_of_actions`).

  `exists_after_of_step` says once what a step can make of a book; what every step and every call
  keep holds after any actions (`runActions_induction`).
-/
import Purse.Proofs.Ledger.Balance
import Purse.Proofs.Ledger.Names
import Purse.Store.Scope

namespace Purse.Service

open Store Query

/-! ## References -/

namespace Book

/-- True of an entry with a positive amount whose wallet and product are stored. -/
structure Anchors (book : Book) (entry : Entry) : Prop where
  amount : 0 < entry.amount
  wallet : ∃ w ∈ book.wallets, w.id = entry.walletId
  product : ∀ id ∈ entry.productId, ∃ p ∈ book.products, p.id = id

variable {book : Book}

/-- References stay good while the identifiers that they name stay in use. -/
theorem Anchors.mono {after : Book} {entry : Entry} (h : book.Anchors entry)
    (wallets : ∀ w ∈ book.wallets, w.id = entry.walletId → ∃ v ∈ after.wallets, v.id = w.id)
    (products : ∀ p ∈ book.products, some p.id = entry.productId →
      ∃ q ∈ after.products, q.id = p.id) : after.Anchors entry where
  amount := h.amount
  wallet := by
    obtain ⟨w, stored, same⟩ := h.wallet
    obtain ⟨v, stays, id⟩ := wallets w stored same
    exact ⟨v, stays, id.trans same⟩
  product id reference := by
    obtain ⟨p, stored, rfl⟩ := h.product id reference
    exact products p stored reference.symm

/-- The entries of a wallet go with it, so none of them is left behind. -/
theorem anchors_withoutWallet {id : Ident} {entry : Entry} (h : book.Anchors entry)
    (other : entry.walletId ≠ id) : (book.withoutWallet id).Anchors entry := by
  refine h.mono (fun w stored same => ?_) fun p stored _ => ⟨p, stored, rfl⟩
  have stays : w ∈ book.wallets.filter (·.id ≠ id) := by
    rw [List.mem_filter, same]
    exact ⟨stored, decide_eq_true other⟩
  exact ⟨w, stays, rfl⟩

/-- An entry that refers to a product loses it when it goes. -/
theorem anchors_withoutProduct {id : Ident} {entry : Entry} (h : book.Anchors entry) :
    (book.withoutProduct id).Anchors (released id entry) := by
  unfold released
  split
  · exact ⟨h.amount, h.wallet, nofun⟩
  · next other =>
      refine h.mono (fun w stored _ => ⟨w, stored, rfl⟩) fun p stored reference => ?_
      have different : p.id ≠ id := by
        rintro rfl
        exact other reference.symm
      exact ⟨p, List.mem_filter.2 ⟨stored, decide_eq_true different⟩, rfl⟩

/-- The constraints keep references good, whatever is written. -/
theorem anchors_apply (h : ∀ e ∈ book.entries, book.Anchors e) {write : Write}
    (admitted : book.Admits write) :
    ∀ e ∈ (book.apply write).entries, (book.apply write).Anchors e := by
  cases write with
  | createWallet wallet =>
      intro e member
      refine (h e member).mono (fun w stored _ => ?_) fun p stored _ => ⟨p, stored, rfl⟩
      exact ⟨w, List.mem_append_left _ stored, rfl⟩
  | updateWallet wallet =>
      intro e member
      refine (h e member).mono (fun w stored _ => ?_) fun p stored _ => ⟨p, stored, rfl⟩
      exact exists_mem_putRecord wallet stored
  | createProduct product =>
      intro e member
      refine (h e member).mono (fun w stored _ => ⟨w, stored, rfl⟩) fun p stored _ => ?_
      exact ⟨p, List.mem_append_left _ stored, rfl⟩
  | updateProduct product =>
      intro e member
      refine (h e member).mono (fun w stored _ => ⟨w, stored, rfl⟩) fun p stored _ => ?_
      exact exists_mem_putRecord product stored
  | createEntry entry =>
      obtain ⟨positive, -, wallet, product⟩ := admitted
      have new : (book.apply (.createEntry entry)).Anchors entry := ⟨positive, wallet, product⟩
      intro e member
      rcases List.mem_append.1 member with member | member
      · exact (h e member).mono (fun w stored _ => ⟨w, stored, rfl⟩)
          fun p stored _ => ⟨p, stored, rfl⟩
      · rw [List.mem_singleton.1 member]
        exact new
  | deleteWallet id =>
      rw [apply]
      split
      · intro e member
        obtain ⟨stored, other⟩ := List.mem_filter.1 member
        exact anchors_withoutWallet (h e stored) (of_decide_eq_true other)
      · exact h
  | deleteProduct id =>
      rw [apply]
      split
      · exact List.forall_mem_map.2 fun e stored => anchors_withoutProduct (h e stored)
      · exact h

/-- What the constraints of the tables hold. -/
structure Intact (book : Book) : Prop where
  sound : book.Sound
  named : book.Named
  anchored : ∀ e ∈ book.entries, book.Anchors e

theorem intact_blank : blank.Intact := ⟨sound_blank, named_blank, List.forall_mem_nil _⟩

theorem intact_apply (h : book.Intact) {write : Write} (admitted : book.Admits write) :
    (book.apply write).Intact :=
  ⟨sound_apply h.sound admitted, named_apply h.named admitted, anchors_apply h.anchored admitted⟩

theorem intact_applyAll (h : book.Intact) {writes : List Write}
    (admitted : book.AdmitsAll writes) : (book.applyAll writes).Intact := by
  induction writes generalizing book with
  | nil => exact h
  | cons write writes ih => exact ih (intact_apply h admitted.1) admitted.2

/-- The other constraints do not look at the entries. -/
theorem Intact.withEntries (h : book.Intact) {entries : List Entry}
    (anchored : ∀ e ∈ entries, book.Anchors e) : Intact { book with entries } where
  sound := ⟨h.sound.wallets, h.sound.products, h.sound.balances, h.sound.stocks⟩
  named := ⟨h.named.wallets, h.named.products⟩
  anchored e member := (anchored e member).mono (fun w stored _ => ⟨w, stored, rfl⟩)
    fun p stored _ => ⟨p, stored, rfl⟩

end Book

end Purse.Service

namespace Purse.Store

/-! ## Statements that leave rows alone -/

section

variable {α ρ : Type} [Table ρ] [Record α ρ] [LawfulRecord α]

/-- True of a write that took effect, and of one that left everything as it was. -/
def IsClean {β : Type} (db : Database) (written : Except StoreError β × Database) : Prop :=
  (∃ answer after, written = (.ok answer, after)) ∨ written.2 = db

/-- A record without links is stored in one statement. -/
theorem isClean_create (a : α) (db : Database) : IsClean db (create a db) := by
  rw [create, LawfulRecord.links_eq_nil]
  cases Table.insert (Record.toRow a) db with
  | error v => exact .inr rfl
  | ok after => exact .inl ⟨(), after, rfl⟩

/-- A record without links is replaced in one statement. -/
theorem isClean_update (a : α) (db : Database) : IsClean db (update a db) := by
  rw [update, LawfulRecord.links_eq_nil]
  cases Table.replace? (Record.toRow a) db with
  | error v => exact .inr rfl
  | ok after? =>
      cases after? with
      | none => exact .inr rfl
      | some after => exact .inl ⟨true, after, rfl⟩

end

/-- True when two databases have the same wallets, products and entries. -/
def SameBook (db after : Database) : Prop :=
  after.wallets = db.wallets ∧ after.products = db.products ∧ after.entries = db.entries

theorem SameBook.trans {db middle after : Database} (first : SameBook db middle)
    (rest : SameBook middle after) : SameBook db after :=
  ⟨rest.1.trans first.1, rest.2.1.trans first.2.1, rest.2.2.trans first.2.2⟩

theorem sameBook_replaceLinks (owner : String) (set : LinkSet) (db : Database) :
    SameBook db (replaceLinks owner set db).2 := by
  unfold replaceLinks
  dsimp only
  split
  · exact ⟨rfl, rfl, rfl⟩
  · split <;> exact ⟨rfl, rfl, rfl⟩

theorem sameBook_replaceAllLinks (owner : String) (sets : List LinkSet) (db : Database) :
    SameBook db (replaceAllLinks owner sets db).2 := by
  induction sets generalizing db with
  | nil => exact ⟨rfl, rfl, rfl⟩
  | cons set sets ih =>
      have first := sameBook_replaceLinks owner set db
      rw [replaceAllLinks]
      -- The tables after this one are looked at only when its links were replaced.
      split
      · next after replaced =>
          rw [replaced] at first
          exact first.trans (ih after)
      · next failed => exact first

theorem sameBook_of_links {owner : String} {sets : List LinkSet} {db after : Database}
    {result : Except StoreError Unit} (done : replaceAllLinks owner sets db = (result, after)) :
    SameBook db after := by
  have same := sameBook_replaceAllLinks owner sets db
  rwa [done] at same

theorem sameBook_createGroup (group : Group) (db : Database) :
    SameBook db (create group db).2 := by
  unfold create
  cases inserted : Table.insert (Record.toRow group) db with
  | error v => exact ⟨rfl, rfl, rfl⟩
  | ok after =>
      obtain ⟨-, rfl⟩ := Table.insert_eq_ok.1 inserted
      exact SameBook.trans ⟨rfl, rfl, rfl⟩ (sameBook_replaceAllLinks _ _ _)

theorem sameBook_updateGroup (group : Group) (db : Database) :
    SameBook db (update group db).2 := by
  unfold update
  cases replaced : Table.replace? (Record.toRow group) db with
  | error v => exact ⟨rfl, rfl, rfl⟩
  | ok after? =>
      have key : Table.key (Record.toRow group) = some group.id.text := rfl
      rcases (Table.replace?_eq_ok key).1 replaced with ⟨-, rfl⟩ | ⟨-, -, rfl⟩
      · exact ⟨rfl, rfl, rfl⟩
      · dsimp only
        split
        · next after done =>
            have links := sameBook_of_links done
            exact ⟨links.1, links.2⟩
        · next e after done =>
            have links := sameBook_of_links done
            exact ⟨links.1, links.2⟩

theorem sameBook_deleteGroup (id : Ident) (db : Database) :
    SameBook db (delete GroupRow id db).2 := by
  unfold delete Table.erase?
  cases Table.find? (ρ := GroupRow) db id.text with
  | none => exact ⟨rfl, rfl, rfl⟩
  | some row => exact ⟨rfl, rfl, rfl⟩

/-! ## Steps on records -/

/-- True for a step that writes one column past the records. -/
def Step.isRaw : Step → Bool
  | .put .. => true
  | _ => false

/-- A step that reads and writes whole records. -/
abbrev RecordStep := { step : Step // step.isRaw = false }

/-- A look-up leaves the database as it is. -/
theorem readResult_database {α : Type} (wrap : α → AnyRecord) (db : Database)
    (found : Except LookupError (Option α)) : (readResult wrap db found).2 = db := by
  cases found <;> rfl

theorem writeResult_database {α : Type} (answer : α → StepAnswer)
    (written : Except StoreError α × Database) : (writeResult answer written).2 = written.2 := by
  obtain ⟨_ | _, _⟩ := written <;> rfl

end Purse.Store

namespace Purse.Service

open Store Query

/-! ## Steps on a book -/

/-- The step that a write of a call is. -/
def Write.step : Write → Step
  | .createWallet wallet => .create (.wallet wallet)
  | .updateWallet wallet => .update (.wallet wallet)
  | .deleteWallet id => .delete .wallet id
  | .createProduct product => .create (.product product)
  | .updateProduct product => .update (.product product)
  | .deleteProduct id => .delete .product id
  | .createEntry entry => .create (.entry entry)

/-- What a step on records makes of a book: nothing, what a write makes of it, an entry in the place
    of the one with its identifier, or one entry less. -/
inductive Book.After (book : Book) : Step → Book → Prop
  | idle (step : Step) : After book step book
  | write {write : Write} (admitted : book.Admits write) : After book write.step (book.apply write)
  | putEntry {entry : Entry}
      (anchored : (∃ e ∈ book.entries, e.id = entry.id) → book.Anchors entry) :
      After book (.update (.entry entry)) { book with entries := putRecord entry book.entries }
  | dropEntry (id : Ident) :
      After book (.delete .entry id) { book with entries := book.entries.filter (·.id ≠ id) }

variable {db : Database} {book : Book}

/-- A write of the service's own kinds takes effect under the constraints, or not at all. -/
theorem exists_after_of_isClean {β : Type} {written : Except StoreError β × Database}
    (kept : book.KeptIn db) (clean : IsClean db written) {write : Write}
    (same : write.run db = settle written) :
    ∃ after : Book, after.KeptIn written.2 ∧ book.After write.step after := by
  rcases clean with ⟨answer, after, rfl⟩ | idle
  · obtain ⟨admitted, keptAfter⟩ := keptIn_of_run kept same
    exact ⟨_, keptAfter, .write admitted⟩
  · rw [idle]
    exact ⟨book, kept, .idle _⟩

theorem exists_after_of_sameBook (kept : book.KeptIn db) {after : Database}
    (same : SameBook db after) (step : Step) :
    ∃ left : Book, left.KeptIn after ∧ book.After step left := by
  obtain ⟨wallets, products, entries⟩ := same
  exact ⟨book, ⟨wallets.trans kept.wallets, products.trans kept.products,
    entries.trans kept.entries⟩, .idle step⟩

/-- An entry takes the place of another one under the same constraints as a new one. -/
theorem exists_after_updateEntry (kept : book.KeptIn db) (entry : Entry) :
    ∃ after : Book, after.KeptIn (update entry db).2 ∧
      book.After (.update (.entry entry)) after := by
  rcases isClean_update entry db with ⟨changed, after, done⟩ | idle
  · obtain ⟨rfl, checked⟩ := update_records kept.entryRows done
    rw [done]
    refine ⟨{ book with entries := putRecord entry book.entries },
      ⟨kept.wallets, kept.products, rfl⟩, .putEntry fun present => ?_⟩
    obtain ⟨admissible, -, resolves⟩ := checked present
    obtain ⟨wallet, product⟩ := (resolves_entry kept).1 resolves
    exact ⟨admissible_entry admissible, wallet, product⟩
  · rw [idle]
    exact ⟨book, kept, .idle _⟩

theorem exists_after_deleteEntry (kept : book.KeptIn db) (id : Ident) :
    ∃ after : Book, after.KeptIn (delete EntryRow id db).2 ∧
      book.After (.delete .entry id) after := by
  cases found : Table.find? (ρ := EntryRow) db id.text with
  | none =>
      rw [delete_of_absent (by simp [found])]
      exact ⟨book, kept, .idle _⟩
  | some row =>
      have left : (delete EntryRow id db).2 = { db with
          entries := db.entries.filter fun r => decide (Table.key r ≠ some id.text) } := by
        simp only [delete, Table.erase?, found]
        rfl
      have rows : db.entries.filter (fun r => decide (Table.key r ≠ some id.text)) =
          (book.entries.filter (·.id ≠ id)).map Record.toRow :=
        (congrArg _ kept.entries).trans (filter_key_ne book.entries id)
      rw [left]
      exact ⟨{ book with entries := book.entries.filter (·.id ≠ id) },
        ⟨kept.wallets, kept.products, rows⟩, .dropEntry id⟩

theorem exists_after_create (kept : book.KeptIn db) (record : AnyRecord) :
    ∃ after : Book, after.KeptIn ((Step.create record).run db).2 ∧
      book.After (.create record) after := by
  cases record with
  | wallet a =>
      have same : (Write.createWallet a).run db = settle (create a db) := rfl
      rw [Step.run, writeResult_database]
      exact exists_after_of_isClean kept (isClean_create a db) same
  | product a =>
      have same : (Write.createProduct a).run db = settle (create a db) := rfl
      rw [Step.run, writeResult_database]
      exact exists_after_of_isClean kept (isClean_create a db) same
  | entry a =>
      have same : (Write.createEntry a).run db = settle (create a db) := rfl
      rw [Step.run, writeResult_database]
      exact exists_after_of_isClean kept (isClean_create a db) same
  | group a =>
      rw [Step.run, writeResult_database]
      exact exists_after_of_sameBook kept (sameBook_createGroup a db) _

theorem exists_after_update (kept : book.KeptIn db) (record : AnyRecord) :
    ∃ after : Book, after.KeptIn ((Step.update record).run db).2 ∧
      book.After (.update record) after := by
  cases record with
  | wallet a =>
      have same : (Write.updateWallet a).run db = settle (update a db) := rfl
      rw [Step.run, writeResult_database]
      exact exists_after_of_isClean kept (isClean_update a db) same
  | product a =>
      have same : (Write.updateProduct a).run db = settle (update a db) := rfl
      rw [Step.run, writeResult_database]
      exact exists_after_of_isClean kept (isClean_update a db) same
  | entry a =>
      rw [Step.run, writeResult_database]
      exact exists_after_updateEntry kept a
  | group a =>
      rw [Step.run, writeResult_database]
      exact exists_after_of_sameBook kept (sameBook_updateGroup a db) _

theorem exists_after_delete (kept : book.KeptIn db) (entity : Entity) (id : Ident) :
    ∃ after : Book, after.KeptIn ((Step.delete entity id).run db).2 ∧
      book.After (.delete entity id) after := by
  cases entity with
  | wallet =>
      have done : (Write.deleteWallet id).run db = .ok (delete WalletRow id db).2 := rfl
      obtain ⟨admitted, keptAfter⟩ := keptIn_of_run kept done
      exact ⟨_, keptAfter, @Book.After.write _ (.deleteWallet id) admitted⟩
  | product =>
      have done : (Write.deleteProduct id).run db = .ok (delete ProductRow id db).2 := rfl
      obtain ⟨admitted, keptAfter⟩ := keptIn_of_run kept done
      exact ⟨_, keptAfter, @Book.After.write _ (.deleteProduct id) admitted⟩
  | entry => exact exists_after_deleteEntry kept id
  | group => exact exists_after_of_sameBook kept (sameBook_deleteGroup id db) _

/-- What a step on records can do, whatever the fields hold. -/
theorem exists_after_of_step (kept : book.KeptIn db) {step : Step} (plain : step.isRaw = false) :
    ∃ after : Book, after.KeptIn (step.run db).2 ∧ book.After step after := by
  cases step with
  | create record => exact exists_after_create kept record
  | update record => exact exists_after_update kept record
  | delete entity id => exact exists_after_delete kept entity id
  | lock entity id =>
      have idle : ((Step.lock entity id).run db).2 = db := by
        cases entity <;> exact readResult_database _ db _
      rw [idle]
      exact ⟨book, kept, .idle _⟩
  | first entity filter sort =>
      have idle : ((Step.first entity filter sort).run db).2 = db := by
        cases entity <;> exact readResult_database _ db _
      rw [idle]
      exact ⟨book, kept, .idle _⟩
  | put entity key column value => cases plain

/-- Whatever a step on records does, the constraints hold. -/
theorem Book.intact_after (h : book.Intact) {step : Step} {after : Book}
    (change : book.After step after) : after.Intact := by
  cases change with
  | idle => exact h
  | write admitted => exact intact_apply h admitted
  | putEntry anchored =>
      refine h.withEntries fun e member => ?_
      rcases mem_of_mem_putRecord member with ⟨member, -⟩ | ⟨rfl, present⟩
      · exact h.anchored e member
      · exact anchored present
  | dropEntry id => exact h.withEntries fun e member => h.anchored e (List.mem_of_mem_filter member)

/-! ## Any writers -/

/-- What a writer may do: run steps on records in one scope, or call the service. -/
inductive Action where
  | scope (commit : Bool) (steps : List RecordStep)
  | call (call : Call) (moment : Moment)

/-- The database after an action. -/
def Action.run : Action → Database → Database
  | .scope commit steps, db => (runScope commit (steps.map Subtype.val) db).2
  | .call c moment, db => (runCall c moment db).database

/-- The database after actions. -/
def runActions : List Action → Database → Database
  | [], db => db
  | action :: actions, db => runActions actions (action.run db)

/-- True for an action of steps and moments of certain kinds. -/
def Action.Of (onStep : Step → Prop) (onCall : Moment → Prop) : Action → Prop
  | .scope _ steps => ∀ step ∈ steps, onStep step.val
  | .call _ moment => onCall moment

section

variable {Inv : Database → Prop} (onStep : Step → Prop) (onCall : Moment → Prop)

/-- What every step of a kind keeps holds after steps of this kind. -/
theorem runSteps_induction (h : Inv db)
    (step : ∀ {db : Database} {step : Step}, Inv db → step.isRaw = false → onStep step →
      Inv (step.run db).2)
    {steps : List RecordStep} (all : ∀ step ∈ steps, onStep step.val) :
    Inv (runSteps (steps.map Subtype.val) db).2 := by
  induction steps generalizing db with
  | nil => exact h
  | cons first steps ih =>
      obtain ⟨one, rest⟩ := List.forall_mem_cons.1 all
      exact ih (step h first.2 one) rest

/-- What every step and every call of a kind keeps holds after actions of this kind. A scope that is
    undone leaves what it found. -/
theorem runActions_induction (h : Inv db)
    (step : ∀ {db : Database} {step : Step}, Inv db → step.isRaw = false → onStep step →
      Inv (step.run db).2)
    (call : ∀ {db : Database} (call : Call) {moment : Moment}, Inv db → onCall moment →
      Inv (runCall call moment db).database)
    {actions : List Action} (all : ∀ action ∈ actions, action.Of onStep onCall) :
    Inv (runActions actions db) := by
  induction actions generalizing db with
  | nil => exact h
  | cons action actions ih =>
      obtain ⟨first, rest⟩ := List.forall_mem_cons.1 all
      refine ih ?_ rest
      cases action with
      | scope commit steps =>
          cases commit with
          | true => exact runSteps_induction onStep h step first
          | false => exact h
      | call c moment => exact call c h first

end

/-! ## States under the constraints -/

/-- True of databases with the rows of an intact book. -/
def Guarded (db : Database) : Prop := ∃ book : Book, book.KeptIn db ∧ book.Intact

theorem guarded_fresh : Guarded Database.fresh := ⟨Book.blank, Book.keptIn_fresh, Book.intact_blank⟩

theorem guarded_step (h : Guarded db) {step : Step} (plain : step.isRaw = false) :
    Guarded (step.run db).2 := by
  obtain ⟨book, kept, intact⟩ := h
  obtain ⟨after, keptAfter, change⟩ := exists_after_of_step kept plain
  exact ⟨after, keptAfter, Book.intact_after intact change⟩

theorem guarded_runSteps (h : Guarded db) (steps : List RecordStep) :
    Guarded (runSteps (steps.map Subtype.val) db).2 :=
  runSteps_induction (fun _ => True) h (fun h plain _ => guarded_step h plain)
    fun _ _ => trivial

theorem guarded_runCall (h : Guarded db) (call : Call) (moment : Moment) :
    Guarded (runCall call moment db).database := by
  cases hr : (runCall call moment db).result with
  | error e =>
      rw [database_runCall_of_error hr]
      exact h
  | ok answer =>
      obtain ⟨book, kept, intact⟩ := h
      obtain ⟨writes, -, admitted, keptAfter⟩ := granted_of_ok kept hr
      exact ⟨_, keptAfter, Book.intact_applyAll intact admitted⟩

theorem guarded_runActions (h : Guarded db) (actions : List Action) :
    Guarded (runActions actions db) := by
  refine runActions_induction (fun _ => True) (fun _ => True) h
    (fun h plain _ => guarded_step h plain) (fun call _ h _ => guarded_runCall h call _)
    fun action _ => ?_
  cases action with
  | scope commit steps => exact fun _ _ => trivial
  | call call moment => trivial

/-! ## Checks -/

theorem eq_select_of_selectRows {ρ : Type} [Table ρ] {attempt : Attempt} {aim : Aim} {plan : Plan}
    {rows : List ρ} (selected : selectRows attempt aim plan db = .ok rows) :
    plan.select (Table.layout ρ) aim Table.cell (Table.rows db) = rows := by
  unfold selectRows at selected
  dsimp only at selected
  split at selected
  · exact Except.ok.inj selected
  · cases selected

/-- Records that a listing brings are read from stored ones. -/
theorem readsAs_of_findAll {α ρ : Type} [Table ρ] [Record α ρ] {as found : List α}
    (h : Table.rows db = as.map Record.toRow) {filter : Filter} {sort : Option SortRule}
    (listed : findAll α filter sort db = .ok found) :
    ∀ a ∈ found, ∃ stored ∈ as, ReadsAs stored a := by
  intro a member
  obtain ⟨plan, -, rest⟩ := bind_eq_ok.1 listed
  obtain ⟨rows, selected, read⟩ := bind_eq_ok.1 rest
  obtain ⟨row, there, readRow⟩ := exists_of_mem_mapM (ofStore_eq_ok.1 read) member
  rw [← eq_select_of_selectRows selected, Plan.mem_select, h] at there
  obtain ⟨stored, member, rfl⟩ := List.mem_map.1 there.1
  exact ⟨stored, member, readRow_eq_ok.1 readRow⟩

/-- What a check of the ledger lists as negative or inconsistent is nothing, if it ends well. -/
theorem checkIntegrity_of_sound {book : Book} (kept : book.KeptIn db) (sound : book.Sound)
    {report : IntegrityReport} (checked : checkIntegrity db = .ok report) :
    report.negativeWallets = [] ∧ report.inconsistentProducts = [] := by
  obtain ⟨wallets, entries, products, listedWallets, -, listedProducts, rfl⟩ :=
    checkIntegrity_eq_ok.1 checked
  constructor
  · refine negativeWallets_eq_nil fun w member => ?_
    obtain ⟨stored, there, read⟩ :=
      readsAs_of_findAll kept.walletRows listedWallets w member
    rw [read.wallet.2]
    exact sound.balances stored there
  · refine inconsistentProducts_eq_nil fun p member => ?_
    obtain ⟨stored, there, read⟩ :=
      readsAs_of_findAll kept.productRows listedProducts p member
    obtain ⟨created, updated, rfl⟩ := eq_of_reads_product read
    exact (sound.stocks stored there).2

/-- Names that stand once are those of different records. -/
theorem pairwise_of_namedApart {α ρ β : Type} [Table ρ] [Record α ρ] {name : α → β} {as : List α}
    (distinct : Distinct as) (apart : NamedApart name as) :
    as.Pairwise fun a b => name a ≠ name b := by
  have different : as.Pairwise fun a b => Record.ident a ≠ Record.ident b :=
    List.pairwise_map.1 distinct
  exact different.imp_of_mem fun ha hb other same => other (apart _ ha _ hb same)

/-- Whatever writers do to a fresh database, in scopes that are committed or undone and with calls
    of the service between them, and whether or not the store refuses some of it, also after the
    steps of a scope that is still open: no balance is negative, prices and amounts are positive, a
    product is available when it holds anything, the wallet and the product of an entry are stored,
    and no two wallets of an owner and no two products share a name. So a check of the ledger finds
    neither a negative balance nor a product whose flag is wrong. -/
theorem guarded_of_actions (actions : List Action) (steps : List RecordStep) :
    let db := (runSteps (steps.map Subtype.val) (runActions actions Database.fresh)).2
    ∃ (wallets : List Wallet) (products : List Product) (entries : List Entry),
      db.wallets = wallets.map Record.toRow ∧ db.products = products.map Record.toRow ∧
      db.entries = entries.map Record.toRow ∧
      (∀ wallet ∈ wallets, 0 ≤ wallet.balance) ∧
      (∀ product ∈ products,
        0 < product.price ∧ product.available = decide (0 < product.quantity)) ∧
      (∀ entry ∈ entries, 0 < entry.amount ∧ (∃ wallet ∈ wallets, wallet.id = entry.walletId) ∧
        ∀ id ∈ entry.productId, ∃ product ∈ products, product.id = id) ∧
      (wallets.Pairwise fun a b => ¬ (a.ownerId = b.ownerId ∧ a.name = b.name)) ∧
      (products.Pairwise fun a b => a.name ≠ b.name) ∧
      ∀ report, checkIntegrity db = .ok report →
        report.negativeWallets = [] ∧ report.inconsistentProducts = [] := by
  intro db
  obtain ⟨book, kept, sound, named, anchored⟩ :=
    guarded_runSteps (guarded_runActions guarded_fresh actions) steps
  refine ⟨book.wallets, book.products, book.entries, kept.wallets, kept.products, kept.entries,
    sound.balances, ?_, ?_, ?_, pairwise_of_namedApart sound.products named.products,
    fun report => checkIntegrity_of_sound kept sound⟩
  · intro product member
    obtain ⟨priced, consistent⟩ := sound.stocks product member
    exact ⟨priced, eq_of_beq consistent⟩
  · intro entry member
    obtain ⟨amount, wallet, product⟩ := anchored entry member
    exact ⟨amount, wallet, product⟩
  · refine (pairwise_of_namedApart sound.wallets named.wallets).imp fun different same => ?_
    exact different (Prod.ext same.1 same.2)

end Purse.Service
