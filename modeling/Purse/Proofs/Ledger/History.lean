/-
  Purse.Proofs.Ledger.History

  Runs of calls with everything that happened in them.  A run leaves a history: each call in its
  moment with the database that it found.  `exists_book_of_run` is the induction over runs
  that the properties of reachable states share: a property of the history and the book
  that a failing call keeps and that every granted call keeps holds after every run.
-/
import Mathlib.Data.List.Induction
import Purse.Proofs.Ledger.Sound
import Purse.Proofs.Service.Granted

namespace Purse.Service

open Store

/-- A call in its moment, with the database that it found. -/
structure Event where
  before : Database
  call : Call
  moment : Moment

/-- How the call ended. -/
def Event.result (event : Event) : Except ServiceError Answer :=
  (runCall event.call event.moment event.before).result

/-- What happens in a run. -/
def history : List (Call × Moment) → Database → List Event
  | [], _ => []
  | (call, moment) :: calls, db =>
      ⟨db, call, moment⟩ :: history calls (runCall call moment db).database

theorem runCalls_append (calls later : List (Call × Moment)) (db : Database) :
    runCalls (calls ++ later) db = runCalls later (runCalls calls db) := by
  induction calls generalizing db with
  | nil => rfl
  | cons c calls ih => exact ih _

theorem history_append (calls later : List (Call × Moment)) (db : Database) :
    history (calls ++ later) db = history calls db ++ history later (runCalls calls db) := by
  induction calls generalizing db with
  | nil => rfl
  | cons c calls ih => exact congrArg _ (ih _)

/-! ## Reads -/

/-- A stored wallet whose row can be read is the one that its identifier means. -/
theorem getWallet_of_readsAs {book : Book} {db : Database} (kept : book.KeptIn db)
    (sound : book.Sound) {stored wallet : Wallet} (member : stored ∈ book.wallets)
    (read : ReadsAs stored wallet) : getWallet stored.id db = .ok wallet := by
  have found : findById Wallet stored.id db = .ok (some wallet) :=
    findById_of_mem kept.walletRows sound.wallets member read
  rw [getWallet, requireWallet, found]
  rfl

/-- A stored product whose row can be read is the one that its identifier means. -/
theorem getProduct_of_readsAs {book : Book} {db : Database} (kept : book.KeptIn db)
    (sound : book.Sound) {stored product : Product} (member : stored ∈ book.products)
    (read : ReadsAs stored product) : getProduct stored.id db = .ok product := by
  have found : findById Product stored.id db = .ok (some product) :=
    findById_of_mem kept.productRows sound.products member read
  rw [getProduct, requireProduct, found]
  rfl

/-! ## Calls that fail -/

theorem database_map_of_error {f : α → β} {outcome : Outcome α} {db : Database}
    (h : ∀ e, outcome.result = .error e → outcome.database = db) {e : ServiceError}
    (failed : (outcome.map f).result = .error e) : (outcome.map f).database = db := by
  cases hr : outcome.result with
  | ok a => simp [Outcome.map, hr, Except.map] at failed
  | error e' => exact h e' hr

/-- A call that fails leaves the database as it was. -/
theorem database_runCall_of_error {call : Call} {moment : Moment} {db : Database}
    {error : ServiceError} (failed : (runCall call moment db).result = .error error) :
    (runCall call moment db).database = db := by
  cases call <;> exact database_map_of_error (fun _ => database_carryOut_of_error) failed

/-! ## Induction over runs -/

/-- A property of histories and books that calls keep holds after every run of calls in moments
    with some property. -/
theorem exists_book_of_run (holds : List Event → Book → Prop) (allowed : Moment → Prop)
    (start : holds [] Book.blank)
    (failing : ∀ {events : List Event} {book : Book} {event : Event} {error : ServiceError},
      event.result = .error error → holds events book → holds (events ++ [event]) book)
    (granting : ∀ {events : List Event} {book : Book} {event : Event} {answer : Answer}
      {writes : List Write}, allowed event.moment → book.KeptIn event.before → book.Sound →
      event.result = .ok answer → Granted event.moment book event.call answer writes →
      book.AdmitsAll writes → holds events book →
      holds (events ++ [event]) (book.applyAll writes))
    {calls : List (Call × Moment)} (moments : ∀ c ∈ calls, allowed c.2) :
    ∃ book, book.KeptIn (runCalls calls Database.fresh) ∧ book.Sound ∧
      holds (history calls Database.fresh) book := by
  -- A run grows at its end: the last call meets the database that the calls before it left.
  induction calls using List.reverseRecOn with
  | nil => exact ⟨Book.blank, Book.keptIn_fresh, Book.sound_blank, start⟩
  | append_singleton calls c ih =>
      obtain ⟨call, moment⟩ := c
      obtain ⟨book, kept, sound, held⟩ :=
        ih fun c member => moments c (List.mem_append_left _ member)
      have now : allowed moment := moments _ (List.mem_append_right _ (List.mem_singleton_self _))
      rw [runCalls_append, history_append]
      simp only [runCalls, history]
      cases hr : (runCall call moment (runCalls calls Database.fresh)).result with
      | error e =>
          rw [database_runCall_of_error hr]
          exact ⟨book, kept, sound, failing hr held⟩
      | ok answer =>
          obtain ⟨writes, granted, admitted, keptAfter⟩ := granted_of_ok kept hr
          exact ⟨_, keptAfter, Book.sound_applyAll sound admitted,
            granting now kept sound hr granted admitted held⟩

end Purse.Service
