/-
  Purse.Proofs.Service.Rejection

  Rejections are stable.  A call that is rejected leaves everything as it was, and the same call
  is rejected for the same reason at every other time and with every other new identifiers
  (`rejected_again`).  Nothing is assumed of the rows: they may be any that a database can hold.

  Two runs of a call decide on writes that are alike: they differ in times and in the identifiers
  of new records only.  Constraints do not look at times, and a new identifier conflicts with
  nothing, so writes that are alike are refused alike (`agree_runWrites`).
-/
import Mathlib.Data.List.Forall2
import Purse.Proofs.Ledger.History
import Purse.Proofs.Store.Outline

namespace Purse.Service

open Store
open Outlined (outline)

/-! ## Writes of records without links -/

section

variable {α ρ : Type} [Table ρ] [Record α ρ] [LawfulRecord α] {db db' : Database}

theorem settle_create (a : α) (db : Database) :
    settle (create a db) =
      (Table.insert (Record.toRow a) db).mapError (.refused (.create (Record.entity α))) := by
  rw [create, LawfulRecord.links_eq_nil]
  cases Table.insert (Record.toRow a) db <;> rfl

theorem settle_update (a : α) (db : Database) :
    settle (update a db) =
      ((Table.replace? (Record.toRow a) db).map (·.getD db)).mapError
        (.refused (.update (Record.entity α))) := by
  rw [update, LawfulRecord.links_eq_nil]
  cases Table.replace? (Record.toRow a) db with
  | error v => rfl
  | ok after? => cases after? <;> rfl

/-- A record with a new identifier conflicts with nothing by it. -/
theorem any_conflicts_of_absent {a : α}
    (absent : ∀ row ∈ Table.rows (ρ := ρ) db, Table.key row ≠ some (Record.ident a).text) :
    (Table.rows (ρ := ρ) db).any (Table.conflicts · (Record.toRow a)) =
      (Table.rows (ρ := ρ) db).any (Table.clashes · (Record.toRow a)) := by
  have same : ∀ row ∈ Table.rows (ρ := ρ) db, Table.conflicts row (Record.toRow a) =
      Table.clashes row (Record.toRow a) := by
    intro row member
    rw [← LawfulRecord.key_toRow] at absent
    simp [Table.conflicts, absent row member]
  rw [Bool.eq_iff_iff, List.any_eq_true, List.any_eq_true]
  exact exists_congr fun row => and_congr_right fun member => by rw [same row member]

/-- Two records with new identifiers are stored, or refused for the same reason, if the
    constraints cannot tell them apart otherwise. -/
theorem agree_create {a b : α}
    (absent : ∀ row ∈ Table.rows (ρ := ρ) db, Table.key row ≠ some (Record.ident a).text)
    (absent' : ∀ row ∈ Table.rows (ρ := ρ) db', Table.key row ≠ some (Record.ident b).text)
    (admissible : Table.admissible (Record.toRow a) = true ↔
      Table.admissible (Record.toRow b) = true)
    (clashes : (Table.rows (ρ := ρ) db).any (Table.clashes · (Record.toRow a)) = true ↔
      (Table.rows (ρ := ρ) db').any (Table.clashes · (Record.toRow b)) = true)
    (resolves : Table.resolves db (Record.toRow a) = Table.resolves db' (Record.toRow b)) :
    Agree (fun after after' =>
      after = Table.withRows db (Table.rows (ρ := ρ) db ++ [Record.toRow a]) ∧
      after' = Table.withRows db' (Table.rows (ρ := ρ) db' ++ [Record.toRow b]))
      (settle (create a db)) (settle (create b db')) := by
  have conflicts : (Table.rows (ρ := ρ) db).any (Table.conflicts · (Record.toRow a)) =
      (Table.rows (ρ := ρ) db').any (Table.conflicts · (Record.toRow b)) := by
    rw [any_conflicts_of_absent absent, any_conflicts_of_absent absent', Bool.eq_iff_iff]
    exact clashes
  rw [settle_create, settle_create]
  exact (agree_insert (Bool.eq_iff_iff.2 admissible) conflicts resolves).mapError _

end

/-! ## Writes that are alike -/

/-- Databases that the constraints cannot tell apart, their entries aside. -/
structure Alike (db db' : Database) : Prop where
  wallets : db.wallets.map outline = db'.wallets.map outline
  products : db.products.map outline = db'.products.map outline

/-- Writes that differ in times and in the identifier of a new entry only. -/
inductive Write.Alike : Write → Write → Prop
  | updateWallet (wallet : Wallet) (moved : Option Instant) :
      Write.Alike (.updateWallet wallet) (.updateWallet { wallet with lastMovedAt := moved })
  | updateProduct (product : Product) (updated : Instant) :
      Write.Alike (.updateProduct product) (.updateProduct { product with updatedAt := updated })
  | createEntry (entry : Entry) (id : Ident) (created : Instant) :
      Write.Alike (.createEntry entry) (.createEntry { entry with id := id, createdAt := created })

/-- The identifiers of the entries that writes make. -/
def newEntries (writes : List Write) : List Ident :=
  writes.filterMap fun
    | .createEntry entry => some entry.id
    | _ => none

/-- True when identifiers are different and none of them is that of an entry. -/
def NoEntries (ids : List Ident) (db : Database) : Prop :=
  ids.Nodup ∧ ∀ id ∈ ids, ∀ row ∈ db.entries, row.id ≠ id.text

variable {db db' : Database}

theorem agree_updateWallet (alike : Alike db db') (wallet : Wallet) (moved : Option Instant) :
    Agree (fun after after' => Alike after after' ∧ after.entries = db.entries ∧
      after'.entries = db'.entries) ((Write.updateWallet wallet).run db)
      ((Write.updateWallet { wallet with lastMovedAt := moved }).run db') := by
  have sameRow : outline (Record.toRow wallet) =
      outline (Record.toRow { wallet with lastMovedAt := moved }) := rfl
  have admissible : Table.admissible (Record.toRow wallet) =
      Table.admissible (Record.toRow { wallet with lastMovedAt := moved }) := rfl
  have replaced :=
    agree_replace? (LawfulRecord.key_toRow wallet) alike.wallets sameRow admissible rfl
  simp only [Write.run, settle_update]
  refine (replaced.map ?_).mapError _
  rintro _ _ (⟨rfl, rfl⟩ | ⟨rows, rows', rfl, rfl, same⟩)
  · exact ⟨alike, rfl, rfl⟩
  · exact ⟨⟨same, alike.products⟩, rfl, rfl⟩

theorem agree_updateProduct (alike : Alike db db') (product : Product) (updated : Instant) :
    Agree (fun after after' => Alike after after' ∧ after.entries = db.entries ∧
      after'.entries = db'.entries) ((Write.updateProduct product).run db)
      ((Write.updateProduct { product with updatedAt := updated }).run db') := by
  have sameRow : outline (Record.toRow product) =
      outline (Record.toRow { product with updatedAt := updated }) := rfl
  have admissible : Table.admissible (Record.toRow product) =
      Table.admissible (Record.toRow { product with updatedAt := updated }) := rfl
  have replaced :=
    agree_replace? (LawfulRecord.key_toRow product) alike.products sameRow admissible rfl
  simp only [Write.run, settle_update]
  refine (replaced.map ?_).mapError _
  rintro _ _ (⟨rfl, rfl⟩ | ⟨rows, rows', rfl, rfl, same⟩)
  · exact ⟨alike, rfl, rfl⟩
  · exact ⟨⟨alike.wallets, same⟩, rfl, rfl⟩

/-- An entry refers to the same rows in databases that are alike. -/
theorem resolves_congr (alike : Alike db db') {row row' : EntryRow}
    (wallet : row.walletId = row'.walletId) (product : row.productId = row'.productId) :
    Table.resolves db row = Table.resolves db' row' := by
  have wallets (base : Database) (k : String) : base.wallets.any (·.id = k) =
      (base.wallets.map outline).any (·.id = k) := by
    rw [List.any_map]
    rfl
  have products (base : Database) (k : String) : base.products.any (·.id = k) =
      (base.products.map outline).any (·.id = k) := by
    rw [List.any_map]
    rfl
  simp only [Table.resolves, wallets, products, alike.wallets, alike.products, wallet, product]

theorem agree_createEntry (alike : Alike db db') (entry : Entry) (id : Ident) (created : Instant)
    (new : ∀ row ∈ db.entries, row.id ≠ entry.id.text)
    (new' : ∀ row ∈ db'.entries, row.id ≠ id.text) :
    Agree (fun after after' => Alike after after' ∧
      after.entries = db.entries ++ [Record.toRow entry] ∧
      after'.entries = db'.entries ++ [Record.toRow { entry with id := id, createdAt := created }])
      ((Write.createEntry entry).run db)
      ((Write.createEntry { entry with id := id, createdAt := created }).run db') := by
  let other : Entry := { entry with id := id, createdAt := created }
  have absent : ∀ row ∈ db.entries, Table.key row ≠ some (Record.ident entry).text :=
    fun row member same => new row member (Option.some.inj same)
  have absent' : ∀ row ∈ db'.entries, Table.key row ≠ some (Record.ident other).text :=
    fun row member same => new' row member (Option.some.inj same)
  have stored := agree_create absent absent'
    (by simp only [Table.admissible, Record.toRow, other]) (by simp [Table.clashes])
    (resolves_congr alike rfl rfl)
  refine stored.mono ?_
  rintro _ _ ⟨rfl, rfl⟩
  exact ⟨⟨alike.wallets, alike.products⟩, rfl, rfl⟩

theorem noEntries_append {ids : List Ident} {id : Ident} {entry : Entry} (same : entry.id = id)
    (h : NoEntries (id :: ids) db) {after : Database}
    (added : after.entries = db.entries ++ [Record.toRow entry]) : NoEntries ids after := by
  obtain ⟨distinct, absent⟩ := h
  obtain ⟨other, distinct⟩ := List.nodup_cons.1 distinct
  refine ⟨distinct, fun next member row stored => ?_⟩
  rw [added] at stored
  -- The entry that was added has the first identifier, and that is not to be drawn again.
  rcases List.mem_append.1 stored with stored | stored
  · exact absent next (List.mem_cons_of_mem id member) row stored
  · rw [List.mem_singleton.1 stored]
    intro taken
    have taken : id = next := by
      rw [← same]
      exact Ident.text_inj.1 taken
    exact other (taken ▸ member)

/-- Writes that are alike are refused for the same reason, or lead to databases that are alike. -/
theorem agree_run {write write' : Write} (similar : Write.Alike write write')
    {writes writes' : List Write} (alike : Alike db db')
    (new : NoEntries (newEntries (write :: writes)) db)
    (new' : NoEntries (newEntries (write' :: writes')) db') :
    Agree (fun after after' => Alike after after' ∧ NoEntries (newEntries writes) after ∧
      NoEntries (newEntries writes') after') (write.run db) (write'.run db') := by
  -- Updates leave the entries as they are, so the new identifiers stay new.
  cases similar with
  | updateWallet wallet moved =>
      refine (agree_updateWallet alike wallet moved).mono ?_
      rintro after after' ⟨alike, same, same'⟩
      exact ⟨alike, ⟨new.1, same ▸ new.2⟩, ⟨new'.1, same' ▸ new'.2⟩⟩
  | updateProduct product updated =>
      refine (agree_updateProduct alike product updated).mono ?_
      rintro after after' ⟨alike, same, same'⟩
      exact ⟨alike, ⟨new.1, same ▸ new.2⟩, ⟨new'.1, same' ▸ new'.2⟩⟩
  | createEntry entry id created =>
      have absent := new.2 entry.id List.mem_cons_self
      have absent' := new'.2 id List.mem_cons_self
      refine (agree_createEntry alike entry id created absent absent').mono ?_
      rintro after after' ⟨alike, added, added'⟩
      exact ⟨alike, noEntries_append rfl new added, noEntries_append rfl new' added'⟩

/-- Lists of writes that are alike are refused for the same reason, or both carried out. -/
theorem agree_runWrites {writes writes' : List Write}
    (similar : List.Forall₂ Write.Alike writes writes') (alike : Alike db db')
    (new : NoEntries (newEntries writes) db) (new' : NoEntries (newEntries writes') db') :
    Agree (fun _ _ => True) (runWrites writes db) (runWrites writes' db') := by
  induction similar generalizing db db' with
  | nil => exact .ok trivial
  | cons first _ ih =>
      refine (agree_run first alike new new').bind ?_
      rintro after after' ⟨alike, new, new'⟩
      exact ih alike new new'

/-! ## New wallets and products -/

theorem clashes_row_wallet {row : WalletRow} {wallet : Wallet} :
    Table.clashes row (Record.toRow wallet) = true ↔
      row.ownerId = wallet.ownerId.text ∧ row.name = wallet.name := by
  simp [Table.clashes, Record.toRow]

theorem clashes_row_product {row : ProductRow} {product : Product} :
    Table.clashes row (Record.toRow product) = true ↔ row.name = product.name := by
  simp [Table.clashes, Record.toRow]

/-- Two wallets that are opened with new identifiers are both stored, or refused for the same
    reason. -/
theorem agree_createWallet {wallet wallet' : Wallet}
    (new : ∀ row ∈ db.wallets, row.id ≠ wallet.id.text)
    (new' : ∀ row ∈ db.wallets, row.id ≠ wallet'.id.text)
    (balance : wallet.balance = wallet'.balance) (owner : wallet.ownerId = wallet'.ownerId)
    (name : wallet.name = wallet'.name) :
    Agree (fun _ _ => True) (runWrites [.createWallet wallet] db)
      (runWrites [.createWallet wallet'] db) := by
  have absent : ∀ row ∈ db.wallets, Table.key row ≠ some (Record.ident wallet).text :=
    fun row member same => new row member (Option.some.inj same)
  have absent' : ∀ row ∈ db.wallets, Table.key row ≠ some (Record.ident wallet').text :=
    fun row member same => new' row member (Option.some.inj same)
  have stored := agree_create absent absent' (by simp only [admissible_wallet, balance])
    (by simp only [List.any_eq_true, clashes_row_wallet, owner, name])
    (by simp only [Table.resolves])
  exact stored.bind fun _ _ _ => .ok trivial

/-- Two products that are listed with new identifiers are both stored, or refused for the same
    reason. -/
theorem agree_createProduct {product product' : Product}
    (new : ∀ row ∈ db.products, row.id ≠ product.id.text)
    (new' : ∀ row ∈ db.products, row.id ≠ product'.id.text)
    (price : product.price = product'.price) (flag : product.isConsistent = product'.isConsistent)
    (name : product.name = product'.name) :
    Agree (fun _ _ => True) (runWrites [.createProduct product] db)
      (runWrites [.createProduct product'] db) := by
  have absent : ∀ row ∈ db.products, Table.key row ≠ some (Record.ident product).text :=
    fun row member same => new row member (Option.some.inj same)
  have absent' : ∀ row ∈ db.products, Table.key row ≠ some (Record.ident product').text :=
    fun row member same => new' row member (Option.some.inj same)
  have stored := agree_create absent absent' (by simp only [admissible_product, price, flag])
    (by simp only [List.any_eq_true, clashes_row_product, name]) (by simp only [Table.resolves])
  exact stored.bind fun _ _ _ => .ok trivial

/-! ## Decisions -/

/-- True for an identifier under which nothing is stored. -/
structure Unused (id : Ident) (db : Database) : Prop where
  wallets : ∀ row ∈ db.wallets, row.id ≠ id.text
  products : ∀ row ∈ db.products, row.id ≠ id.text
  entries : ∀ row ∈ db.entries, row.id ≠ id.text

/-- True for a moment whose identifiers, of which a call takes two at most, are new. -/
structure Moment.Fresh (moment : Moment) (db : Database) : Prop where
  distinct : moment.ids 0 ≠ moment.ids 1
  first : Unused (moment.ids 0) db
  second : Unused (moment.ids 1) db

/-- Decisions of which both are carried out, or both end in the same rejection. -/
structure Repeats (db : Database) (decision decision' : Decision α) : Prop where
  taken : decision.taken = decision'.taken
  runs : Agree (fun _ _ => True) (runWrites decision.writes db) (runWrites decision'.writes db)

theorem result_carryOut_of_agree {decided decided' : Except ServiceError (Decision α)}
    (h : Agree (Repeats db) decided decided') {error : ServiceError}
    (rejected : (carryOut decided db).result = .error error) :
    (carryOut decided' db).result = .error error := by
  cases h with
  | error e => exact rejected
  | @ok decision decision' same =>
      -- A write failed, and the same one fails again.
      cases done : runWrites decision.writes db with
      | ok after => simp [carryOut, Decision.carryOut, done] at rejected
      | error e =>
          have failed := same.runs.eq_error done
          simp only [carryOut, Decision.carryOut, Decision.rejection, done, failed,
            same.taken] at rejected ⊢
          exact rejected

variable {moment moment' : Moment}

theorem noEntries_of_fresh (fresh : moment.Fresh db) :
    NoEntries [moment.ids 0, moment.ids 1] db := by
  refine ⟨List.nodup_cons.2 ⟨?_, List.nodup_singleton _⟩, ?_⟩
  · rw [List.mem_singleton]
    exact fresh.distinct
  · exact List.forall_mem_cons.2 ⟨fresh.first.entries,
      List.forall_mem_singleton.2 fresh.second.entries⟩

theorem noEntry_of_fresh (fresh : moment.Fresh db) : NoEntries [moment.ids 0] db :=
  ⟨List.nodup_singleton _, List.forall_mem_singleton.2 fresh.first.entries⟩

theorem agree_requireEntry {entry entry' : Entry} (same : entry.amount = entry'.amount) :
    Agree (fun made made' => made = entry ∧ made' = entry') (requireEntry entry.positive?)
      (requireEntry entry'.positive?) := by
  simp only [Entry.positive?, same]
  split
  · exact .ok ⟨rfl, rfl⟩
  · exact .error _

theorem agree_decideCreateWallet (fresh : moment.Fresh db) (fresh' : moment'.Fresh db)
    (ownerId : Ident) (name : String) :
    Agree (Repeats db) (decideCreateWallet moment ownerId name db)
      (decideCreateWallet moment' ownerId name db) := by
  refine Agree.bind_same fun name _ => Agree.bind_same fun found _ => ?_
  cases found with
  | some _ => exact .error _
  | none =>
      exact .ok ⟨rfl, agree_createWallet fresh.first.wallets fresh'.first.wallets rfl rfl rfl⟩

theorem agree_decideCreateProduct (fresh : moment.Fresh db) (fresh' : moment'.Fresh db)
    (draft : ProductDraft) :
    Agree (Repeats db) (decideCreateProduct moment draft db)
      (decideCreateProduct moment' draft db) := by
  refine Agree.bind_same fun name _ => Agree.bind_same fun found _ => ?_
  cases found with
  | some _ => exact .error _
  | none =>
      exact .ok ⟨rfl, agree_createProduct fresh.first.products fresh'.first.products rfl rfl rfl⟩

theorem agree_decideUpdateProduct (moment moment' : Moment) (db : Database) (id : Ident)
    (draft : ProductDraft) :
    Agree (Repeats db) (decideUpdateProduct moment id draft db)
      (decideUpdateProduct moment' id draft db) := by
  refine Agree.bind_same fun name _ => Agree.bind_same fun product _ =>
    Agree.bind_same fun clash _ => ?_
  split
  · exact .error _
  · have similar : Write.Alike (.updateProduct (replaced product name draft moment.clock))
        (.updateProduct (replaced product name draft moment'.clock)) :=
      .updateProduct _ moment'.clock.truncate
    have none : NoEntries [] db := ⟨List.nodup_nil, List.forall_mem_nil _⟩
    exact .ok ⟨rfl, agree_runWrites (.cons similar .nil) ⟨rfl, rfl⟩ none none⟩

theorem agree_decideCredit (fresh : moment.Fresh db) (fresh' : moment'.Fresh db)
    (request : CreditRequest) :
    Agree (Repeats db) (decideCredit moment request db) (decideCredit moment' request db) := by
  -- Up to the entry, nothing depends on the moment.
  refine Agree.bind_same fun _ _ => Agree.bind_same fun wallet _ => Agree.bind_same fun _ _ => ?_
  refine Agree.bind (agree_requireEntry rfl) ?_
  rintro _ _ ⟨rfl, rfl⟩
  refine .ok ⟨rfl, agree_runWrites ?_ ⟨rfl, rfl⟩ (noEntry_of_fresh fresh) (noEntry_of_fresh fresh')⟩
  exact .cons (.createEntry _ _ _) (.cons (.updateWallet _ _) .nil)

theorem agree_decideTransfer (fresh : moment.Fresh db) (fresh' : moment'.Fresh db)
    (request : TransferRequest) :
    Agree (Repeats db) (decideTransfer moment request db) (decideTransfer moment' request db) := by
  -- The checks and both reads come before the first identifier is drawn.
  refine Agree.bind_same fun _ _ => Agree.bind_same fun _ _ => Agree.bind_same fun wallets _ => ?_
  refine Agree.bind_same fun _ _ => Agree.bind_same fun _ _ => ?_
  refine Agree.bind (agree_requireEntry rfl) ?_
  rintro _ _ ⟨rfl, rfl⟩
  refine Agree.bind (agree_requireEntry rfl) ?_
  rintro _ _ ⟨rfl, rfl⟩
  refine .ok ⟨rfl, agree_runWrites ?_ ⟨rfl, rfl⟩ (noEntries_of_fresh fresh)
    (noEntries_of_fresh fresh')⟩
  exact .cons (.createEntry _ _ _) (.cons (.updateWallet _ _)
    (.cons (.createEntry _ _ _) (.cons (.updateWallet _ _) .nil)))

theorem agree_decidePurchase (fresh : moment.Fresh db) (fresh' : moment'.Fresh db)
    (request : PurchaseRequest) :
    Agree (Repeats db) (decidePurchase moment request db) (decidePurchase moment' request db) := by
  refine Agree.bind_same fun _ _ => Agree.bind_same fun wallet _ =>
    Agree.bind_same fun product? _ => ?_
  cases product? with
  | none => exact .error _
  | some product =>
      simp only [pure_bind]
      refine Agree.bind_same fun _ _ => ?_
      cases product.totalFor? request.quantity with
      | none => exact .error _
      | some total =>
          dsimp only
          refine Agree.bind_same fun _ _ => ?_
          refine Agree.bind (agree_requireEntry rfl) ?_
          rintro _ _ ⟨rfl, rfl⟩
          -- Taking units sets the time of the product, and only that is another one.
          have taken : Write.Alike (.updateProduct (product.take request.quantity moment.clock))
              (.updateProduct (product.take request.quantity moment'.clock)) :=
            .updateProduct _ moment'.clock.truncate
          refine .ok ⟨rfl, agree_runWrites ?_ ⟨rfl, rfl⟩ (noEntry_of_fresh fresh)
            (noEntry_of_fresh fresh')⟩
          exact .cons taken (.cons (.updateWallet _ _) (.cons (.createEntry _ _ _) .nil))

/-! ## Calls -/

theorem result_map_eq_error {f : α → β} {outcome : Outcome α} {error : ServiceError} :
    (outcome.map f).result = .error error ↔ outcome.result = .error error := by
  cases hr : outcome.result <;> simp [Outcome.map, hr, Except.map]

theorem result_map_carryOut_of_agree {decided decided' : Except ServiceError (Decision α)}
    {wrap : α → Answer} {error : ServiceError} (agreed : Agree (Repeats db) decided decided')
    (rejected : ((carryOut decided db).map wrap).result = .error error) :
    ((carryOut decided' db).map wrap).result = .error error :=
  result_map_eq_error.2 (result_carryOut_of_agree agreed (result_map_eq_error.1 rejected))

/-- A rejection does not depend on the time, nor on which new identifiers a call draws. -/
theorem result_runCall_of_fresh {call : Call} {error : ServiceError} (fresh : moment.Fresh db)
    (fresh' : moment'.Fresh db) (rejected : (runCall call moment db).result = .error error) :
    (runCall call moment' db).result = .error error := by
  cases call with
  | createWallet ownerId name =>
      exact result_map_carryOut_of_agree (agree_decideCreateWallet fresh fresh' ownerId name)
        rejected
  | createProduct draft =>
      exact result_map_carryOut_of_agree (agree_decideCreateProduct fresh fresh' draft) rejected
  | updateProduct id draft =>
      exact result_map_carryOut_of_agree (agree_decideUpdateProduct moment moment' db id draft)
        rejected
  | credit request =>
      exact result_map_carryOut_of_agree (agree_decideCredit fresh fresh' request) rejected
  | transfer request =>
      exact result_map_carryOut_of_agree (agree_decideTransfer fresh fresh' request) rejected
  | purchase request =>
      exact result_map_carryOut_of_agree (agree_decidePurchase fresh fresh' request) rejected
  -- Renaming and removing take nothing from the moment.
  | renameWallet ownerId id name => exact rejected
  | deleteWallet ownerId id => exact rejected
  | deleteProduct id => exact rejected

/-- A call that is rejected leaves everything as it was, whatever is stored; and wherever new
    identifiers are drawn, the same call is rejected in the same way at every other time. -/
theorem rejected_again {call : Call} {error : ServiceError}
    (rejected : (runCall call moment db).result = .error error) :
    (runCall call moment db).database = db ∧
      (moment.Fresh db → ∀ other : Moment, other.Fresh db →
        (runCall call other db).result = .error error ∧ (runCall call other db).database = db) := by
  refine ⟨database_runCall_of_error rejected, fun fresh other freshToo => ?_⟩
  have again := result_runCall_of_fresh fresh freshToo rejected
  exact ⟨again, database_runCall_of_error again⟩

/-- A name that is taken is refused at one time as at another. -/
theorem rejected_again_taken :
    let db := (runCall (.createWallet default "Main") ⟨⟨0, 0⟩, fun _ => default⟩
      Database.fresh).database
    let call : Call := .createWallet default " Main "
    let moment : Moment := ⟨⟨1, 0⟩, fun n => .ofBits (n + 1)⟩
    let other : Moment := ⟨⟨99, 0⟩, fun n => .ofBits (n + 9)⟩
    (runCall call moment db).result = .error (.walletExists "Main") ∧
      moment.Fresh db ∧ other.Fresh db ∧
      (runCall call other db).result = .error (.walletExists "Main") ∧
      (runCall call other db).database = db := by
  intro db call moment other
  have rejected : (runCall call moment db).result = .error (.walletExists "Main") := by
    decide +kernel
  have fresh : moment.Fresh db :=
    ⟨by decide, ⟨by decide +kernel, by decide +kernel, by decide +kernel⟩,
      ⟨by decide +kernel, by decide +kernel, by decide +kernel⟩⟩
  have freshToo : other.Fresh db :=
    ⟨by decide, ⟨by decide +kernel, by decide +kernel, by decide +kernel⟩,
      ⟨by decide +kernel, by decide +kernel, by decide +kernel⟩⟩
  exact ⟨rejected, fresh, freshToo, (rejected_again rejected).2 fresh other freshToo⟩

end Purse.Service
