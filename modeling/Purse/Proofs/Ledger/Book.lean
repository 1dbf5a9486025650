/-
  Purse.Proofs.Ledger.Book

  The stored rows as records.  A book is what a database holds when all its rows were written
  from records (`KeptIn`); the times in it are those that were written, whether or not they can
  be read back.  Writes that took effect on the database take effect on the book in the plain
  sense (`apply`), and the constraints of the tables held for them (`Admits`):
  `keptIn_of_run` and `keptIn_of_runWrites`.
-/
import Purse.Proofs.Store.Table
import Purse.Service.Change

namespace Purse.Service

open Store

/-- What is stored, as records, in the order in which they came. -/
structure Book where
  wallets : List Wallet
  products : List Product
  entries : List Entry

/-- An entry without its reference to a product that is removed. -/
def released (id : Ident) (entry : Entry) : Entry :=
  if entry.productId = some id then { entry with productId := none } else entry

section

variable (id : Ident) (entry : Entry)

/-- Nothing is taken from the entry but its product. -/
theorem released_eq :
    released id entry = { entry with productId := (released id entry).productId } := by
  unfold released
  split <;> rfl

@[simp] theorem walletId_released : (released id entry).walletId = entry.walletId := by
  rw [released_eq]

@[simp] theorem createdAt_released : (released id entry).createdAt = entry.createdAt := by
  rw [released_eq]

@[simp] theorem signedAmount_released : (released id entry).signedAmount = entry.signedAmount := by
  rw [released_eq]
  rfl

end

namespace Book

/-- The book of a fresh database. -/
def blank : Book := ⟨[], [], []⟩

/-- True when a database holds the rows of a book. -/
structure KeptIn (book : Book) (db : Database) : Prop where
  wallets : db.wallets = book.wallets.map Record.toRow
  products : db.products = book.products.map Record.toRow
  entries : db.entries = book.entries.map Record.toRow

theorem keptIn_fresh : blank.KeptIn Database.fresh := ⟨rfl, rfl, rfl⟩

namespace KeptIn

variable {book : Book} {db : Database}

theorem walletRows (h : book.KeptIn db) :
    Table.rows db = book.wallets.map (Record.toRow (α := Wallet)) := h.wallets

theorem productRows (h : book.KeptIn db) :
    Table.rows db = book.products.map (Record.toRow (α := Product)) := h.products

theorem entryRows (h : book.KeptIn db) :
    Table.rows db = book.entries.map (Record.toRow (α := Entry)) := h.entries

end KeptIn

/-! ## Writes -/

/-- A wallet goes with its entries. -/
def withoutWallet (book : Book) (id : Ident) : Book :=
  { book with
    wallets := book.wallets.filter (·.id ≠ id)
    entries := book.entries.filter (·.walletId ≠ id) }

/-- A product goes, and the entries that refer to it stay without the reference. -/
def withoutProduct (book : Book) (id : Ident) : Book :=
  { book with
    products := book.products.filter (·.id ≠ id)
    entries := book.entries.map (released id) }

/-- The book after a write that took effect. -/
def apply (book : Book) : Write → Book
  | .createWallet wallet => { book with wallets := book.wallets ++ [wallet] }
  | .updateWallet wallet => { book with wallets := putRecord wallet book.wallets }
  | .deleteWallet id => if book.wallets.any (·.id = id) then book.withoutWallet id else book
  | .createProduct product => { book with products := book.products ++ [product] }
  | .updateProduct product => { book with products := putRecord product book.products }
  | .deleteProduct id => if book.products.any (·.id = id) then book.withoutProduct id else book
  | .createEntry entry => { book with entries := book.entries ++ [entry] }

/-- The book after writes that all took effect. -/
def applyAll (book : Book) (writes : List Write) : Book := writes.foldl apply book

/-- What the constraints of the tables ask of a write. -/
def Admits (book : Book) : Write → Prop
  | .createWallet wallet => 0 ≤ wallet.balance ∧
      ∀ w ∈ book.wallets, w.id ≠ wallet.id ∧ ¬ (w.ownerId = wallet.ownerId ∧ w.name = wallet.name)
  | .updateWallet wallet => (∃ w ∈ book.wallets, w.id = wallet.id) → 0 ≤ wallet.balance ∧
      ∀ w ∈ book.wallets, w.id ≠ wallet.id →
        ¬ (w.ownerId = wallet.ownerId ∧ w.name = wallet.name)
  | .createProduct product => (0 < product.price ∧ product.isConsistent) ∧
      ∀ p ∈ book.products, p.id ≠ product.id ∧ p.name ≠ product.name
  | .updateProduct product => (∃ p ∈ book.products, p.id = product.id) →
      (0 < product.price ∧ product.isConsistent) ∧
        ∀ p ∈ book.products, p.id ≠ product.id → p.name ≠ product.name
  | .createEntry entry => 0 < entry.amount ∧ (∀ e ∈ book.entries, e.id ≠ entry.id) ∧
      (∃ w ∈ book.wallets, w.id = entry.walletId) ∧
      ∀ id ∈ entry.productId, ∃ p ∈ book.products, p.id = id
  | .deleteWallet _ | .deleteProduct _ => True

/-- What the constraints ask of writes that follow each other. -/
def AdmitsAll (book : Book) : List Write → Prop
  | [] => True
  | write :: writes => book.Admits write ∧ (book.apply write).AdmitsAll writes

end Book

/-! ## Constraints -/

theorem admissible_wallet {wallet : Wallet} :
    Table.admissible (Record.toRow wallet) = true ↔ 0 ≤ wallet.balance := by
  simp [Table.admissible, Record.toRow]

theorem clashes_wallet {a b : Wallet} :
    Table.clashes (Record.toRow a) (Record.toRow b) = false ↔
      ¬ (a.ownerId = b.ownerId ∧ a.name = b.name) := by
  simp [Table.clashes, Record.toRow]

theorem admissible_product {product : Product} :
    Table.admissible (Record.toRow product) = true ↔
      0 < product.price ∧ product.isConsistent = true := by
  have quantity : (0 < (product.quantity.toNat : Int)) ↔ 0 < product.quantity := by
    rw [UInt32.lt_iff_toNat_lt]
    exact Int.natCast_pos
  simp only [Table.admissible, Record.toRow, Product.isConsistent, isAbove_integer,
    isAtLeast_integer, Bool.and_eq_true, decide_eq_true_eq, quantity, Cell.ofBool,
    Cell.integer.injEq, beq_iff_eq]
  -- The stored flag is a number, the flag of the product a truth value.
  have flag : ((if product.available = true then (1 : Int) else 0) =
      if 0 < product.quantity then 1 else 0) ↔
        product.available = decide (0 < product.quantity) := by
    by_cases positive : 0 < product.quantity <;> cases product.available <;> simp [positive]
  rw [flag]
  simp

theorem clashes_product {a b : Product} :
    Table.clashes (Record.toRow a) (Record.toRow b) = false ↔ a.name ≠ b.name := by
  simp [Table.clashes, Record.toRow]

theorem admissible_entry {entry : Entry} (h : Table.admissible (Record.toRow entry) = true) :
    0 < entry.amount := by
  simp only [Table.admissible, Record.toRow, Bool.and_eq_true, isAbove_integer,
    decide_eq_true_eq] at h
  exact h.2

/-- What an entry refers to is stored. -/
theorem resolves_entry {book : Book} {db : Database} (h : book.KeptIn db) {entry : Entry} :
    Table.resolves db (Record.toRow entry) = true ↔
      (∃ w ∈ book.wallets, w.id = entry.walletId) ∧
        ∀ id ∈ entry.productId, ∃ p ∈ book.products, p.id = id := by
  simp only [Table.resolves, Record.toRow, h.wallets, h.products]
  cases entry.productId <;> simp

/-! ## Runs -/

/-- The answer of a write is forgotten, but not that it took effect. -/
theorem settle_eq_ok {result : Except StoreError α × Database} {after : Database} :
    settle result = .ok after ↔ ∃ a, result = (.ok a, after) := by
  obtain ⟨_ | a, db⟩ := result <;> simp [settle]

/-- The rows that a removed wallet leaves. -/
theorem delete_wallet {db : Database} {id : Ident}
    (found : (Table.find? (ρ := WalletRow) db id.text).isSome) :
    (delete WalletRow id db).2 = { db with
      wallets := db.wallets.filter fun r => decide (Table.key r ≠ some id.text)
      entries := db.entries.filter fun e => decide (e.walletId ≠ id.text) } := by
  obtain ⟨row, found⟩ := Option.isSome_iff_exists.1 found
  simp only [delete, Table.erase?, found]
  rfl

/-- The rows that a removed product leaves. -/
theorem delete_product {db : Database} {id : Ident}
    (found : (Table.find? (ρ := ProductRow) db id.text).isSome) :
    (delete ProductRow id db).2 = { db with
      products := db.products.filter fun r => decide (Table.key r ≠ some id.text)
      entries := db.entries.map fun e =>
        if e.productId = some id.text then { e with productId := none } else e } := by
  obtain ⟨row, found⟩ := Option.isSome_iff_exists.1 found
  simp only [delete, Table.erase?, found]
  rfl

theorem delete_of_absent {ρ : Type} [Table ρ] {db : Database} {id : Ident}
    (absent : ¬ (Table.find? (ρ := ρ) db id.text).isSome) : (delete ρ id db).2 = db := by
  rw [Option.not_isSome_iff_eq_none] at absent
  simp only [delete, Table.erase?, absent]

theorem toRow_released (id : Ident) (entry : Entry) :
    Record.toRow (released id entry) =
      if (Record.toRow entry).productId = some id.text then
        { Record.toRow entry with productId := none }
      else Record.toRow entry := by
  have same : (Record.toRow entry).productId = some id.text ↔ entry.productId = some id := by
    simp [Record.toRow]
  simp only [same, released]
  split <;> rfl

theorem keptIn_deleteWallet {book : Book} {db : Database} (h : book.KeptIn db) (id : Ident) :
    (book.apply (.deleteWallet id)).KeptIn (delete WalletRow id db).2 := by
  have stored : (Table.find? (ρ := WalletRow) db id.text).isSome = book.wallets.any (·.id = id) :=
    isSome_find?_eq h.walletRows id
  rw [Book.apply, ← stored]
  split
  · next found =>
      rw [delete_wallet found]
      -- The entries of the wallet go with it, told by the text of its identifier.
      have gone : (fun row : EntryRow => decide (row.walletId ≠ id.text)) ∘ Record.toRow =
          fun entry : Entry => decide (entry.walletId ≠ id) := by
        funext entry
        simp [Record.toRow]
      refine ⟨?_, h.products, ?_⟩
      · simp only [h.wallets, filter_key_ne, ident_wallet, Book.withoutWallet]
      · simp only [h.entries, List.filter_map, gone, Book.withoutWallet]
  · next absent =>
      rw [delete_of_absent absent]
      exact h

theorem keptIn_deleteProduct {book : Book} {db : Database} (h : book.KeptIn db) (id : Ident) :
    (book.apply (.deleteProduct id)).KeptIn (delete ProductRow id db).2 := by
  have stored :
      (Table.find? (ρ := ProductRow) db id.text).isSome = book.products.any (·.id = id) :=
    isSome_find?_eq h.productRows id
  rw [Book.apply, ← stored]
  split
  · next found =>
      rw [delete_product found]
      refine ⟨h.wallets, ?_, ?_⟩
      · simp only [h.products, filter_key_ne, ident_product, Book.withoutProduct]
      · simp only [h.entries, List.map_map, Book.withoutProduct]
        exact List.map_congr_left fun entry _ => (toRow_released id entry).symm
  · next absent =>
      rw [delete_of_absent absent]
      exact h

/-- A write that took effect was admitted, and took effect on the book. -/
theorem keptIn_of_run {book : Book} {db after : Database} {write : Write} (h : book.KeptIn db)
    (done : write.run db = .ok after) : book.Admits write ∧ (book.apply write).KeptIn after := by
  cases write with
  | createWallet wallet =>
      obtain ⟨_, done⟩ := settle_eq_ok.1 done
      obtain ⟨admissible, free, -, rfl⟩ := create_records h.walletRows done
      refine ⟨⟨admissible_wallet.1 admissible, fun w member => ?_⟩, rfl, h.products, h.entries⟩
      exact ⟨(free w member).1, clashes_wallet.1 (free w member).2⟩
  | updateWallet wallet =>
      obtain ⟨_, done⟩ := settle_eq_ok.1 done
      obtain ⟨rfl, checked⟩ := update_records h.walletRows done
      refine ⟨fun present => ?_, rfl, h.products, h.entries⟩
      obtain ⟨admissible, free, -⟩ := checked present
      exact ⟨admissible_wallet.1 admissible,
        fun w member other => clashes_wallet.1 (free w member other)⟩
  | createProduct product =>
      obtain ⟨_, done⟩ := settle_eq_ok.1 done
      obtain ⟨admissible, free, -, rfl⟩ := create_records h.productRows done
      refine ⟨⟨admissible_product.1 admissible, fun p member => ?_⟩, h.wallets, rfl, h.entries⟩
      exact ⟨(free p member).1, clashes_product.1 (free p member).2⟩
  | updateProduct product =>
      obtain ⟨_, done⟩ := settle_eq_ok.1 done
      obtain ⟨rfl, checked⟩ := update_records h.productRows done
      refine ⟨fun present => ?_, h.wallets, rfl, h.entries⟩
      obtain ⟨admissible, free, -⟩ := checked present
      exact ⟨admissible_product.1 admissible,
        fun p member other => clashes_product.1 (free p member other)⟩
  | createEntry entry =>
      obtain ⟨_, done⟩ := settle_eq_ok.1 done
      obtain ⟨admissible, free, resolves, rfl⟩ := create_records h.entryRows done
      refine ⟨⟨admissible_entry admissible, fun e member => (free e member).1, ?_⟩,
        h.wallets, h.products, rfl⟩
      exact (resolves_entry h).1 resolves
  | deleteWallet id =>
      refine ⟨trivial, ?_⟩
      rw [← Except.ok.inj done]
      exact keptIn_deleteWallet h id
  | deleteProduct id =>
      refine ⟨trivial, ?_⟩
      rw [← Except.ok.inj done]
      exact keptIn_deleteProduct h id

theorem keptIn_of_runWrites {book : Book} {db after : Database} {writes : List Write}
    (h : book.KeptIn db) (done : runWrites writes db = .ok after) :
    book.AdmitsAll writes ∧ (book.applyAll writes).KeptIn after := by
  -- Each write finds the book that the writes before it left.
  induction writes generalizing book db with
  | nil =>
      simp only [runWrites, Except.ok.injEq] at done
      exact ⟨trivial, done ▸ h⟩
  | cons write writes ih =>
      simp only [runWrites, bind_eq_ok] at done
      obtain ⟨between, first, rest⟩ := done
      obtain ⟨admitted, kept⟩ := keptIn_of_run h first
      obtain ⟨admittedRest, keptRest⟩ := ih kept rest
      exact ⟨⟨admitted, admittedRest⟩, keptRest⟩

end Purse.Service
