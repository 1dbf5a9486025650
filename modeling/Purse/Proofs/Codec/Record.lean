/-
  Purse.Proofs.Codec.Record

  Records and their rows.  Reading the row of a record gives the record back, if its times are
  ones that the stored form can hold (`ofRow_toRow_wallet` and its companions).  With other
  times a row may be unreadable or read as another time, but the rest of a record that
  is read is what was written (`eq_of_reads_wallet` and its companions).
-/
import Purse.Proofs.Attempts
import Purse.Proofs.Codec.Ident
import Purse.Proofs.Codec.Instant
import Purse.Store.Record

namespace Purse

/-- True for an instant that the stored form holds without loss. -/
structure Instant.Storable (t : Instant) : Prop where
  wellFormed : t.WellFormed
  inPlainYear : t.InPlainYear
  whole : t.truncate = t

/-- The whole second that a clock shows can be stored. -/
theorem Instant.storable_truncate {t : Instant} (h : t.WellFormed) (hy : t.InPlainYear) :
    t.truncate.Storable where
  wellFormed := by
    simp only [WellFormed, truncate, secondNanos] at h ⊢
    omega
  inPlainYear := by
    simpa only [InPlainYear, truncate, date_mk_second] using hy
  whole := truncate_truncate t

theorem EntryKind.parse?_word (kind : EntryKind) : EntryKind.parse? kind.word = some kind := by
  cases kind <;> decide

theorem Direction.parse?_word (direction : Direction) :
    Direction.parse? direction.word = some direction := by
  cases direction <;> decide

/-- True for a wallet whose times can be stored. -/
structure Wallet.Storable (wallet : Wallet) : Prop where
  moved : ∀ t ∈ wallet.lastMovedAt, t.Storable
  created : wallet.createdAt.Storable

/-- True for a product whose times can be stored. -/
structure Product.Storable (product : Product) : Prop where
  created : product.createdAt.Storable
  updated : product.updatedAt.Storable

/-- True for an entry whose time can be stored. -/
structure Entry.Storable (entry : Entry) : Prop where
  created : entry.createdAt.Storable

namespace Store

@[simp] theorem ident_wallet (wallet : Wallet) : Record.ident wallet = wallet.id := rfl

@[simp] theorem ident_product (product : Product) : Record.ident product = product.id := rfl

@[simp] theorem ident_entry (entry : Entry) : Record.ident entry = entry.id := rfl

/-! ## Columns -/

theorem readIdent_eq_ok {column s : String} {id : Ident} :
    readIdent column s = .ok id ↔ Ident.ofText? s = some id := by
  unfold readIdent
  split <;> simp_all

theorem readNumber_eq_ok {column : String} {cell : Cell} {n : Int} :
    readNumber column cell = .ok n ↔ cell = .integer n := by
  cases cell <;> simp [readNumber]

theorem readNumber_integer (column : String) (n : Int) :
    readNumber column (.integer n) = .ok n :=
  readNumber_eq_ok.2 rfl

theorem readQuantity_toNat (q : Quantity) : readQuantity q.toNat = .ok q := by
  -- A quantity is stored as a number, which is checked against the range again.
  have hlt : (q.toNat : Int) < UInt32.size := by
    have := q.toNat_lt_size
    omega
  rw [readQuantity, if_pos ⟨Int.natCast_nonneg _, hlt⟩, Int.toNat_natCast, UInt32.ofNat_toNat]

theorem readKind_word (kind : EntryKind) : readKind kind.word = .ok kind := by
  rw [readKind, EntryKind.parse?_word]

theorem readDirection_word (direction : Direction) :
    readDirection direction.word = .ok direction := by
  rw [readDirection, Direction.parse?_word]

theorem readInstant_text {column : String} {t : Instant} (h : t.Storable) :
    readInstant column t.text = .ok t := by
  rw [readInstant, Instant.ofStored?_text h.wellFormed h.inPlainYear, h.whole]

theorem readIdent_text (column : String) (id : Ident) : readIdent column id.text = .ok id :=
  readIdent_eq_ok.2 (Ident.ofText?_text id)

theorem readOptional_map {read : String → Except DecodeFault α} {text : α → String}
    {value : Option α} (h : ∀ a ∈ value, read (text a) = .ok a) :
    readOptional read (value.map text) = .ok value := by
  cases value with
  | none => rfl
  | some a => simp [readOptional, h a rfl, Except.map]

/-! ## Reading back -/

theorem ofRow_toRow_wallet {wallet : Wallet} (h : wallet.Storable) :
    Record.ofRow (Record.toRow wallet) = .ok wallet := by
  simp only [Record.ofRow, Record.toRow, readIdent_text, readNumber_integer,
    readInstant_text h.created,
    readOptional_map fun t ht => readInstant_text (h.moved t ht)]
  rfl

theorem ofRow_toRow_product {product : Product} (h : product.Storable) :
    Record.ofRow (Record.toRow product) = .ok product := by
  have flag : decide ((if product.available then (1 : Int) else 0) ≠ 0) = product.available := by
    cases product.available <;> rfl
  simp only [Record.ofRow, Record.toRow, readIdent_text, readNumber_integer, Cell.ofBool,
    readQuantity_toNat, readInstant_text h.created, readInstant_text h.updated, ok_bind, flag]
  rfl

theorem ofRow_toRow_entry {entry : Entry} (h : entry.Storable) :
    Record.ofRow (Record.toRow entry) = .ok entry := by
  simp only [Record.ofRow, Record.toRow, readIdent_text, readKind_word, readDirection_word,
    readNumber_integer, readInstant_text h.created,
    readOptional_map fun id _ => readIdent_text _ id]
  rfl

/-- A wallet that is read is the stored one, its times apart. -/
theorem eq_of_reads_wallet {stored wallet : Wallet}
    (h : Record.ofRow (Record.toRow stored) = .ok wallet) :
    ∃ moved created, wallet = { stored with lastMovedAt := moved, createdAt := created } := by
  simp only [Record.ofRow, Record.toRow, readIdent_text, readNumber_integer, bind_eq_ok, pure_eq_ok,
    Except.ok.injEq, exists_eq_left'] at h
  obtain ⟨moved, -, created, -, rfl⟩ := h
  exact ⟨moved, created, rfl⟩

/-- A product that is read is the stored one, its times apart. -/
theorem eq_of_reads_product {stored product : Product}
    (h : Record.ofRow (Record.toRow stored) = .ok product) :
    ∃ created updated, product = { stored with createdAt := created, updatedAt := updated } := by
  have flag : decide ((if stored.available then (1 : Int) else 0) ≠ 0) = stored.available := by
    cases stored.available <;> rfl
  simp only [Record.ofRow, Record.toRow, readIdent_text, readNumber_integer, Cell.ofBool,
    bind_eq_ok, pure_eq_ok, Except.ok.injEq, exists_eq_left', readQuantity_toNat, flag] at h
  obtain ⟨created, -, updated, -, rfl⟩ := h
  exact ⟨created, updated, rfl⟩

/-- An entry that is read is the stored one, its time apart. -/
theorem eq_of_reads_entry {stored entry : Entry}
    (h : Record.ofRow (Record.toRow stored) = .ok entry) :
    ∃ created, entry = { stored with createdAt := created } := by
  have product : readOptional (readIdent "product_id") (stored.productId.map Ident.text) =
      .ok stored.productId := readOptional_map fun id _ => readIdent_text _ id
  have counterparty : readOptional (readIdent "counterparty_wallet_id")
      (stored.counterpartyId.map Ident.text) = .ok stored.counterpartyId :=
    readOptional_map fun id _ => readIdent_text _ id
  simp only [Record.ofRow, Record.toRow, readIdent_text, readKind_word, readDirection_word,
    readNumber_integer, product, counterparty, bind_eq_ok, pure_eq_ok, Except.ok.injEq,
    exists_eq_left'] at h
  obtain ⟨created, -, rfl⟩ := h
  exact ⟨created, rfl⟩

end Store

end Purse
