/-
  Purse.Proofs.Ledger.Sound

  What the constraints of the tables keep true of a book, whatever is written: identifiers stand
  once, no balance is negative, every price is positive and every flag says what its
  quantity says.
-/
import Purse.Proofs.Ledger.Book
import Purse.Proofs.Store.Distinct

namespace Purse.Service.Book

open Store

/-- What the constraints of the tables say of all rows together. -/
structure Sound (book : Book) : Prop where
  wallets : Distinct book.wallets
  products : Distinct book.products
  balances : ∀ w ∈ book.wallets, 0 ≤ w.balance
  stocks : ∀ p ∈ book.products, 0 < p.price ∧ p.isConsistent = true

theorem sound_blank : blank.Sound where
  wallets := List.nodup_nil
  products := List.nodup_nil
  balances := by simp [blank]
  stocks := by simp [blank]

variable {book : Book}

/-! ## Writes -/

theorem sound_createWallet (h : book.Sound) {wallet : Wallet}
    (admitted : book.Admits (.createWallet wallet)) :
    (book.apply (.createWallet wallet)).Sound := by
  obtain ⟨positive, new⟩ := admitted
  refine ⟨distinct_append h.wallets fun w member => (new w member).1, h.products, ?_, h.stocks⟩
  intro w member
  rcases List.mem_append.1 member with member | member
  · exact h.balances w member
  · rw [List.mem_singleton.1 member]
    exact positive

theorem sound_updateWallet (h : book.Sound) {wallet : Wallet}
    (admitted : book.Admits (.updateWallet wallet)) :
    (book.apply (.updateWallet wallet)).Sound := by
  refine ⟨distinct_putRecord wallet h.wallets, h.products, ?_, h.stocks⟩
  intro w member
  rcases mem_of_mem_putRecord member with ⟨member, -⟩ | ⟨rfl, present⟩
  · exact h.balances w member
  · exact (admitted present).1

theorem sound_createProduct (h : book.Sound) {product : Product}
    (admitted : book.Admits (.createProduct product)) :
    (book.apply (.createProduct product)).Sound := by
  obtain ⟨stocked, new⟩ := admitted
  refine ⟨h.wallets, distinct_append h.products fun p member => (new p member).1, h.balances, ?_⟩
  intro p member
  rcases List.mem_append.1 member with member | member
  · exact h.stocks p member
  · rw [List.mem_singleton.1 member]
    exact stocked

theorem sound_updateProduct (h : book.Sound) {product : Product}
    (admitted : book.Admits (.updateProduct product)) :
    (book.apply (.updateProduct product)).Sound := by
  refine ⟨h.wallets, distinct_putRecord product h.products, h.balances, ?_⟩
  intro p member
  rcases mem_of_mem_putRecord member with ⟨member, -⟩ | ⟨rfl, present⟩
  · exact h.stocks p member
  · exact (admitted present).1

theorem sound_withoutWallet (h : book.Sound) (id : Ident) : (book.withoutWallet id).Sound where
  wallets := distinct_filter h.wallets _
  products := h.products
  balances w member := h.balances w (List.mem_of_mem_filter member)
  stocks := h.stocks

theorem sound_withoutProduct (h : book.Sound) (id : Ident) : (book.withoutProduct id).Sound where
  wallets := h.wallets
  products := distinct_filter h.products _
  balances := h.balances
  stocks p member := h.stocks p (List.mem_of_mem_filter member)

/-- Whatever is written, what the constraints say stays true. -/
theorem sound_apply (h : book.Sound) {write : Write} (admitted : book.Admits write) :
    (book.apply write).Sound := by
  cases write with
  | createWallet wallet => exact sound_createWallet h admitted
  | updateWallet wallet => exact sound_updateWallet h admitted
  | createProduct product => exact sound_createProduct h admitted
  | updateProduct product => exact sound_updateProduct h admitted
  | createEntry entry => exact ⟨h.wallets, h.products, h.balances, h.stocks⟩
  | deleteWallet id =>
      rw [apply]
      split
      · exact sound_withoutWallet h id
      · exact h
  | deleteProduct id =>
      rw [apply]
      split
      · exact sound_withoutProduct h id
      · exact h

theorem sound_applyAll (h : book.Sound) {writes : List Write} (admitted : book.AdmitsAll writes) :
    (book.applyAll writes).Sound := by
  -- What is admitted after a write is admitted on the book that it left.
  induction writes generalizing book with
  | nil => exact h
  | cons write writes ih => exact ih (sound_apply h admitted.1) admitted.2

end Purse.Service.Book
