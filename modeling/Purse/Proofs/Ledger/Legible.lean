/-
  Purse.Proofs.Ledger.Legible

  Books whose rows can all be read back.  Calls at times that a clock can show in a plain year
  write such times only, to the whole second, so that every stored row is read as the
  record that was written.
-/
import Purse.Proofs.Ledger.History

namespace Purse.Service

open Store

/-- True for a write of times that can be stored. -/
def Write.Storable : Write → Prop
  | .createWallet wallet | .updateWallet wallet => wallet.Storable
  | .createProduct product | .updateProduct product => product.Storable
  | .createEntry entry => entry.Storable
  | .deleteWallet _ | .deleteProduct _ => True

/-- True for a moment whose time can be stored. -/
def Moment.Plain (moment : Moment) : Prop := moment.clock.WellFormed ∧ moment.clock.InPlainYear

theorem Moment.Plain.now {moment : Moment} (h : moment.Plain) : moment.now.Storable :=
  Instant.storable_truncate h.1 h.2

/-- True when all times of a book can be stored. -/
structure Book.Legible (book : Book) : Prop where
  wallets : ∀ w ∈ book.wallets, w.Storable
  products : ∀ p ∈ book.products, p.Storable
  entries : ∀ e ∈ book.entries, e.Storable

namespace Book

theorem legible_blank : blank.Legible := by
  constructor <;> simp [blank]

variable {book : Book}

/-! ## Writes -/

theorem storable_released (id : Ident) {entry : Entry} (h : entry.Storable) :
    (released id entry).Storable := by
  rw [released_eq]
  exact ⟨h.created⟩

theorem legible_withoutWallet (h : book.Legible) (id : Ident) :
    (book.withoutWallet id).Legible where
  wallets w member := h.wallets w (List.mem_of_mem_filter member)
  products := h.products
  entries e member := h.entries e (List.mem_of_mem_filter member)

theorem legible_withoutProduct (h : book.Legible) (id : Ident) :
    (book.withoutProduct id).Legible where
  wallets := h.wallets
  products p member := h.products p (List.mem_of_mem_filter member)
  entries e member := by
    obtain ⟨stored, storedMember, rfl⟩ := List.mem_map.1 member
    exact storable_released id (h.entries stored storedMember)

theorem legible_apply (h : book.Legible) {write : Write} (storable : write.Storable) :
    (book.apply write).Legible := by
  cases write with
  | createWallet wallet =>
      refine ⟨?_, h.products, h.entries⟩
      exact List.forall_mem_append.2 ⟨h.wallets, List.forall_mem_singleton.2 storable⟩
  | updateWallet wallet =>
      refine ⟨?_, h.products, h.entries⟩
      intro w member
      rcases mem_of_mem_putRecord member with ⟨member, -⟩ | ⟨rfl, -⟩
      · exact h.wallets w member
      · exact storable
  | createProduct product =>
      refine ⟨h.wallets, ?_, h.entries⟩
      exact List.forall_mem_append.2 ⟨h.products, List.forall_mem_singleton.2 storable⟩
  | updateProduct product =>
      refine ⟨h.wallets, ?_, h.entries⟩
      intro p member
      rcases mem_of_mem_putRecord member with ⟨member, -⟩ | ⟨rfl, -⟩
      · exact h.products p member
      · exact storable
  | createEntry entry =>
      refine ⟨h.wallets, h.products, ?_⟩
      exact List.forall_mem_append.2 ⟨h.entries, List.forall_mem_singleton.2 storable⟩
  | deleteWallet id =>
      rw [apply]
      split
      · exact legible_withoutWallet h id
      · exact h
  | deleteProduct id =>
      rw [apply]
      split
      · exact legible_withoutProduct h id
      · exact h

theorem legible_applyAll (h : book.Legible) {writes : List Write}
    (storable : ∀ write ∈ writes, write.Storable) : (book.applyAll writes).Legible := by
  -- Each write meets a book that the writes before it left legible.
  induction writes generalizing book with
  | nil => exact h
  | cons write writes ih =>
      obtain ⟨first, rest⟩ := List.forall_mem_cons.1 storable
      exact ih (legible_apply h first) rest

end Book

/-! ## Calls -/

theorem eq_of_readsAs_wallet {stored wallet : Wallet} (storable : stored.Storable)
    (read : ReadsAs stored wallet) : wallet = stored :=
  Except.ok.inj (read.symm.trans (ofRow_toRow_wallet storable))

theorem eq_of_readsAs_product {stored product : Product} (storable : stored.Storable)
    (read : ReadsAs stored product) : product = stored :=
  Except.ok.inj (read.symm.trans (ofRow_toRow_product storable))

theorem storable_increase {wallet : Wallet} (h : wallet.Storable) (amount : Cents) {moment : Moment}
    (plain : moment.Plain) : (wallet.increase amount moment.now).Storable where
  moved _ moved := Option.some.inj moved ▸ plain.now
  created := h.created

theorem storable_decrease {wallet : Wallet} (h : wallet.Storable) (amount : Cents) {moment : Moment}
    (plain : moment.Plain) : (wallet.decrease amount moment.now).Storable where
  moved _ moved := Option.some.inj moved ▸ plain.now
  created := h.created

/-- A call at a time that can be stored writes such times only. -/
theorem storable_of_granted {moment : Moment} {book : Book} {call : Call} {answer : Answer}
    {writes : List Write} (plain : moment.Plain) (legible : book.Legible)
    (granted : Granted moment book call answer writes) : ∀ write ∈ writes, write.Storable := by
  -- A record that was read keeps the times that were stored; new ones come from the clock.
  cases granted with
  | createWallet named opened =>
      subst opened
      exact List.forall_mem_singleton.2 ⟨by simp [Wallet.opened], plain.now⟩
  | renameWallet named member read =>
      have storable := legible.wallets _ member
      rw [eq_of_readsAs_wallet storable read]
      exact List.forall_mem_singleton.2 ⟨storable.moved, storable.created⟩
  | deleteWallet member read => exact List.forall_mem_singleton.2 trivial
  | createProduct named priced =>
      exact List.forall_mem_singleton.2 ⟨plain.now, plain.now⟩
  | updateProduct named priced member read =>
      have storable := legible.products _ member
      rw [eq_of_readsAs_product storable read]
      exact List.forall_mem_singleton.2 ⟨storable.created, plain.now⟩
  | deleteProduct member => exact List.forall_mem_singleton.2 trivial
  | credit positive member read room made =>
      have storable := legible.wallets _ member
      subst made
      rw [eq_of_readsAs_wallet storable read]
      exact List.forall_mem_cons.2 ⟨⟨plain.now⟩,
        List.forall_mem_singleton.2 (storable_increase storable _ plain)⟩
  | transfer positive different senderMember senderRead receiverMember receiverRead funds room
      madeSent madeReceived =>
      have sender := legible.wallets _ senderMember
      have receiver := legible.wallets _ receiverMember
      subst madeSent madeReceived
      rw [eq_of_readsAs_wallet sender senderRead, eq_of_readsAs_wallet receiver receiverRead]
      exact List.forall_mem_cons.2 ⟨⟨plain.now⟩,
        List.forall_mem_cons.2 ⟨storable_decrease sender _ plain,
          List.forall_mem_cons.2 ⟨⟨plain.now⟩,
            List.forall_mem_singleton.2 (storable_increase receiver _ plain)⟩⟩⟩
  | purchase positive walletMember walletRead productMember productRead supplied priced worth funds
      made =>
      have wallet := legible.wallets _ walletMember
      have product := legible.products _ productMember
      subst made
      rw [eq_of_readsAs_wallet wallet walletRead, eq_of_readsAs_product product productRead]
      exact List.forall_mem_cons.2 ⟨⟨product.created, plain.now⟩,
        List.forall_mem_cons.2 ⟨storable_decrease wallet _ plain,
          List.forall_mem_singleton.2 ⟨plain.now⟩⟩⟩

end Purse.Service
