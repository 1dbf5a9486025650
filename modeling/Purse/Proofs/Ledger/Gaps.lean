/-
  Purse.Proofs.Ledger.Gaps

  Balances beside the sums of entries.  What a wallet holds beyond the sum of its entries is its
  gap; every write that took effect changes gaps in a way of its own, and the writes of one
  call close again what they opened (`balanced_of_granted`).
-/
import Mathlib.Algebra.BigOperators.Group.List.Basic
import Purse.Audit
import Purse.Proofs.Ledger.Sound
import Purse.Proofs.Service.Granted

namespace Purse

/-! ## Sums by key -/

/-- The sum of what the members with a key hold. -/
def sumAt (key : α → Ident) (value : α → Int) (id : Ident) (as : List α) : Int :=
  (as.map fun a => if key a = id then value a else 0).sum

section

variable {key : α → Ident} {value : α → Int} {id : Ident}

theorem sumAt_cons (a : α) (as : List α) :
    sumAt key value id (a :: as) = (if key a = id then value a else 0) + sumAt key value id as := by
  rw [sumAt, List.map_cons, List.sum_cons, sumAt]

theorem sumAt_append (as bs : List α) :
    sumAt key value id (as ++ bs) = sumAt key value id as + sumAt key value id bs := by
  rw [sumAt, List.map_append, List.sum_append, sumAt, sumAt]

/-- Where no member has the key, there is nothing to add up. -/
theorem sumAt_eq_zero {as : List α} (absent : ∀ a ∈ as, key a ≠ id) :
    sumAt key value id as = 0 := by
  rw [sumAt, List.map_congr_left fun a member => if_neg (absent a member)]
  simp

/-- A sum does not depend on the order of the members. -/
theorem sumAt_perm {as bs : List α} (h : as.Perm bs) :
    sumAt key value id as = sumAt key value id bs :=
  (h.map _).sum_eq

theorem sumAt_filter_ne (gone : Ident) (as : List α) :
    sumAt key value id (as.filter (key · ≠ gone)) =
      if gone = id then 0 else sumAt key value id as := by
  induction as with
  | nil => simp [sumAt]
  | cons a as ih =>
      by_cases hgone : key a = gone
      · rw [List.filter_cons_of_neg (by simpa using hgone), ih, sumAt_cons, hgone]
        split
        · rfl
        · rw [Int.zero_add]
      · rw [List.filter_cons_of_pos (by simpa using hgone), sumAt_cons, ih, sumAt_cons]
        by_cases same : gone = id
        · rw [if_pos same, if_pos same, if_neg (same ▸ hgone)]
          rfl
        · rw [if_neg same, if_neg same]

end

theorem walletSum_eq_sumAt (id : Ident) (entries : List Entry) :
    walletSum id entries = sumAt Entry.walletId Entry.signedAmount id entries := by
  induction entries with
  | nil => rfl
  | cons e entries ih => rw [walletSum_cons, sumAt_cons, ih]

theorem walletSum_append (id : Ident) (entries later : List Entry) :
    walletSum id (entries ++ later) = walletSum id entries + walletSum id later := by
  rw [walletSum_eq_sumAt, sumAt_append, ← walletSum_eq_sumAt, ← walletSum_eq_sumAt]

/-- One more entry counts for its own wallet only. -/
theorem walletSum_concat (id : Ident) (entries : List Entry) (entry : Entry) :
    walletSum id (entries ++ [entry]) =
      walletSum id entries + if entry.walletId = id then entry.signedAmount else 0 := by
  rw [walletSum_append, walletSum_cons, walletSum_nil, Int.add_zero]

namespace Service

open Store

theorem walletSum_released (id product : Ident) (entries : List Entry) :
    walletSum id (entries.map (released product)) = walletSum id entries := by
  induction entries with
  | nil => rfl
  | cons e entries ih =>
      rw [List.map_cons, walletSum_cons, walletSum_cons, ih, walletId_released,
        signedAmount_released]

namespace Book

/-! ## Gaps -/

/-- The balance that the book has under an identifier, zero when there is none. -/
def balanceOf (book : Book) (id : Ident) : Int := sumAt Wallet.id Wallet.balance id book.wallets

/-- What the balance under an identifier is beyond the sum of its entries. -/
def gap (book : Book) (id : Ident) : Int := book.balanceOf id - walletSum id book.entries

/-- True when every balance is the sum of its entries. -/
def Balanced (book : Book) : Prop := ∀ id, book.gap id = 0

theorem balanced_blank : blank.Balanced := fun _ => rfl

variable {book : Book}

theorem balanceOf_of_mem (distinct : Distinct book.wallets) {wallet : Wallet}
    (member : wallet ∈ book.wallets) : book.balanceOf wallet.id = wallet.balance := by
  -- The other wallets hold nothing under the identifier, so taking this one away leaves zero.
  have rest : sumAt Wallet.id Wallet.balance wallet.id (book.wallets.filter (·.id ≠ wallet.id)) =
      0 := by rw [sumAt_filter_ne, if_pos rfl]
  have removed := sum_filter_ne (fun w => if w.id = wallet.id then w.balance else 0) distinct member
  rw [if_pos rfl] at removed
  exact Int.sub_eq_zero.1 (removed.symm.trans rest)

theorem balance_eq_walletSum (h : book.Balanced) (distinct : Distinct book.wallets)
    {wallet : Wallet} (member : wallet ∈ book.wallets) :
    wallet.balance = walletSum wallet.id book.entries := by
  have closed := h wallet.id
  rw [gap, balanceOf_of_mem distinct member] at closed
  exact Int.eq_of_sub_eq_zero closed

theorem gap_createWallet (book : Book) {wallet : Wallet} (empty : wallet.balance = 0) (id : Ident) :
    (book.apply (.createWallet wallet)).gap id = book.gap id := by
  have nothing : sumAt Wallet.id Wallet.balance id [wallet] = 0 := by
    simp [sumAt, empty]
  simp only [gap, balanceOf, apply, sumAt_append, nothing, Int.add_zero]

/-- Replacing a wallet changes its gap by what its balance changes. -/
theorem gap_updateWallet (book : Book) (wallet : Wallet) (distinct : Distinct book.wallets)
    {stored : Wallet} (member : stored ∈ book.wallets) (same : stored.id = wallet.id) (id : Ident) :
    (book.apply (.updateWallet wallet)).gap id =
      book.gap id + if stored.id = id then wallet.balance - stored.balance else 0 := by
  have changed := sum_putRecord (fun w => if w.id = id then w.balance else 0) distinct member same
  simp only [gap, balanceOf, apply, sumAt, changed, same]
  split <;> omega

/-- A new entry changes the gap of its wallet by its amount. -/
theorem gap_createEntry (book : Book) (entry : Entry) (id : Ident) :
    (book.apply (.createEntry entry)).gap id =
      book.gap id - if entry.walletId = id then entry.signedAmount else 0 := by
  have balances : (book.apply (.createEntry entry)).balanceOf id = book.balanceOf id := rfl
  rw [gap, gap, balances, apply, walletSum_concat]
  omega

/-- No gap is left where a wallet went, and no other one changes. -/
theorem gap_deleteWallet (h : book.Balanced) (id gone : Ident) :
    (book.apply (.deleteWallet gone)).gap id = 0 := by
  rw [apply]
  split
  · have whole := h id
    simp only [gap, balanceOf, withoutWallet, walletSum_eq_sumAt] at whole ⊢
    rw [sumAt_filter_ne, sumAt_filter_ne]
    split
    · rfl
    · exact whole
  · exact h id

theorem gap_deleteProduct (book : Book) (id gone : Ident) :
    (book.apply (.deleteProduct gone)).gap id = book.gap id := by
  rw [apply]
  split
  · simp only [gap, balanceOf, withoutProduct, walletSum_released]
  · rfl

end Book

/-! ## Calls -/

variable {moment : Moment} {book : Book}

/-- A call that passes its checks closes the gaps that its writes open. -/
theorem balanced_of_granted {call : Call} {answer : Answer} {writes : List Write}
    (sound : book.Sound) (balanced : book.Balanced)
    (granted : Granted moment book call answer writes) : (book.applyAll writes).Balanced := by
  intro id
  have closed := balanced id
  cases granted with
  | createWallet named opened =>
      subst opened
      exact (book.gap_createWallet rfl id).trans closed
  | @renameWallet stored wallet name named member read =>
      obtain ⟨same, balance⟩ := read.wallet
      have renamed := book.gap_updateWallet { wallet with name := Text.trimmed name } sound.wallets
        member same.symm id
      refine renamed.trans ?_
      rw [closed, balance, Int.sub_self, ite_self]
      rfl
  | deleteWallet member read => exact Book.gap_deleteWallet balanced id _
  | createProduct named priced => exact closed
  | updateProduct named priced member read => exact closed
  | deleteProduct member => exact (book.gap_deleteProduct id _).trans closed
  | @credit stored wallet amount entry positive member read room made =>
      -- The entry opens a gap of the amount, and the balance closes it.
      obtain ⟨same, balance⟩ := read.wallet
      have entered := book.gap_createEntry entry id
      have paid := (book.apply (.createEntry entry)).gap_updateWallet
        (wallet.increase amount moment.now) sound.wallets member same.symm id
      refine paid.trans ?_
      rw [entered, closed, made]
      simp only [incomeEntry, Entry.signedAmount, Wallet.balance_increase, balance, same]
      split <;> omega
  | @transfer storedSender sender storedReceiver receiver amount sent received positive different
      senderMember senderRead receiverMember receiverRead funds room madeSent madeReceived =>
      obtain ⟨sameSender, senderBalance⟩ := senderRead.wallet
      obtain ⟨sameReceiver, receiverBalance⟩ := receiverRead.wallet
      let left := sender.decrease amount moment.now
      let sentOnly := (book.apply (.createEntry sent)).apply (.updateWallet left)
      -- The sender's wallet was replaced, and the receiver's still stands as it was.
      have distinct : Distinct sentOnly.wallets := distinct_putRecord left sound.wallets
      have there : storedReceiver ∈ sentOnly.wallets :=
        mem_putRecord_of_ne receiverMember (sameSender.trans_ne different).symm
      have entered := book.gap_createEntry sent id
      have paid := (book.apply (.createEntry sent)).gap_updateWallet left sound.wallets senderMember
        sameSender.symm id
      have enteredToo := sentOnly.gap_createEntry received id
      have paidToo := (sentOnly.apply (.createEntry received)).gap_updateWallet
        (receiver.increase amount moment.now) distinct there sameReceiver.symm id
      refine paidToo.trans ?_
      rw [enteredToo, paid, entered, closed, madeSent, madeReceived]
      simp only [sentEntry, receivedEntry, Entry.signedAmount, Wallet.balance_increase, left,
        Wallet.balance_decrease, senderBalance, receiverBalance, sameSender, sameReceiver]
      split <;> split <;> omega
  | @purchase storedWallet wallet storedProduct product quantity total entry positive walletMember
      walletRead productMember productRead supplied priced worth funds made =>
      obtain ⟨same, balance⟩ := walletRead.wallet
      -- The product has no part in any gap.
      let taken := book.apply (.updateProduct (product.take quantity moment.clock))
      let left := wallet.decrease total moment.now
      have paid := taken.gap_updateWallet left sound.wallets walletMember same.symm id
      have entered := (taken.apply (.updateWallet left)).gap_createEntry entry id
      have closedStill : taken.gap id = 0 := closed
      refine entered.trans ?_
      rw [paid, closedStill, made]
      simp only [expenseEntry, Entry.signedAmount, left, Wallet.balance_decrease, balance, same]
      split <;> omega

end Service

end Purse
