/-
  Purse.Proofs.Ledger.Reordering

  The order of ledger calls does not matter.  Credits, transfers and purchases leave the names of
  wallets and products and the prices as they are (`Directory`), and on one directory each of them
  records the same entries and takes the same units, whatever stands in the book besides
  (`Follows`).  So what a run of them leaves is what it found, with everything that its calls add
  or take; this is the same for another run of the same calls (`reordered_of_run`).  The balances
  follow from the entries, as they are their sums.
-/
import Purse.Proofs.Ledger.Balance
import Purse.Proofs.Ledger.Conservation
import Purse.Proofs.Ledger.Stock

namespace Purse

/-- What an entry says, its identifier and its time apart. -/
def Entry.content (entry : Entry) : Entry := { entry with id := default, createdAt := default }

namespace Store

section

variable {α ρ β : Type} [Table ρ] [Record α ρ]

/-- What replacing a record does to values that are read off all of them. -/
theorem map_putRecord {f g : α → β} {a : α} {as : List α}
    (same : ∀ b ∈ as, Record.ident b = Record.ident a → f a = g b)
    (other : ∀ b ∈ as, Record.ident b ≠ Record.ident a → f b = g b) :
    (putRecord a as).map f = as.map g := by
  rw [putRecord, List.map_map]
  refine List.map_congr_left fun b member => ?_
  rw [Function.comp_apply]
  split
  · next hb => exact same b member hb
  · next hb => exact other b member hb

/-- A value that is listed under the identifier of a record is that of the record. -/
theorem lookup_of_mem {as : List α} (distinct : Distinct as) (f : α → β) {a : α}
    (member : a ∈ as) :
    (as.map fun b => (Record.ident b, f b)).lookup (Record.ident a) = some (f a) := by
  induction as with
  | nil => cases member
  | cons b as ih =>
      obtain ⟨others, distinct⟩ := distinct_cons.1 distinct
      rw [List.map_cons, List.lookup_cons]
      rcases List.mem_cons.1 member with rfl | member
      · rw [beq_self_eq_true]
      · rw [beq_false_of_ne (others a member), ih distinct member]

end

/-- What a stored entry says, its identifier, its wallet and its time apart. -/
def EntryRow.content (row : EntryRow) :
    String × String × Cell × String × Option String × Option String :=
  (row.kind, row.direction, row.amount, row.description, row.productId, row.counterpartyId)

end Store

namespace Service

open Store

/-! ## What ledger calls leave alone -/

/-- A wallet that is read has the name of the stored one. -/
theorem ReadsAs.name {stored wallet : Wallet} (h : ReadsAs stored wallet) :
    wallet.name = stored.name := by
  obtain ⟨moved, created, rfl⟩ := eq_of_reads_wallet h
  rfl

/-- A product that is read has the name of the stored one. -/
theorem ReadsAs.label {stored product : Product} (h : ReadsAs stored product) :
    product.name = stored.name := by
  obtain ⟨created, updated, rfl⟩ := eq_of_reads_product h
  rfl

/-- The names of the wallets, and the names and the prices of the products, by identifier. -/
structure Directory where
  wallets : List (Ident × String)
  products : List (Ident × String × Cents)

namespace Directory

/-- The name of a wallet. -/
def walletName (directory : Directory) (id : Ident) : String :=
  (directory.wallets.lookup id).getD ""

/-- The name and the price of a product. -/
def product (directory : Directory) (id : Ident) : String × Cents :=
  (directory.products.lookup id).getD ("", 0)

end Directory

namespace Book

/-- The directory of a book. -/
def directory (book : Book) : Directory where
  wallets := book.wallets.map fun w => (w.id, w.name)
  products := book.products.map fun p => (p.id, p.name, p.price)

/-- The stock of each product. -/
def levels (book : Book) : List (Ident × Nat) :=
  book.products.map fun p => (p.id, p.quantity.toNat)

variable {book : Book}

theorem walletName_of_mem (sound : book.Sound) {stored : Wallet} (member : stored ∈ book.wallets) :
    book.directory.walletName stored.id = stored.name := by
  have found : book.directory.wallets.lookup stored.id = some stored.name :=
    lookup_of_mem sound.wallets Wallet.name member
  rw [Directory.walletName, found]
  rfl

theorem product_of_mem (sound : book.Sound) {stored : Product} (member : stored ∈ book.products) :
    book.directory.product stored.id = (stored.name, stored.price) := by
  have found : book.directory.products.lookup stored.id = some (stored.name, stored.price) :=
    lookup_of_mem sound.products (fun p => (p.name, p.price)) member
  rw [Directory.product, found]
  rfl

/-- A wallet under its old name leaves the directory as it is. -/
theorem directory_updateWallet {wallet : Wallet}
    (named : ∀ name, (wallet.id, name) ∈ book.directory.wallets → wallet.name = name) :
    (book.apply (.updateWallet wallet)).directory = book.directory := by
  have names : (putRecord wallet book.wallets).map (fun w => (w.id, w.name)) =
      book.wallets.map fun w => (w.id, w.name) := by
    refine map_putRecord (fun w member same => ?_) fun _ _ _ => rfl
    have same : w.id = wallet.id := same
    have listed : (wallet.id, w.name) ∈ book.directory.wallets :=
      same ▸ List.mem_map_of_mem member
    rw [← same, named w.name listed]
  rw [directory, directory, apply, names]

/-- A wallet that is read has the name that the directory has for it. -/
theorem name_of_mem_directory (sound : book.Sound) {stored wallet : Wallet}
    (member : stored ∈ book.wallets) (read : ReadsAs stored wallet) {name : String}
    (listed : (wallet.id, name) ∈ book.directory.wallets) : wallet.name = name := by
  obtain ⟨moved, created, rfl⟩ := eq_of_reads_wallet read
  obtain ⟨w, there, same⟩ := List.mem_map.1 listed
  obtain ⟨same, named⟩ := Prod.mk.inj same
  rw [← named, eq_of_ident sound.wallets there member same]

section

variable {stored taken : Product}

/-- A product under its old name and price leaves the directory as it is. -/
theorem directory_updateProduct (sound : book.Sound) (member : stored ∈ book.products)
    (ident : taken.id = stored.id) (name : taken.name = stored.name)
    (price : taken.price = stored.price) :
    (book.apply (.updateProduct taken)).directory = book.directory := by
  have products : (putRecord taken book.products).map (fun p => (p.id, p.name, p.price)) =
      book.products.map fun p => (p.id, p.name, p.price) := by
    refine map_putRecord (fun p there same => ?_) fun _ _ _ => rfl
    have same : p = stored := eq_of_ident sound.products there member (same.trans ident)
    rw [same, ident, name, price]
  rw [directory, directory, apply, products]

/-- A product that holds less lowers the stock under its identifier. -/
theorem levels_updateProduct (sound : book.Sound) (member : stored ∈ book.products)
    (ident : taken.id = stored.id) {n : Nat}
    (left : taken.quantity.toNat = stored.quantity.toNat - n) :
    (book.apply (.updateProduct taken)).levels =
      book.levels.map fun level => (level.1, level.2 - if stored.id = level.1 then n else 0) := by
  rw [levels, levels, apply, List.map_map]
  refine map_putRecord (fun p there same => ?_) fun p there other => ?_
  · have same : p = stored := eq_of_ident sound.products there member (same.trans ident)
    rw [same, ident, left, Function.comp_apply, if_pos rfl]
  · have other : stored.id ≠ p.id := fun same => other (same.symm.trans ident.symm)
    rw [Function.comp_apply, if_neg other, Nat.sub_zero]

end

end Book

/-! ## What ledger calls do -/

namespace Call

/-- True for a call that moves money. -/
def isLedger : Call → Bool
  | .credit _ | .transfer _ | .purchase _ => true
  | _ => false

/-- What the entries of a call say. -/
def contents (directory : Directory) : Call → List Entry
  | .credit request => [incomeEntry default request.walletId request.amount default]
  | .transfer request => [
      sentEntry default request.senderId request.receiverId
        (directory.walletName request.receiverId) request.amount default,
      receivedEntry default request.receiverId request.senderId
        (directory.walletName request.senderId) request.amount default]
  | .purchase request =>
      let (name, price) := directory.product request.productId
      [expenseEntry default request.walletId request.productId name request.quantity
        (price * request.quantity.toNat) default]
  | _ => []

/-- The units of a product that a call takes. -/
def takes (id : Ident) : Call → Nat
  | .purchase request => if request.productId = id then request.quantity.toNat else 0
  | _ => 0

end Call

/-- A stock less what calls take of it. -/
def lowered (calls : List Call) (level : Ident × Nat) : Ident × Nat :=
  (level.1, level.2 - (calls.map (Call.takes level.1)).sum)

/-- True of what calls leave of a book: the same directory, the entries that were there with those
    of the calls behind them, and every stock less what the calls take of it. -/
structure Follows (book : Book) (calls : List Call) (after : Book) : Prop where
  directory : after.directory = book.directory
  entries : after.entries.map Entry.content =
    book.entries.map Entry.content ++ calls.flatMap (Call.contents book.directory)
  levels : after.levels = book.levels.map (lowered calls)

namespace Follows

variable {book middle after : Book} {calls later : List Call}

theorem nil (book : Book) : Follows book [] book where
  directory := rfl
  entries := (List.append_nil _).symm
  levels := (List.map_id' _).symm

theorem append (first : Follows book calls middle) (rest : Follows middle later after) :
    Follows book (calls ++ later) after where
  directory := rest.directory.trans first.directory
  entries := by
    rw [rest.entries, first.entries, first.directory, List.flatMap_append, List.append_assoc]
  levels := by
    rw [rest.levels, first.levels, List.map_map]
    refine List.map_congr_left fun level _ => ?_
    rw [Function.comp_apply, lowered, lowered, lowered, List.map_append, List.sum_append,
      Nat.sub_sub]

/-- Calls that take nothing leave all stocks. -/
theorem levels_of_idle {call : Call} (idle : ∀ id, call.takes id = 0)
    (levels : List (Ident × Nat)) : levels = levels.map (lowered [call]) := by
  have same (level : Ident × Nat) : lowered [call] level = level := by
    rw [lowered, List.map_singleton, List.sum_singleton, idle, Nat.sub_zero]
  exact (List.map_id'' same levels).symm

end Follows

variable {moment : Moment} {book : Book}

/-- A call that moves money and passes its checks does what it does on every book with the same
    directory. -/
theorem follows_of_granted {call : Call} {answer : Answer} {writes : List Write}
    (sound : book.Sound) (ledger : call.isLedger = true)
    (granted : Granted moment book call answer writes) :
    Follows book [call] (book.applyAll writes) := by
  cases granted with
  | createWallet | renameWallet | deleteWallet | createProduct | updateProduct | deleteProduct =>
      cases ledger
  | @credit stored wallet amount entry positive member read room made =>
      refine ⟨?_, ?_, Follows.levels_of_idle (fun _ => rfl) _⟩
      · exact (book.apply (.createEntry entry)).directory_updateWallet fun name listed =>
          Book.name_of_mem_directory sound member read listed
      · have added : [entry].map Entry.content =
            [Call.credit ⟨stored.id, amount⟩].flatMap (Call.contents book.directory) := by
          rw [List.flatMap_singleton, Call.contents, made, read.wallet.1]
          rfl
        rw [← added, ← List.map_append]
        rfl
  | @transfer storedSender sender storedReceiver receiver amount sent received positive different
      senderMember senderRead receiverMember receiverRead funds room madeSent madeReceived =>
      let left := sender.decrease amount moment.now
      refine ⟨?_, ?_, Follows.levels_of_idle (fun _ => rfl) _⟩
      -- The receiver is replaced on the directory that replacing the sender left as it was.
      · have first : ((book.apply (.createEntry sent)).apply (.updateWallet left)).directory =
            book.directory :=
          Book.directory_updateWallet fun name listed =>
            Book.name_of_mem_directory sound senderMember senderRead listed
        refine (Book.directory_updateWallet fun name listed => ?_).trans first
        have listed : (receiver.id, name) ∈ book.directory.wallets := first ▸ listed
        exact Book.name_of_mem_directory sound receiverMember receiverRead listed
      · have added : [sent, received].map Entry.content =
            [Call.transfer ⟨storedSender.id, storedReceiver.id, amount⟩].flatMap
              (Call.contents book.directory) := by
          rw [List.flatMap_singleton, Call.contents, Book.walletName_of_mem sound senderMember,
            Book.walletName_of_mem sound receiverMember, madeSent, madeReceived,
            senderRead.wallet.1, receiverRead.wallet.1, senderRead.name, receiverRead.name]
          rfl
        have behind : book.entries ++ [sent] ++ [received] = book.entries ++ [sent, received] :=
          List.append_assoc _ _ _
        rw [← added, ← List.map_append, ← behind]
        rfl
  | @purchase storedWallet wallet storedProduct product quantity total entry positive walletMember
      walletRead productMember productRead supplied priced worth funds made =>
      obtain ⟨ident, price, stock⟩ := productRead.product
      let taken := product.take quantity moment.clock
      have same : taken.id = storedProduct.id := ident
      refine ⟨?_, ?_, ?_⟩
      · have first : (book.apply (.updateProduct taken)).directory = book.directory :=
          Book.directory_updateProduct sound productMember same productRead.label price
        refine (Book.directory_updateWallet fun name listed => ?_).trans first
        exact Book.name_of_mem_directory sound walletMember walletRead listed
      · have cost : storedProduct.price * quantity.toNat = total := by
          rw [← price, eq_price_of_totalFor? priced]
        have added : [entry].map Entry.content =
            [Call.purchase ⟨storedWallet.id, storedProduct.id, quantity⟩].flatMap
              (Call.contents book.directory) := by
          rw [List.flatMap_singleton, Call.contents, Book.product_of_mem sound productMember, made,
            walletRead.wallet.1, ident, productRead.label, ← cost]
          rfl
        rw [← added, ← List.map_append]
        rfl
      · have left : taken.quantity.toNat = storedProduct.quantity.toNat - quantity.toNat := by
          rw [← stock]
          exact Product.toNat_remaining (le_of_canSupply supplied)
        have less := Book.levels_updateProduct sound productMember same left
        refine Eq.trans less (List.map_congr_left fun level _ => ?_)
        rw [lowered, List.map_singleton, List.sum_singleton]
        rfl

/-! ## Runs -/

/-- A run of ledger calls that all succeed leaves what it found with what its calls do. -/
theorem exists_follows {calls : List (Call × Moment)} {db : Database} (kept : book.KeptIn db)
    (sound : book.Sound) (balanced : book.Balanced) (ledger : ∀ c ∈ calls, c.1.isLedger = true)
    (succeed : ∀ event ∈ history calls db, ∃ answer, event.result = .ok answer) :
    ∃ after : Book, after.KeptIn (runCalls calls db) ∧ after.Sound ∧ after.Balanced ∧
      Follows book (calls.map Prod.fst) after := by
  induction calls generalizing book db with
  | nil => exact ⟨book, kept, sound, balanced, .nil book⟩
  | cons c calls ih =>
      obtain ⟨call, moment⟩ := c
      obtain ⟨⟨answer, ok⟩, others⟩ := List.forall_mem_cons.1 succeed
      obtain ⟨moves, movesToo⟩ := List.forall_mem_cons.1 ledger
      obtain ⟨writes, granted, admitted, keptAfter⟩ := granted_of_ok kept ok
      obtain ⟨after, keptLast, soundLast, balancedLast, rest⟩ :=
        ih keptAfter (Book.sound_applyAll sound admitted)
          (balanced_of_granted sound balanced granted) movesToo others
      exact ⟨after, keptLast, soundLast, balancedLast,
        (follows_of_granted sound moves granted).append rest⟩

section

variable {calls calls' : List Call} {after after' : Book}

/-- The same calls in another order record the same entries. -/
theorem Follows.entries_perm (one : Follows book calls after) (other : Follows book calls' after')
    (same : calls.Perm calls') :
    (after.entries.map Entry.content).Perm (after'.entries.map Entry.content) := by
  rw [one.entries, other.entries]
  exact (same.flatMap_right _).append_left _

theorem Follows.levels_eq (one : Follows book calls after) (other : Follows book calls' after')
    (same : calls.Perm calls') : after.levels = after'.levels := by
  rw [one.levels, other.levels]
  refine List.map_congr_left fun level _ => ?_
  rw [lowered, lowered, (same.map _).sum_eq]

end

theorem walletSum_content (id : Ident) (entries : List Entry) :
    walletSum id (entries.map Entry.content) = walletSum id entries := by
  rw [walletSum_eq_sumAt, walletSum_eq_sumAt, sumAt, sumAt, List.map_map]
  rfl

namespace Book

/-- Balances can be told from the directory and the entries. -/
theorem balances_eq (sound : book.Sound) (balanced : book.Balanced) :
    book.wallets.map (fun w => (w.id, w.balance)) = book.directory.wallets.map fun listed =>
      (listed.1, walletSum listed.1 (book.entries.map Entry.content)) := by
  rw [directory, List.map_map]
  refine List.map_congr_left fun w member => ?_
  rw [Function.comp_apply, walletSum_content, balance_eq_walletSum balanced sound.wallets member]

end Book

/-- The entries of a wallet, by what they say. -/
def contentsAt (db : Database) (key : String) :
    List (String × String × Cell × String × Option String × Option String) :=
  (db.entries.filter (·.walletId = key)).map EntryRow.content

theorem contentsAt_of_keptIn {db : Database} (kept : book.KeptIn db) (key : String) :
    contentsAt db key = ((book.entries.map Entry.content).filter fun e => e.walletId.text = key).map
      fun e => (Record.toRow e).content := by
  have told : (fun row : EntryRow => decide (row.walletId = key)) ∘ Record.toRow =
      (fun e : Entry => decide (e.walletId.text = key)) ∘ Entry.content := rfl
  have said : EntryRow.content ∘ Record.toRow =
      (fun e : Entry => (Record.toRow e).content) ∘ Entry.content := by
    simp only [Function.comp_def, Record.toRow, EntryRow.content, Entry.content]
  rw [contentsAt, kept.entries, List.filter_map, List.map_map, List.filter_map, List.map_map, told,
    said]

theorem balances_of_keptIn {db : Database} (kept : book.KeptIn db) :
    db.wallets.map (fun row => (row.id, row.balance)) =
      (book.wallets.map fun w => (w.id, w.balance)).map fun held =>
        (held.1.text, .integer held.2) := by
  rw [kept.wallets, List.map_map, List.map_map]
  rfl

theorem stocks_of_keptIn {db : Database} (kept : book.KeptIn db) (sound : book.Sound) :
    db.products.map (fun row => (row.id, row.quantity, row.available)) =
      book.levels.map fun level =>
        (level.1.text, .integer level.2, .ofBool (decide (0 < level.2))) := by
  rw [kept.products, Book.levels, List.map_map, List.map_map]
  refine List.map_congr_left fun p member => ?_
  have flag : p.available = decide (0 < p.quantity.toNat) :=
    eq_of_beq (sound.stocks p member).2
  rw [Function.comp_apply, Function.comp_apply, ← flag]
  rfl

/-- Two runs of the same ledger calls in different orders, each call in a moment of its own, which
    start from what any run of calls left: if all calls succeed in both, they end with the same
    balances, with the same stocks and flags, and on every wallet with entries that say the same. -/
theorem reordered_of_run (before : List (Call × Moment)) {calls calls' : List (Call × Moment)}
    (same : (calls.map Prod.fst).Perm (calls'.map Prod.fst))
    (ledger : ∀ c ∈ calls, c.1.isLedger = true) :
    let db := runCalls before Database.fresh
    (∀ event ∈ history calls db, ∃ answer, event.result = .ok answer) →
    (∀ event ∈ history calls' db, ∃ answer, event.result = .ok answer) →
    (runCalls calls db).wallets.map (fun row => (row.id, row.balance)) =
      (runCalls calls' db).wallets.map (fun row => (row.id, row.balance)) ∧
    (runCalls calls db).products.map (fun row => (row.id, row.quantity, row.available)) =
      (runCalls calls' db).products.map (fun row => (row.id, row.quantity, row.available)) ∧
    ∀ key, (contentsAt (runCalls calls db) key).Perm (contentsAt (runCalls calls' db) key) := by
  intro db succeed succeed'
  obtain ⟨book, kept, sound, balanced⟩ := exists_book_of_run (fun _ book => book.Balanced)
    (fun _ => True) Book.balanced_blank (fun _ held => held)
    (fun _ _ sound _ granted _ held => balanced_of_granted sound held granted)
    (fun c (_ : c ∈ before) => trivial)
  have ledger' : ∀ c ∈ calls', c.1.isLedger = true := by
    intro c member
    have there : c.1 ∈ calls.map Prod.fst := same.mem_iff.2 (List.mem_map_of_mem member)
    obtain ⟨d, member, same⟩ := List.mem_map.1 there
    exact same ▸ ledger d member
  obtain ⟨after, keptAfter, soundAfter, balancedAfter, one⟩ :=
    exists_follows kept sound balanced ledger succeed
  obtain ⟨after', keptAfter', soundAfter', balancedAfter', other⟩ :=
    exists_follows kept sound balanced ledger' succeed'
  have entries := one.entries_perm other same
  refine ⟨?_, ?_, fun key => ?_⟩
  · -- The balances are the sums of the entries, which do not depend on their order.
    have sums (id : Ident) : walletSum id (after.entries.map Entry.content) =
        walletSum id (after'.entries.map Entry.content) := by
      rw [walletSum_eq_sumAt, walletSum_eq_sumAt, sumAt_perm entries]
    rw [balances_of_keptIn keptAfter, balances_of_keptIn keptAfter',
      Book.balances_eq soundAfter balancedAfter, Book.balances_eq soundAfter' balancedAfter',
      one.directory, other.directory]
    simp only [sums]
  · rw [stocks_of_keptIn keptAfter soundAfter, stocks_of_keptIn keptAfter' soundAfter',
      one.levels_eq other same]
  · rw [contentsAt_of_keptIn keptAfter, contentsAt_of_keptIn keptAfter']
    exact (entries.filter _).map _

/-- Two credits and a purchase, where either credit pays for the purchase. -/
theorem reordered_of_run_three :
    let moment (n : Nat) : Moment := ⟨⟨60 * n, 0⟩, fun i => .ofBits (10 * n + i)⟩
    let before : List (Call × Moment) := [
      (.createWallet default "Main", moment 1), (.createProduct ⟨"Tea", none, 30, 5⟩, moment 2)]
    let first (n : Nat) : Call × Moment := (.credit ⟨.ofBits 10, 500⟩, moment n)
    let second (n : Nat) : Call × Moment := (.credit ⟨.ofBits 10, 70⟩, moment n)
    let buys (n : Nat) : Call × Moment := (.purchase ⟨.ofBits 10, .ofBits 20, 2⟩, moment n)
    let calls := [first 3, second 4, buys 5]
    let calls' := [second 7, buys 6, first 3]
    let db := runCalls before Database.fresh
    (runCalls calls db).wallets.map (fun row => (row.id, row.balance)) =
      (runCalls calls' db).wallets.map (fun row => (row.id, row.balance)) ∧
    (runCalls calls db).products.map (fun row => (row.id, row.quantity, row.available)) =
      (runCalls calls' db).products.map (fun row => (row.id, row.quantity, row.available)) ∧
    ∀ key, (contentsAt (runCalls calls db) key).Perm (contentsAt (runCalls calls' db) key) := by
  intro moment before first second buys calls calls' db
  have checked : ((history calls db).all fun event => event.result.isOk) = true ∧
      ((history calls' db).all fun event => event.result.isOk) = true := by
    decide +kernel
  have ok {events : List Event} (checked : events.all (fun event => event.result.isOk) = true) :
      ∀ event ∈ events, ∃ answer, event.result = .ok answer := by
    intro event member
    have held := List.all_eq_true.1 checked event member
    cases hr : event.result with
    | ok answer => exact ⟨answer, rfl⟩
    | error e =>
        rw [hr] at held
        cases held
  have same : (calls.map Prod.fst).Perm (calls'.map Prod.fst) :=
    (List.Perm.swap _ _ _).trans ((List.Perm.swap _ _ _).cons _)
  have ledger : ∀ c ∈ calls, c.1.isLedger = true := by decide +kernel
  exact reordered_of_run before same ledger (ok checked.1) (ok checked.2)

end Service

end Purse
