/-
  Purse.Proofs.Service.Admitted

  Writes that the constraints admit.  A book is well kept when it is sound, can be read back, has
  no name twice and no balance beyond 64 bits; every book that orderly calls lead to is
  (`exists_wellKept`).  On such a book, whatever its balances, a call that passes its checks asks
  for writes that the constraints admit one after the other (`admitsAll_of_granted`), and writes
  that are admitted take effect (`exists_runWrites`).
-/
import Purse.Proofs.Ledger.Names
import Purse.Proofs.Service.Rejection

namespace Purse.Service

open Store Text

/-! ## Balances of 64 bits -/

/-- True for a write of a balance that is not too large. -/
def Write.Bounded : Write → Prop
  | .createWallet wallet | .updateWallet wallet => wallet.balance ≤ Cents.largest
  | _ => True

namespace Book

/-- True when no balance is too large. -/
def Bounded (book : Book) : Prop := ∀ w ∈ book.wallets, w.balance ≤ Cents.largest

variable {book : Book}

theorem bounded_apply (h : book.Bounded) {write : Write} (bounded : write.Bounded) :
    (book.apply write).Bounded := by
  cases write with
  | createWallet wallet =>
      exact List.forall_mem_append.2 ⟨h, List.forall_mem_singleton.2 bounded⟩
  | updateWallet wallet =>
      intro w member
      rcases mem_of_mem_putRecord member with ⟨member, -⟩ | ⟨rfl, -⟩
      · exact h w member
      · exact bounded
  | createProduct product => exact h
  | updateProduct product => exact h
  | createEntry entry => exact h
  | deleteWallet id =>
      rw [apply]
      split
      · exact fun w member => h w (List.mem_of_mem_filter member)
      · exact h
  | deleteProduct id =>
      rw [apply]
      split
      · exact h
      · exact h

theorem bounded_applyAll (h : book.Bounded) {writes : List Write}
    (bounded : ∀ write ∈ writes, write.Bounded) : (book.applyAll writes).Bounded := by
  induction writes generalizing book with
  | nil => exact h
  | cons write writes ih =>
      obtain ⟨first, rest⟩ := List.forall_mem_cons.1 bounded
      exact ih (bounded_apply h first) rest

end Book

theorem fits_of_hasRoomFor {wallet : Wallet} {amount : Cents}
    (room : wallet.hasRoomFor amount = true) :
    Cents.smallest ≤ wallet.balance + amount ∧ wallet.balance + amount ≤ Cents.largest := by
  obtain ⟨sum, added⟩ := Option.isSome_iff_exists.1 room
  obtain ⟨fits, -⟩ := Cents.checked?_eq_some.1 added
  exact Cents.fits_iff.1 fits

/-- What is left of a balance that covers an amount is a balance again. -/
theorem le_balance_decrease {wallet : Wallet} {amount : Cents} (positive : 0 < amount)
    (funds : wallet.canAfford amount = true) :
    0 ≤ wallet.balance - amount ∧ wallet.balance - amount ≤ wallet.balance := by
  have covered : amount ≤ wallet.balance := of_decide_eq_true funds
  exact ⟨Int.sub_nonneg_of_le covered, Int.sub_le_self _ (Int.le_of_lt positive)⟩

/-- The total of a purchase is positive and can be stored. -/
theorem total_of_totalFor? {product : Product} {quantity : Quantity} {total : Cents}
    (priced : product.totalFor? quantity = some total) :
    product.price * quantity.toNat = total ∧ Cents.fits total = true := by
  obtain ⟨fits, rfl⟩ := Cents.checked?_eq_some.1 priced
  exact ⟨rfl, fits⟩

/-- Calls that pass their checks write no balance that is too large. -/
theorem bounded_of_granted {moment : Moment} {book : Book} {call : Call} {answer : Answer}
    {writes : List Write} (bounded : book.Bounded)
    (granted : Granted moment book call answer writes) : ∀ write ∈ writes, write.Bounded := by
  have stored {wallet read : Wallet} (member : wallet ∈ book.wallets)
      (readsAs : ReadsAs wallet read) : read.balance ≤ Cents.largest :=
    readsAs.wallet.2 ▸ bounded wallet member
  cases granted with
  | createWallet named opened =>
      subst opened
      exact List.forall_mem_singleton.2 (by decide : (0 : Cents) ≤ Cents.largest)
  | renameWallet named member read =>
      have balance := stored member read
      exact List.forall_mem_singleton.2 balance
  | deleteWallet member read => exact List.forall_mem_singleton.2 trivial
  | createProduct named priced => exact List.forall_mem_singleton.2 trivial
  | updateProduct named priced member read => exact List.forall_mem_singleton.2 trivial
  | deleteProduct member => exact List.forall_mem_singleton.2 trivial
  | credit positive member read room made =>
      exact List.forall_mem_cons.2 ⟨trivial,
        List.forall_mem_singleton.2 (fits_of_hasRoomFor room).2⟩
  | transfer positive different senderMember senderRead receiverMember receiverRead funds room
      madeSent madeReceived =>
      have left := (le_balance_decrease positive funds).2.trans (stored senderMember senderRead)
      exact List.forall_mem_cons.2 ⟨trivial, List.forall_mem_cons.2 ⟨left,
        List.forall_mem_cons.2 ⟨trivial, List.forall_mem_singleton.2 (fits_of_hasRoomFor room).2⟩⟩⟩
  | purchase positive walletMember walletRead productMember productRead supplied priced worth funds
      made =>
      have left := (le_balance_decrease worth funds).2.trans (stored walletMember walletRead)
      exact List.forall_mem_cons.2 ⟨trivial, List.forall_mem_cons.2 ⟨left,
        List.forall_mem_singleton.2 trivial⟩⟩

/-! ## Well kept books -/

/-- What orderly calls keep true of a book. -/
structure Book.WellKept (book : Book) : Prop where
  sound : book.Sound
  legible : book.Legible
  named : book.Named
  bounded : book.Bounded

/-- What is stored in a state that calls lead to is a well kept book. -/
theorem exists_wellKept {db : Database} (reachable : Reachable db) :
    ∃ book : Book, book.KeptIn db ∧ book.WellKept := by
  obtain ⟨calls, orderly, rfl⟩ := reachable
  obtain ⟨book, kept, sound, legible, named, bounded⟩ := exists_book_of_run
    (fun _ book => book.Legible ∧ book.Named ∧ book.Bounded) Moment.Plain
    ⟨Book.legible_blank, Book.named_blank, List.forall_mem_nil _⟩
    (fun _ held => held)
    (fun plain _ _ _ granted admitted ⟨legible, named, bounded⟩ =>
      ⟨Book.legible_applyAll legible (storable_of_granted plain legible granted),
        Book.named_applyAll named admitted,
        Book.bounded_applyAll bounded (bounded_of_granted bounded granted)⟩)
    orderly.clocks
  exact ⟨book, kept, sound, legible, named, bounded⟩

/-! ## Records that are found -/

variable {book : Book} {db : Database}

/-- A wallet of a well kept book is the one that its identifier means. -/
theorem requireWallet_of_mem (kept : book.KeptIn db) (well : book.WellKept) {wallet : Wallet}
    (member : wallet ∈ book.wallets) : requireWallet wallet.id db = .ok wallet :=
  getWallet_of_readsAs kept well.sound member (well.legible.walletRecords wallet member)

theorem requireWallet_of_absent (kept : book.KeptIn db) {id : Ident}
    (absent : ∀ wallet ∈ book.wallets, wallet.id ≠ id) :
    requireWallet id db = .error (.walletNotFound id) := by
  rw [requireWallet, findById_of_absent kept.walletRows absent]
  rfl

/-- A product of a well kept book is the one that its identifier means. -/
theorem requireProduct_of_mem (kept : book.KeptIn db) (well : book.WellKept) {product : Product}
    (member : product ∈ book.products) : requireProduct product.id db = .ok product :=
  getProduct_of_readsAs kept well.sound member (well.legible.productRecords product member)

/-! ## Writes that are admitted -/

theorem admissible_entry_iff {entry : Entry} :
    Table.admissible (Record.toRow entry) = true ↔ 0 < entry.amount := by
  refine ⟨admissible_entry, fun positive => ?_⟩
  have kind : ["income", "expense", "transfer"].contains entry.kind.word = true := by
    cases entry.kind <;> decide
  have direction : ["in", "out"].contains entry.direction.word = true := by
    cases entry.direction <;> decide
  simp only [Table.admissible, Record.toRow, kind, direction, isAbove_integer, positive,
    decide_true, Bool.and_self]

/-- A write that is admitted takes effect. -/
theorem exists_run (kept : book.KeptIn db) {write : Write} (admitted : book.Admits write) :
    ∃ after, write.run db = .ok after := by
  cases write with
  | createWallet wallet =>
      obtain ⟨after, done⟩ := exists_create kept.walletRows (admissible_wallet.2 admitted.1)
        (fun w member =>
          ⟨(admitted.2 w member).1, clashes_wallet.2 (admitted.2 w member).2⟩) rfl
      exact ⟨after, settle_eq_ok.2 ⟨_, done⟩⟩
  | updateWallet wallet =>
      obtain ⟨changed, after, done⟩ := exists_update kept.walletRows fun present =>
        ⟨admissible_wallet.2 (admitted present).1,
          fun w member other => clashes_wallet.2 ((admitted present).2 w member other), rfl⟩
      exact ⟨after, settle_eq_ok.2 ⟨_, done⟩⟩
  | createProduct product =>
      obtain ⟨after, done⟩ := exists_create kept.productRows (admissible_product.2 admitted.1)
        (fun p member =>
          ⟨(admitted.2 p member).1, clashes_product.2 (admitted.2 p member).2⟩) rfl
      exact ⟨after, settle_eq_ok.2 ⟨_, done⟩⟩
  | updateProduct product =>
      obtain ⟨changed, after, done⟩ := exists_update kept.productRows fun present =>
        ⟨admissible_product.2 (admitted present).1,
          fun p member other => clashes_product.2 ((admitted present).2 p member other), rfl⟩
      exact ⟨after, settle_eq_ok.2 ⟨_, done⟩⟩
  | createEntry entry =>
      obtain ⟨positive, new, refers⟩ := admitted
      obtain ⟨after, done⟩ := exists_create kept.entryRows (admissible_entry_iff.2 positive)
        (fun e member => ⟨new e member, rfl⟩) ((resolves_entry kept).2 refers)
      exact ⟨after, settle_eq_ok.2 ⟨_, done⟩⟩
  | deleteWallet id => exact ⟨_, rfl⟩
  | deleteProduct id => exact ⟨_, rfl⟩

/-- Writes that are admitted one after the other all take effect. -/
theorem exists_runWrites (kept : book.KeptIn db) {writes : List Write}
    (admitted : book.AdmitsAll writes) : ∃ after, runWrites writes db = .ok after := by
  induction writes generalizing book db with
  | nil => exact ⟨db, rfl⟩
  | cons write writes ih =>
      obtain ⟨between, done⟩ := exists_run kept admitted.1
      obtain ⟨after, rest⟩ := ih (keptIn_of_run kept done).2 admitted.2
      exact ⟨after, bind_eq_ok.2 ⟨between, done, rest⟩⟩

/-! ## Writes of calls -/

/-- True for a call that gives no name which another record has. -/
def Call.NamesFree (book : Book) : Call → Prop
  | .createWallet ownerId name => ∀ w ∈ book.wallets, w.fullName ≠ (ownerId, trimmed name)
  | .renameWallet ownerId id name =>
      ∀ w ∈ book.wallets, w.id ≠ id → w.fullName ≠ (ownerId, trimmed name)
  | .createProduct draft => ∀ p ∈ book.products, p.name ≠ trimmed draft.name
  | .updateProduct id draft => ∀ p ∈ book.products, p.id ≠ id → p.name ≠ trimmed draft.name
  | _ => True

/-- A wallet with another balance may stand in the place of the one that is stored. -/
theorem admits_updateWallet (named : book.Named) {stored wallet : Wallet}
    (member : stored ∈ book.wallets) (same : wallet.id = stored.id)
    (name : wallet.fullName = stored.fullName) (balance : 0 ≤ wallet.balance) :
    book.Admits (.updateWallet wallet) := by
  refine fun _ => ⟨balance, fun w stands other clash => other ?_⟩
  have title : w.fullName = stored.fullName := (Prod.ext clash.1 clash.2).trans name
  exact (named.wallets w stands stored member title).trans same.symm

/-- A product with another stock may stand in the place of the one that is stored. -/
theorem admits_updateProduct (named : book.Named) {stored product : Product}
    (member : stored ∈ book.products) (same : product.id = stored.id)
    (name : product.name = stored.name) (priced : 0 < product.price)
    (consistent : product.isConsistent = true) : book.Admits (.updateProduct product) := by
  refine fun _ => ⟨⟨priced, consistent⟩, fun p stands other clash => other ?_⟩
  exact (named.products p stands stored member (clash.trans name)).trans same.symm

theorem ident_ne_of_unused {α ρ : Type} [Table ρ] [Record α ρ] [LawfulRecord α] {as : List α}
    {id : Ident} (h : Table.rows db = as.map Record.toRow)
    (unused : ∀ row ∈ Table.rows (ρ := ρ) db, Table.key row ≠ some id.text) :
    ∀ a ∈ as, Record.ident a ≠ id := by
  intro a member same
  exact unused (Record.toRow a) (h ▸ List.mem_map_of_mem member) (key_toRow_eq.2 same)

theorem Unused.entries_ne {id : Ident} (unused : Unused id db) (kept : book.KeptIn db) :
    ∀ e ∈ book.entries, e.id ≠ id :=
  ident_ne_of_unused kept.entryRows fun row member same =>
    unused.entries row member (Option.some.inj same)

theorem Unused.wallets_ne {id : Ident} (unused : Unused id db) (kept : book.KeptIn db) :
    ∀ w ∈ book.wallets, w.id ≠ id :=
  ident_ne_of_unused kept.walletRows fun row member same =>
    unused.wallets row member (Option.some.inj same)

theorem Unused.products_ne {id : Ident} (unused : Unused id db) (kept : book.KeptIn db) :
    ∀ p ∈ book.products, p.id ≠ id :=
  ident_ne_of_unused kept.productRows fun row member same =>
    unused.products row member (Option.some.inj same)

/-! ### Records with new names -/

section

variable {moment : Moment}

theorem admits_opened (kept : book.KeptIn db) (unused : Unused (moment.ids 0) db) {ownerId : Ident}
    {name : String} (free : ∀ w ∈ book.wallets, w.fullName ≠ (ownerId, name)) :
    book.Admits (.createWallet (Wallet.opened (moment.ids 0) name ownerId moment.clock)) := by
  refine ⟨Int.le_refl 0, fun w member => ⟨unused.wallets_ne kept w member, fun clash => ?_⟩⟩
  exact free w member (Prod.ext clash.1 clash.2)

theorem admits_renamed (sound : book.Sound) {stored : Wallet} (member : stored ∈ book.wallets)
    {name : String}
    (free : ∀ w ∈ book.wallets, w.id ≠ stored.id → w.fullName ≠ (stored.ownerId, name)) :
    book.Admits (.updateWallet { stored with name }) := by
  refine fun _ => ⟨sound.balances stored member, fun w stands other clash => ?_⟩
  exact free w stands other (Prod.ext clash.1 clash.2)

theorem admits_listed (kept : book.KeptIn db) (unused : Unused (moment.ids 0) db)
    {draft : ProductDraft} (priced : 0 < draft.price)
    (free : ∀ p ∈ book.products, p.name ≠ trimmed draft.name) :
    book.Admits (.createProduct (listedProduct moment draft)) :=
  have inStep := Product.isConsistent_listed (moment.ids 0) (trimmed draft.name) draft.price
    draft.quantity moment.clock
  ⟨⟨priced, inStep⟩, fun p member => ⟨unused.products_ne kept p member, free p member⟩⟩

theorem admits_replaced {product : Product} {name : String} {draft : ProductDraft}
    (priced : 0 < draft.price) (now : Instant)
    (free : ∀ p ∈ book.products, p.id ≠ product.id → p.name ≠ name) :
    book.Admits (.updateProduct (replaced product name draft now)) :=
  fun _ => ⟨⟨priced, Product.isConsistent_restock ..⟩, free⟩

end

/-- On a book that can be read back and has no name twice the constraints admit all that a call
    writes whose identifiers and names are not in use. -/
theorem admitsAll_of_granted {moment : Moment} {call : Call} {answer : Answer}
    {writes : List Write} (kept : book.KeptIn db) (sound : book.Sound) (legible : book.Legible)
    (named : book.Named) (fresh : moment.Fresh db) (free : call.NamesFree book)
    (granted : Granted moment book call answer writes) : book.AdmitsAll writes := by
  -- A record that was read is the stored one.
  have read {stored wallet : Wallet} (member : stored ∈ book.wallets)
      (readsAs : ReadsAs stored wallet) : wallet = stored :=
    eq_of_readsAs_wallet (legible.wallets stored member) readsAs
  cases granted with
  | createWallet clean opened =>
      subst opened
      exact ⟨admits_opened kept fresh.first free, trivial⟩
  | @renameWallet stored wallet name clean member readsAs =>
      obtain rfl := read member readsAs
      exact ⟨admits_renamed sound member free, trivial⟩
  | deleteWallet member readsAs => exact ⟨trivial, trivial⟩
  | createProduct clean priced => exact ⟨admits_listed kept fresh.first priced free, trivial⟩
  | @updateProduct stored product draft clean priced member readsAs =>
      have same : product.id = stored.id := readsAs.product.1
      exact ⟨admits_replaced priced moment.clock fun p stands other => free p stands (same ▸ other),
        trivial⟩
  | deleteProduct member => exact ⟨trivial, trivial⟩
  | @credit stored wallet amount entry positive member readsAs room made =>
      obtain rfl := read member readsAs
      subst made
      have entered := fresh.first.entries_ne kept
      have balance : 0 ≤ wallet.balance + amount :=
        Int.add_nonneg (sound.balances _ member) (Int.le_of_lt positive)
      exact ⟨⟨positive, entered, ⟨wallet, member, rfl⟩, nofun⟩,
        admits_updateWallet named member rfl rfl balance, trivial⟩
  | @transfer storedSender sender storedReceiver receiver amount sent received positive different
      senderMember senderRead receiverMember receiverRead funds room madeSent madeReceived =>
      obtain rfl := read senderMember senderRead
      obtain rfl := read receiverMember receiverRead
      subst madeSent madeReceived
      have entered := fresh.first.entries_ne kept
      have enteredToo := fresh.second.entries_ne kept
      have left : 0 ≤ sender.balance - amount := (le_balance_decrease positive funds).1
      have gained : 0 ≤ receiver.balance + amount :=
        Int.add_nonneg (sound.balances receiver receiverMember) (Int.le_of_lt positive)
      let paid := sender.decrease amount moment.now
      -- The receiver stands as before when the sender has paid.
      have stands : receiver ∈ putRecord paid book.wallets :=
        mem_putRecord_of_ne receiverMember different.symm
      have pays : book.Admits (.updateWallet paid) :=
        admits_updateWallet named senderMember rfl rfl left
      have between := Book.named_apply named pays
      refine ⟨⟨positive, entered, ⟨sender, senderMember, rfl⟩, nofun⟩, pays,
        ⟨positive, ?_, ⟨receiver, stands, rfl⟩, nofun⟩,
        admits_updateWallet between stands rfl rfl gained, trivial⟩
      exact List.forall_mem_append.2 ⟨enteredToo, List.forall_mem_singleton.2 fresh.distinct⟩
  | @purchase storedWallet wallet storedProduct product quantity total entry positive walletMember
      walletRead productMember productRead supplied priced worth funds made =>
      obtain rfl := read walletMember walletRead
      obtain ⟨sameProduct, -⟩ := productRead.product
      subst made
      have entered := fresh.first.entries_ne kept
      have left : 0 ≤ wallet.balance - total := (le_balance_decrease worth funds).1
      let taken := product.take quantity moment.clock
      let paid := wallet.decrease total moment.now
      have takes : book.Admits (.updateProduct taken) := by
        have storable := legible.products storedProduct productMember
        obtain rfl := eq_of_readsAs_product storable productRead
        exact admits_updateProduct named productMember rfl rfl
          (sound.stocks product productMember).1 (Product.isConsistent_restock ..)
      have between := Book.named_apply named takes
      refine ⟨takes, admits_updateWallet between walletMember rfl rfl left,
        ⟨worth, entered, exists_mem_putRecord paid walletMember, ?_⟩, trivial⟩
      rintro id ⟨⟩
      rw [sameProduct]
      exact exists_mem_putRecord taken productMember

end Purse.Service
