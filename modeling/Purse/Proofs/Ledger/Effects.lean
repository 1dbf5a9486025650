/-
  Purse.Proofs.Ledger.Effects

  What a call makes of the wallets and products that it finds.  They are carried over in their
  order (`Carried`), without the one that the call removes, and the one that it opens or lists
  stands behind them.  A wallet that stays is as it was, or has the name that its owner gave it, or
  had money moved on it (`Wallet.Becomes`); a product is as it was, or was replaced, or was sold
  (`Product.Becomes`).  `exists_carried` says so of every call on a state that calls lead to,
  whether it succeeds or not.
-/
import Purse.Proofs.Ledger.AppendOnly
import Purse.Proofs.Ledger.Stock
import Purse.Proofs.Service.Admitted

namespace Purse

/-! ## Records that are carried over -/

namespace Store

variable {α ρ : Type} [Table ρ] [Record α ρ] {becomes : α → α → Prop} {arrives : α → Prop}
  {gone : Ident → Bool} {before after : List α}

/-- True when the second list has, for the records of the first one that are not gone, what they
    become, in their order, and behind them those that arrive, under other identifiers. -/
def Carried (becomes : α → α → Prop) (arrives : α → Prop) (gone : Ident → Bool)
    (before after : List α) : Prop :=
  ∃ (left : α → α) (new : List α),
    after = (before.filter fun a => !gone (Record.ident a)).map left ++ new ∧
    (∀ a ∈ before, becomes a (left a)) ∧
    ∀ b ∈ new, arrives b ∧ ∀ a ∈ before, Record.ident a ≠ Record.ident b

theorem carried_same (same : ∀ a, becomes a a) (none : ∀ id, gone id = false) (as : List α) :
    Carried becomes arrives gone as as := by
  refine ⟨id, [], ?_, fun a _ => same a, List.forall_mem_nil _⟩
  simp [none]

theorem carried_append (same : ∀ a, becomes a a) (none : ∀ id, gone id = false) {as : List α}
    {a : α} (arrived : arrives a) (new : ∀ b ∈ as, Record.ident b ≠ Record.ident a) :
    Carried becomes arrives gone as (as ++ [a]) := by
  refine ⟨id, [a], ?_, fun a _ => same a, List.forall_mem_singleton.2 ⟨arrived, new⟩⟩
  simp [none]

theorem carried_filter (same : ∀ a, becomes a a) {target : Ident}
    (one : ∀ id, gone id = decide (id = target)) (as : List α) :
    Carried becomes arrives gone as (as.filter (Record.ident · ≠ target)) := by
  refine ⟨id, [], ?_, fun a _ => same a, List.forall_mem_nil _⟩
  simp [one]

/-- A record may stand for one that was found, in whatever stands under its identifier by now. -/
theorem Carried.put (h : Carried becomes arrives gone before after) (distinct : Distinct before)
    (ident : ∀ {a b}, becomes a b → Record.ident b = Record.ident a) {stored a : α}
    (member : stored ∈ before) (turned : becomes stored a) :
    Carried becomes arrives gone before (putRecord a after) := by
  obtain ⟨left, new, rfl, become, others⟩ := h
  -- Those that arrived stand under other identifiers.
  have untouched : putRecord a new = new := putRecord_of_absent fun b there same =>
    (others b there).2 stored member ((ident turned).symm.trans same.symm)
  refine ⟨fun b => if Record.ident (left b) = Record.ident a then a else left b, new, ?_,
    fun b there => ?_, others⟩
  · have parts (as : List α) : putRecord a (as ++ new) = putRecord a as ++ putRecord a new :=
      List.map_append
    rw [parts, untouched, putRecord, List.map_map]
    rfl
  · dsimp only
    split
    · next same =>
        -- The record under this identifier is the one that the new one stands for.
        have same : Record.ident b = Record.ident stored :=
          (ident (become b there)).symm.trans (same.trans (ident turned))
        rw [eq_of_ident distinct there member same]
        exact turned
    · exact become b there

theorem Carried.forall_mem (h : Carried becomes arrives gone before after) {p : α → Prop}
    (held : ∀ a ∈ before, p a) (becoming : ∀ {a b}, becomes a b → p a → p b)
    (arriving : ∀ {a}, arrives a → p a) : ∀ a ∈ after, p a := by
  obtain ⟨left, new, rfl, become, others⟩ := h
  refine List.forall_mem_append.2 ⟨List.forall_mem_map.2 fun a kept => ?_,
    fun b there => arriving (others b there).1⟩
  have member := List.mem_of_mem_filter kept
  exact becoming (become a member) (held a member)

theorem Carried.exists_mem (h : Carried becomes arrives gone before after) {a : α}
    (member : a ∈ before) (stays : gone (Record.ident a) = false) : ∃ b ∈ after, becomes a b := by
  obtain ⟨left, new, rfl, become, -⟩ := h
  have kept : a ∈ before.filter fun a => !gone (Record.ident a) :=
    List.mem_filter.2 ⟨member, by rw [stays]; rfl⟩
  exact ⟨left a, List.mem_append_left _ (List.mem_map_of_mem kept), become a member⟩

/-- Under the identifier of a record stands what it became, and nothing if it is gone. -/
theorem Carried.becomes_of_ident (h : Carried becomes arrives gone before after)
    (distinct : Distinct before)
    (ident : ∀ {a b}, becomes a b → Record.ident b = Record.ident a) {a b : α}
    (member : a ∈ before) (there : b ∈ after) (same : Record.ident b = Record.ident a) :
    gone (Record.ident a) = false ∧ becomes a b := by
  obtain ⟨left, new, rfl, become, others⟩ := h
  rcases List.mem_append.1 there with there | there
  · obtain ⟨c, kept, rfl⟩ := List.mem_map.1 there
    obtain ⟨stored, stays⟩ := List.mem_filter.1 kept
    have found : c = a :=
      eq_of_ident distinct stored member ((ident (become c stored)).symm.trans same)
    subst found
    exact ⟨by simpa using stays, become c stored⟩
  · exact absurd same.symm ((others b there).2 a member)

end Store

open Service Store Text

/-! ## Wallets and products -/

/-- What a call can make of a wallet: leave it as it is, give it the name that its owner asks for,
    or move money on it. -/
inductive Wallet.Becomes (event : Event) (wallet : Wallet) : Wallet → Prop
  | same : Becomes event wallet wallet
  | renamed {name : String} {answer : Answer} (named : trimmed name ≠ "")
      (call : event.call = .renameWallet wallet.ownerId wallet.id name)
      (ok : event.result = .ok answer) : Becomes event wallet { wallet with name := trimmed name }
  | moved {balance : Cents} (moves : wallet.id ∈ event.entryWallets) :
      Becomes event wallet { wallet with balance, lastMovedAt := some event.moment.now }

/-- What a call can make of a product: leave it as it is, replace it, or sell units of it. -/
inductive Product.Becomes (event : Event) (product : Product) : Product → Prop
  | same : Becomes event product product
  | replaced {draft : ProductDraft} {answer : Answer} (named : trimmed draft.name ≠ "")
      (call : event.call = .updateProduct product.id draft) (ok : event.result = .ok answer) :
      Becomes event product (replaced product (trimmed draft.name) draft event.moment.clock)
  | sold {request : PurchaseRequest} {answer : Answer} (call : event.call = .purchase request)
      (bought : request.productId = product.id) (ok : event.result = .ok answer) :
      Becomes event product (product.take request.quantity event.moment.clock)

/-- A wallet that a call opens. -/
inductive Wallet.Arrives (event : Event) : Wallet → Prop
  | opened {ownerId : Ident} {name : String} (named : trimmed name ≠ "")
      (call : event.call = .createWallet ownerId name) :
      Arrives event
        (Wallet.opened (event.moment.ids 0) (trimmed name) ownerId event.moment.clock)

/-- A product that a call lists. -/
inductive Product.Arrives (event : Event) : Product → Prop
  | listed {draft : ProductDraft} (named : trimmed draft.name ≠ "")
      (call : event.call = .createProduct draft) :
      Arrives event (listedProduct event.moment draft)

theorem Wallet.Becomes.ident {event : Event} {a b : Wallet} (h : a.Becomes event b) :
    Record.ident b = Record.ident a := by
  cases h <;> rfl

theorem Product.Becomes.ident {event : Event} {a b : Product} (h : a.Becomes event b) :
    Record.ident b = Record.ident a := by
  cases h <;> rfl

namespace Service

/-! ## Calls -/

/-- The wallets of a book, as a call carries them over into another one. -/
def WalletsCarried (event : Event) (before after : Book) : Prop :=
  Carried (Wallet.Becomes event) (Wallet.Arrives event) (fun id => event.removesWallet id.text)
    before.wallets after.wallets

/-- The products of a book, as a call carries them over into another one. -/
def ProductsCarried (event : Event) (before after : Book) : Prop :=
  Carried (Product.Becomes event) (Product.Arrives event) (fun id => event.removesProduct id.text)
    before.products after.products

variable {book : Book} {event : Event}

theorem walletsCarried_same (none : ∀ key, event.removesWallet key = false) (book : Book) :
    WalletsCarried event book book :=
  carried_same (fun _ => .same) (fun id => none id.text) book.wallets

theorem productsCarried_same (none : ∀ key, event.removesProduct key = false) (book : Book) :
    ProductsCarried event book book :=
  carried_same (fun _ => .same) (fun id => none id.text) book.products

/-- A call that removes no wallet and writes none leaves them as they are. -/
theorem walletsCarried_of_eq {after : Book} (none : ∀ key, event.removesWallet key = false)
    (same : after.wallets = book.wallets) : WalletsCarried event book after := by
  rw [WalletsCarried, same]
  exact walletsCarried_same none book

theorem productsCarried_of_eq {after : Book} (none : ∀ key, event.removesProduct key = false)
    (same : after.products = book.products) : ProductsCarried event book after := by
  rw [ProductsCarried, same]
  exact productsCarried_same none book

/-- Money is moved on a wallet that was found. -/
theorem WalletsCarried.moved {after : Book} (h : WalletsCarried event book after)
    (sound : book.Sound) {stored : Wallet} (member : stored ∈ book.wallets)
    (moves : stored.id ∈ event.entryWallets) (balance : Cents) :
    WalletsCarried event book
      (after.apply (.updateWallet
        { stored with balance, lastMovedAt := some event.moment.now })) :=
  h.put sound.wallets Wallet.Becomes.ident member (.moved moves)

theorem walletsCarried_of_granted (sound : book.Sound) (legible : book.Legible) {answer : Answer}
    {writes : List Write} (ok : event.result = .ok answer)
    (granted : Granted event.moment book event.call answer writes)
    (admitted : book.AdmitsAll writes) : WalletsCarried event book (book.applyAll writes) := by
  obtain ⟨before, call, moment⟩ := event
  -- A wallet that was read is the stored one.
  have read {stored wallet : Wallet} (member : stored ∈ book.wallets)
      (readsAs : ReadsAs stored wallet) : wallet = stored :=
    eq_of_readsAs_wallet (legible.wallets stored member) readsAs
  cases granted with
  | createWallet named opened =>
      subst opened
      exact carried_append (fun _ => .same) (fun _ => rfl)
        (.opened (mt trimmed_eq_empty.1 named) rfl) fun w member => (admitted.1.2 w member).1
  | @renameWallet stored wallet name named member readsAs =>
      obtain rfl := read member readsAs
      exact (walletsCarried_same (fun _ => rfl) book).put sound.wallets Wallet.Becomes.ident member
        (.renamed (mt trimmed_eq_empty.1 named) rfl ok)
  | @deleteWallet stored wallet member readsAs =>
      have present : book.wallets.any (·.id = stored.id) = true :=
        List.any_eq_true.2 ⟨stored, member, decide_eq_true rfl⟩
      rw [WalletsCarried, Book.applyAll, List.foldl_cons, List.foldl_nil, Book.apply,
        if_pos present]
      refine carried_filter (fun _ => .same) (fun id => ?_) _
      simp [Event.removesWallet, ok, eq_comm]
  | createProduct named priced => exact walletsCarried_of_eq (fun _ => rfl) rfl
  | updateProduct named priced member readsAs => exact walletsCarried_of_eq (fun _ => rfl) rfl
  | @deleteProduct stored member =>
      refine walletsCarried_of_eq (fun _ => rfl) ?_
      rw [Book.applyAll, List.foldl_cons, List.foldl_nil, Book.apply]
      split <;> rfl
  | @credit stored wallet amount entry positive member readsAs room made =>
      obtain rfl := read member readsAs
      exact (walletsCarried_same (fun _ => rfl) book).moved sound member
        (by simp [Event.entryWallets, ok]) _
  | @transfer storedSender sender storedReceiver receiver amount sent received positive different
      senderMember senderRead receiverMember receiverRead funds room madeSent madeReceived =>
      obtain rfl := read senderMember senderRead
      obtain rfl := read receiverMember receiverRead
      have start : WalletsCarried ⟨before, .transfer ⟨sender.id, receiver.id, amount⟩, moment⟩
          book book := walletsCarried_same (fun _ => rfl) book
      have paid := start.moved sound senderMember (by simp [Event.entryWallets, ok])
        (sender.balance - amount)
      exact paid.moved sound receiverMember (by simp [Event.entryWallets, ok]) _
  | @purchase storedWallet wallet storedProduct product quantity total entry positive walletMember
      walletRead productMember productRead supplied priced worth funds made =>
      obtain rfl := read walletMember walletRead
      exact (walletsCarried_same (fun _ => rfl) book).moved sound walletMember
        (by simp [Event.entryWallets, ok]) _

theorem productsCarried_of_granted (sound : book.Sound) (legible : book.Legible) {answer : Answer}
    {writes : List Write} (ok : event.result = .ok answer)
    (granted : Granted event.moment book event.call answer writes)
    (admitted : book.AdmitsAll writes) : ProductsCarried event book (book.applyAll writes) := by
  obtain ⟨before, call, moment⟩ := event
  have read {stored product : Product} (member : stored ∈ book.products)
      (readsAs : ReadsAs stored product) : product = stored :=
    eq_of_readsAs_product (legible.products stored member) readsAs
  cases granted with
  | createWallet named opened => exact productsCarried_of_eq (fun _ => rfl) rfl
  | renameWallet named member readsAs => exact productsCarried_of_eq (fun _ => rfl) rfl
  | deleteWallet member readsAs =>
      exact productsCarried_of_eq (fun _ => rfl) Book.products_deleteWallet
  | createProduct named priced =>
      exact carried_append (fun _ => .same) (fun _ => rfl)
        (.listed (mt trimmed_eq_empty.1 named) rfl) fun p member => (admitted.1.2 p member).1
  | @updateProduct stored product draft named priced member readsAs =>
      obtain rfl := read member readsAs
      exact (productsCarried_same (fun _ => rfl) book).put sound.products Product.Becomes.ident
        member (.replaced (mt trimmed_eq_empty.1 named) rfl ok)
  | @deleteProduct stored member =>
      have present : book.products.any (·.id = stored.id) = true :=
        List.any_eq_true.2 ⟨stored, member, decide_eq_true rfl⟩
      rw [ProductsCarried, Book.applyAll, List.foldl_cons, List.foldl_nil, Book.apply,
        if_pos present]
      refine carried_filter (fun _ => .same) (fun id => ?_) _
      simp [Event.removesProduct, ok, eq_comm]
  | credit positive member readsAs room made => exact productsCarried_of_eq (fun _ => rfl) rfl
  | transfer positive different senderMember senderRead receiverMember receiverRead funds room
      madeSent madeReceived => exact productsCarried_of_eq (fun _ => rfl) rfl
  | @purchase storedWallet wallet storedProduct product quantity total entry positive walletMember
      walletRead productMember productRead supplied priced worth funds made =>
      obtain rfl := read productMember productRead
      exact (productsCarried_same (fun _ => rfl) book).put sound.products Product.Becomes.ident
        productMember (.sold rfl rfl ok)

/-! ## Reachable states -/

/-- Every call on a state that calls lead to carries over the wallets and the products. -/
theorem exists_carried {db : Database} (reachable : Reachable db) (call : Call) (moment : Moment) :
    ∃ before after : Book, before.KeptIn db ∧ before.WellKept ∧
      after.KeptIn (runCall call moment db).database ∧
      WalletsCarried ⟨db, call, moment⟩ before after ∧
      ProductsCarried ⟨db, call, moment⟩ before after := by
  obtain ⟨book, kept, well⟩ := exists_wellKept reachable
  let event : Event := ⟨db, call, moment⟩
  cases hr : (runCall call moment db).result with
  | error e =>
      have failed : event.result = .error e := hr
      rw [database_runCall_of_error hr]
      exact ⟨book, book, kept, well, kept,
        walletsCarried_same (Event.removesWallet_of_error failed) book,
        productsCarried_same (Event.removesProduct_of_error failed) book⟩
  | ok answer =>
      obtain ⟨writes, granted, admitted, keptAfter⟩ := granted_of_ok kept hr
      exact ⟨book, _, kept, well, keptAfter,
        walletsCarried_of_granted well.sound well.legible hr granted admitted,
        productsCarried_of_granted well.sound well.legible hr granted admitted⟩

/-! ## Rows -/

section

variable {db : Database}

theorem exists_wallet_of_row (kept : book.KeptIn db) {row : WalletRow} (stored : row ∈ db.wallets) :
    ∃ wallet ∈ book.wallets, Record.toRow wallet = row :=
  List.mem_map.1 (kept.wallets ▸ stored)

theorem exists_product_of_row (kept : book.KeptIn db) {row : ProductRow}
    (stored : row ∈ db.products) : ∃ product ∈ book.products, Record.toRow product = row :=
  List.mem_map.1 (kept.products ▸ stored)

/-- A stored wallet that a call does not remove stands under its identifier afterwards. -/
theorem exists_walletRow_left (reachable : Reachable db) (call : Call) (moment : Moment)
    {row : WalletRow} (stored : row ∈ db.wallets)
    (stays : Event.removesWallet ⟨db, call, moment⟩ row.id = false) :
    ∃ left ∈ (runCall call moment db).database.wallets, left.id = row.id := by
  obtain ⟨before, after, kept, -, keptAfter, wallets, -⟩ := exists_carried reachable call moment
  obtain ⟨wallet, member, rfl⟩ := exists_wallet_of_row kept stored
  obtain ⟨left, there, became⟩ := wallets.exists_mem member stays
  refine ⟨Record.toRow left, ?_, congrArg Ident.text became.ident⟩
  rw [keptAfter.wallets]
  exact List.mem_map_of_mem there

/-- What stands under the identifier of a stored wallet after a call is what became of it. -/
theorem becomes_of_walletRow (reachable : Reachable db) (call : Call) (moment : Moment)
    {row left : WalletRow} (stored : row ∈ db.wallets)
    (there : left ∈ (runCall call moment db).database.wallets) (same : left.id = row.id) :
    Event.removesWallet ⟨db, call, moment⟩ row.id = false ∧
      ∃ wallet became : Wallet, Record.toRow wallet = row ∧ Record.toRow became = left ∧
        wallet.Becomes ⟨db, call, moment⟩ became := by
  obtain ⟨before, after, kept, well, keptAfter, wallets, -⟩ := exists_carried reachable call moment
  obtain ⟨wallet, member, rfl⟩ := exists_wallet_of_row kept stored
  obtain ⟨became, thereToo, rfl⟩ := exists_wallet_of_row keptAfter there
  obtain ⟨stays, becomes⟩ := wallets.becomes_of_ident well.sound.wallets Wallet.Becomes.ident
    member thereToo (Ident.text_inj.1 same)
  exact ⟨stays, wallet, became, rfl, rfl, becomes⟩

theorem becomes_of_productRow (reachable : Reachable db) (call : Call) (moment : Moment)
    {row left : ProductRow} (stored : row ∈ db.products)
    (there : left ∈ (runCall call moment db).database.products) (same : left.id = row.id) :
    ∃ product became : Product, Record.toRow product = row ∧ Record.toRow became = left ∧
      product.Becomes ⟨db, call, moment⟩ became := by
  obtain ⟨before, after, kept, well, keptAfter, -, products⟩ := exists_carried reachable call moment
  obtain ⟨product, member, rfl⟩ := exists_product_of_row kept stored
  obtain ⟨became, thereToo, rfl⟩ := exists_product_of_row keptAfter there
  obtain ⟨-, becomes⟩ := products.becomes_of_ident well.sound.products Product.Becomes.ident
    member thereToo (Ident.text_inj.1 same)
  exact ⟨product, became, rfl, rfl, becomes⟩

end

/-! ## A day at the market -/

/-- A day on which the clock is set back between any two calls that move money: two wallets are
    opened, one of them is credited, buys one of two products and sends something to the other
    wallet, and the product is removed. -/
def marketDay : List (Call × Moment) :=
  let moment (second : Int) (first : Nat) : Moment := ⟨⟨second, 0⟩, fun n => .ofBits (first + n)⟩
  [(.createWallet default "Main", moment 0 2), (.createWallet default " Spare ", moment 10 4),
    (.createProduct ⟨"Coffee", none, 150, 3⟩, moment 20 6),
    (.createProduct ⟨"Tea ", some " green ", 120, 5⟩, moment 25 16),
    (.credit ⟨.ofBits 2, 500⟩, moment 90 8),
    (.purchase ⟨.ofBits 2, .ofBits 6, 2⟩, moment 60 10),
    (.transfer ⟨.ofBits 2, .ofBits 4, 50⟩, moment 30 12),
    (.deleteProduct (.ofBits 6), moment 95 14)]

/-- What is stored when the day is over. -/
def marketRows : Database where
  wallets := [
    Record.toRow (⟨.ofBits 2, "Main", default, 150, some ⟨30, 0⟩, ⟨0, 0⟩⟩ : Wallet),
    Record.toRow (⟨.ofBits 4, "Spare", default, 50, some ⟨30, 0⟩, ⟨10, 0⟩⟩ : Wallet)]
  products := [
    Record.toRow (⟨.ofBits 16, "Tea", some "green", 120, 5, true, ⟨25, 0⟩, ⟨25, 0⟩⟩ : Product)]
  entries := [
    Record.toRow (incomeEntry (.ofBits 8) (.ofBits 2) 500 ⟨90, 0⟩),
    Record.toRow (released (.ofBits 6)
      (expenseEntry (.ofBits 10) (.ofBits 2) (.ofBits 6) "Coffee" 2 300 ⟨60, 0⟩)),
    Record.toRow (sentEntry (.ofBits 12) (.ofBits 2) (.ofBits 4) "Spare" 50 ⟨30, 0⟩),
    Record.toRow (receivedEntry (.ofBits 13) (.ofBits 4) (.ofBits 2) "Main" 50 ⟨30, 0⟩)]
  groups := []
  links := []

theorem runCalls_marketDay : runCalls marketDay Database.fresh = marketRows := by decide +kernel

theorem reachable_marketRows : Reachable marketRows := by
  have clocks : ∀ c ∈ marketDay, c.2.clock.WellFormed ∧ c.2.clock.InPlainYear := by
    simp only [marketDay, List.forall_mem_cons]
    refine ⟨⟨Or.inl (by decide), by decide, by decide⟩, ⟨Or.inl (by decide), by decide, by decide⟩,
      ⟨Or.inl (by decide), by decide, by decide⟩, ⟨Or.inl (by decide), by decide, by decide⟩,
      ⟨Or.inl (by decide), by decide, by decide⟩, ⟨Or.inl (by decide), by decide, by decide⟩,
      ⟨Or.inl (by decide), by decide, by decide⟩, ⟨Or.inl (by decide), by decide, by decide⟩, ?_⟩
    exact List.forall_mem_nil _
  exact ⟨marketDay, ⟨clocks, by decide +kernel⟩, runCalls_marketDay⟩

end Service

end Purse
