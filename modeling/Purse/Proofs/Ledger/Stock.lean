/-
  Purse.Proofs.Ledger.Stock

  Stock is never oversold or lost.  What a product holds is what it was last set to, less what
  was sold of it since (`SetBy`); the flag follows the quantity and the price is the one last
  set.  `stock_of_run` says so of every run.
-/
import Purse.Proofs.Ledger.History

namespace Purse.Service

open Store

/-! ## What a call does to a product -/

namespace Event

/-- What a product was set to by a call that listed or replaced it. -/
def sets? (event : Event) (id : Ident) : Option ProductDraft :=
  match event.call, event.result with
  | .createProduct draft, .ok (.product product) => if product.id = id then some draft else none
  | .updateProduct target draft, .ok _ => if target = id then some draft else none
  | _, _ => none

/-- The units of a product that a purchase took. -/
def sold (event : Event) (id : Ident) : Nat :=
  match event.call, event.result with
  | .purchase request, .ok _ => if request.productId = id then request.quantity.toNat else 0
  | _, _ => 0

theorem sets?_of_error {event : Event} {error : ServiceError} (failed : event.result = .error error)
    (id : Ident) : event.sets? id = none := by
  simp [sets?, failed]

theorem sold_of_error {event : Event} {error : ServiceError} (failed : event.result = .error error)
    (id : Ident) : event.sold id = 0 := by
  simp [sold, failed]

end Event

/-- True for a product that holds what it was last set to, less what was sold since, at the price
    that was last set. -/
def SetBy (events : List Event) (product : Product) : Prop :=
  ∃ earlier event later draft, events = earlier ++ event :: later ∧
    event.sets? product.id = some draft ∧ (∀ e ∈ later, e.sets? product.id = none) ∧
    product.quantity.toNat + (later.map (·.sold product.id)).sum = draft.quantity.toNat ∧
    product.price = draft.price

theorem setBy_of_set {events : List Event} {event : Event} {product : Product}
    {draft : ProductDraft} (set : event.sets? product.id = some draft)
    (quantity : product.quantity = draft.quantity)
    (price : product.price = draft.price) : SetBy (events ++ [event]) product := by
  refine ⟨events, event, [], draft, rfl, set, by simp, ?_, price⟩
  rw [quantity]
  rfl

/-- A call that does not set a product leaves it less what it sells of it. -/
theorem SetBy.later {events : List Event} {event : Event} {product left : Product}
    (h : SetBy events product) (same : left.id = product.id) (price : left.price = product.price)
    (unset : event.sets? product.id = none)
    (quantity : left.quantity.toNat + event.sold product.id = product.quantity.toNat) :
    SetBy (events ++ [event]) left := by
  obtain ⟨earlier, first, later, draft, rfl, set, unsetLater, total, priced⟩ := h
  refine ⟨earlier, first, later ++ [event], draft, by simp, same ▸ set, ?_, ?_, price.trans priced⟩
  · rw [same]
    exact List.forall_mem_append.2 ⟨unsetLater, List.forall_mem_singleton.2 unset⟩
  · rw [same, List.map_append, List.sum_append, List.map_cons, List.map_nil, List.sum_cons,
      List.sum_nil]
    omega

/-- A call that neither sets a product nor sells any of it leaves it as it is. -/
theorem SetBy.idle {events : List Event} {event : Event} {product : Product}
    (h : SetBy events product) (unset : event.sets? product.id = none)
    (unsold : event.sold product.id = 0) : SetBy (events ++ [event]) product :=
  h.later rfl rfl unset (by rw [unsold, Nat.add_zero])

namespace Book

variable {book : Book} {id : Ident}

theorem products_deleteWallet : (book.apply (.deleteWallet id)).products = book.products := by
  rw [apply]
  split <;> rfl

theorem mem_products_of_deleteProduct {product : Product}
    (h : product ∈ (book.apply (.deleteProduct id)).products) : product ∈ book.products := by
  rw [apply] at h
  split at h
  · exact List.mem_of_mem_filter h
  · exact h

end Book

/-! ## Calls -/

theorem le_of_canSupply {product : Product} {quantity : Quantity}
    (h : product.canSupply quantity = true) : quantity ≤ product.quantity := by
  simp only [Product.canSupply, Bool.and_eq_true, decide_eq_true_eq] at h
  exact h.2

/-- A purchase takes what it sells, and no more than there is. -/
theorem toNat_take_add {product : Product} {quantity : Quantity}
    (h : product.canSupply quantity = true) (now : Instant) :
    (product.take quantity now).quantity.toNat + quantity.toNat = product.quantity.toNat := by
  have enough := le_of_canSupply h
  have left : (product.take quantity now).quantity.toNat =
      product.quantity.toNat - quantity.toNat := Product.toNat_remaining enough
  have := UInt32.le_iff_toNat_le.1 enough
  omega

/-- Calls that succeed keep every product at what it was last set to, less what was sold since. -/
theorem setBy_of_granted {book : Book} {events : List Event} {event : Event} {answer : Answer}
    {writes : List Write} (ok : event.result = .ok answer)
    (granted : Granted event.moment book event.call answer writes)
    (admitted : book.AdmitsAll writes) (held : ∀ p ∈ book.products, SetBy events p) :
    ∀ p ∈ (book.applyAll writes).products, SetBy (events ++ [event]) p := by
  obtain ⟨before, call, moment⟩ := event
  intro p member
  -- Only three calls say anything about a product; after the other ones it stands as before.
  cases granted with
  | createWallet named opened =>
      exact (held p member).idle (by simp [Event.sets?]) (by simp [Event.sold])
  | renameWallet named stored read =>
      exact (held p member).idle (by simp [Event.sets?]) (by simp [Event.sold])
  | deleteWallet stored read =>
      rw [Book.applyAll, List.foldl_cons, List.foldl_nil, Book.products_deleteWallet] at member
      exact (held p member).idle (by simp [Event.sets?]) (by simp [Event.sold])
  | createProduct named priced =>
      obtain ⟨⟨-, new⟩, -⟩ := admitted
      rcases List.mem_append.1 member with member | member
      · have other := (new p member).1
        exact (held p member).idle (by simp [Event.sets?, ok, other.symm]) (by simp [Event.sold])
      · rw [List.mem_singleton.1 member]
        exact setBy_of_set (by simp [Event.sets?, ok]) rfl rfl
  | @updateProduct stored product draft named priced storedMember read =>
      have same : product.id = stored.id := read.product.1
      rcases mem_of_mem_putRecord member with ⟨member, other⟩ | ⟨rfl, -⟩
      · have other : stored.id ≠ p.id := fun this => other (this.symm.trans same.symm)
        exact (held p member).idle (by simp [Event.sets?, ok, other]) (by simp [Event.sold])
      · exact setBy_of_set (by simp [Event.sets?, ok, replaced, Product.restock, same]) rfl rfl
  | @deleteProduct stored storedMember =>
      have member := Book.mem_products_of_deleteProduct member
      exact (held p member).idle (by simp [Event.sets?]) (by simp [Event.sold])
  | credit positive stored read room made =>
      exact (held p member).idle (by simp [Event.sets?]) (by simp [Event.sold])
  | transfer positive different senderMember senderRead receiverMember receiverRead funds room
      madeSent madeReceived =>
      exact (held p member).idle (by simp [Event.sets?]) (by simp [Event.sold])
  | @purchase storedWallet wallet storedProduct product quantity total entry positive walletMember
      walletRead productMember productRead supplied priced worth funds made =>
      obtain ⟨same, price, stock⟩ := productRead.product
      rcases mem_of_mem_putRecord member with ⟨member, other⟩ | ⟨rfl, -⟩
      · have other : storedProduct.id ≠ p.id := fun this => other (this.symm.trans same.symm)
        exact (held p member).idle (by simp [Event.sets?]) (by simp [Event.sold, ok, other])
      -- The product that was sold holds what was sold less than the stored one.
      · refine (held storedProduct productMember).later same price (by simp [Event.sets?]) ?_
        rw [← stock, ← toNat_take_add supplied moment.clock]
        simp [Event.sold, ok]

/-! ## Runs -/

/-- After every run of calls, a stored product holds what it was last set to, less what was sold
    of it since; it is available when it holds anything, and costs what was last set. -/
theorem stock_of_run (calls : List (Call × Moment)) :
    ∃ products : List Product,
      (runCalls calls Database.fresh).products = products.map Record.toRow ∧
      ∀ product ∈ products, SetBy (history calls Database.fresh) product ∧
        product.available = decide (0 < product.quantity) ∧ 0 < product.price := by
  obtain ⟨book, kept, sound, held⟩ := exists_book_of_run
    (fun events book => ∀ p ∈ book.products, SetBy events p) (fun _ => True)
    (fun p member => by cases member)
    (fun failed held p member =>
      (held p member).idle (Event.sets?_of_error failed p.id) (Event.sold_of_error failed p.id))
    (fun _ _ _ ok granted admitted held => setBy_of_granted ok granted admitted held)
    (fun c (_ : c ∈ calls) => trivial)
  refine ⟨book.products, kept.products, fun product member => ?_⟩
  obtain ⟨priced, consistent⟩ := sound.stocks product member
  exact ⟨held product member, eq_of_beq consistent, priced⟩

end Purse.Service
