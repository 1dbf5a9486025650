/-
  Purse.Proofs.Ledger.Conservation

  Money is conserved.  It enters the ledger with credits, and leaves it with purchases and with
  wallets that are removed; what each call of a run brought in or took out is read off its
  history.  The stored balances add up to what came in less what went out (`conserved_of_run`).
-/
import Purse.Proofs.Ledger.History

namespace Purse.Service

open Store

/-! ## What a call brought in and took out -/

namespace Event

/-- The amount of a credit that succeeded. -/
def credited (event : Event) : Int :=
  match event.call, event.result with
  | .credit request, .ok _ => request.amount
  | _, _ => 0

/-- What a purchase that succeeded took: the price that the product had then, for each unit. -/
def spent (event : Event) : Int :=
  match event.call, event.result with
  | .purchase request, .ok _ =>
      match getProduct request.productId event.before with
      | .ok product => product.price * request.quantity.toNat
      | .error _ => 0
  | _, _ => 0

/-- The balance that a wallet held when it was removed. -/
def removed (event : Event) : Int :=
  match event.call, event.result with
  | .deleteWallet _ id, .ok _ =>
      match getWallet id event.before with
      | .ok wallet => wallet.balance
      | .error _ => 0
  | _, _ => 0

/-- What a call brought in less what it took out. -/
def net (event : Event) : Int := event.credited - event.spent - event.removed

theorem net_of_error {event : Event} {error : ServiceError} (failed : event.result = .error error) :
    event.net = 0 := by
  simp [net, credited, spent, removed, failed]

end Event

/-- True for a call that moves no money into the ledger or out of it. -/
def Call.isInternal : Call → Bool
  | .credit _ | .purchase _ | .deleteWallet .. => false
  | _ => true

theorem Event.net_of_isInternal {event : Event} (internal : event.call.isInternal = true) :
    event.net = 0 := by
  obtain ⟨before, call, moment⟩ := event
  cases call <;> simp_all [Call.isInternal, net, credited, spent, removed]

/-! ## The money in a book -/

namespace Book

variable {book : Book}

/-- All balances together. -/
def total (book : Book) : Int := (book.wallets.map Wallet.balance).sum

theorem total_createWallet (book : Book) (wallet : Wallet) :
    (book.apply (.createWallet wallet)).total = book.total + wallet.balance := by
  simp [total, apply]

theorem total_updateWallet (book : Book) (wallet : Wallet) (distinct : Distinct book.wallets)
    {stored : Wallet} (member : stored ∈ book.wallets) (same : stored.id = wallet.id) :
    (book.apply (.updateWallet wallet)).total =
      book.total + (wallet.balance - stored.balance) :=
  sum_putRecord Wallet.balance distinct member same

theorem total_deleteWallet (distinct : Distinct book.wallets) {stored : Wallet}
    (member : stored ∈ book.wallets) :
    (book.apply (.deleteWallet stored.id)).total = book.total - stored.balance := by
  have present : book.wallets.any (·.id = stored.id) = true :=
    List.any_eq_true.2 ⟨stored, member, decide_eq_true rfl⟩
  rw [apply, if_pos present]
  exact sum_filter_ne Wallet.balance distinct member

theorem total_deleteProduct (book : Book) (id : Ident) :
    (book.apply (.deleteProduct id)).total = book.total := by
  rw [apply]
  split <;> rfl

end Book

/-! ## Calls -/

theorem eq_price_of_totalFor? {product : Product} {quantity : Quantity} {total : Cents}
    (h : product.totalFor? quantity = some total) : product.price * quantity.toNat = total :=
  (Cents.checked?_eq_some.1 h).2

/-- A call that succeeds changes the money in the book by what it brought in or took out. -/
theorem total_of_granted {book : Book} {event : Event} {answer : Answer} {writes : List Write}
    (kept : book.KeptIn event.before) (sound : book.Sound) (ok : event.result = .ok answer)
    (granted : Granted event.moment book event.call answer writes) :
    (book.applyAll writes).total = book.total + event.net := by
  obtain ⟨before, call, moment⟩ := event
  cases granted with
  | createWallet named opened =>
      rw [Event.net_of_isInternal rfl, opened]
      exact book.total_createWallet _
  | @renameWallet stored wallet name named member read =>
      obtain ⟨same, balance⟩ := read.wallet
      rw [Event.net_of_isInternal rfl]
      refine (book.total_updateWallet { wallet with name := Text.trimmed name } sound.wallets member
        same.symm).trans ?_
      rw [balance, Int.sub_self]
  | @deleteWallet stored wallet member read =>
      have held := getWallet_of_readsAs kept sound member read
      have net : Event.net ⟨before, .deleteWallet stored.ownerId stored.id, moment⟩ =
          -stored.balance := by
        simp [Event.net, Event.credited, Event.spent, Event.removed, ok, held, read.wallet.2]
      rw [net]
      exact Book.total_deleteWallet sound.wallets member
  | createProduct named priced =>
      rw [Event.net_of_isInternal rfl]
      exact (Int.add_zero _).symm
  | updateProduct named priced member read =>
      rw [Event.net_of_isInternal rfl]
      exact (Int.add_zero _).symm
  | deleteProduct member =>
      rw [Event.net_of_isInternal rfl, Int.add_zero]
      exact book.total_deleteProduct _
  | @credit stored wallet amount entry positive member read room made =>
      obtain ⟨same, balance⟩ := read.wallet
      have net : Event.net ⟨before, .credit ⟨stored.id, amount⟩, moment⟩ = amount := by
        simp [Event.net, Event.credited, Event.spent, Event.removed, ok]
      have paid := (book.apply (.createEntry entry)).total_updateWallet
        (wallet.increase amount moment.now) sound.wallets member same.symm
      refine paid.trans ?_
      have untouched : (book.apply (.createEntry entry)).total = book.total := rfl
      rw [untouched, net, Wallet.balance_increase, balance]
      omega
  | @transfer storedSender sender storedReceiver receiver amount sent received positive different
      senderMember senderRead receiverMember receiverRead funds room madeSent madeReceived =>
      obtain ⟨sameSender, senderBalance⟩ := senderRead.wallet
      obtain ⟨sameReceiver, receiverBalance⟩ := receiverRead.wallet
      let left := sender.decrease amount moment.now
      let sentOnly := (book.apply (.createEntry sent)).apply (.updateWallet left)
      -- What the sender loses the receiver gains, as the two wallets are different.
      have distinct : Distinct sentOnly.wallets := distinct_putRecord left sound.wallets
      have there : storedReceiver ∈ sentOnly.wallets :=
        mem_putRecord_of_ne receiverMember (sameSender.trans_ne different).symm
      have paid : sentOnly.total = book.total + (left.balance - storedSender.balance) :=
        (book.apply (.createEntry sent)).total_updateWallet left sound.wallets senderMember
          sameSender.symm
      have paidToo := (sentOnly.apply (.createEntry received)).total_updateWallet
        (receiver.increase amount moment.now) distinct there sameReceiver.symm
      have kept : (sentOnly.apply (.createEntry received)).total = sentOnly.total := rfl
      rw [Event.net_of_isInternal rfl]
      refine paidToo.trans ?_
      rw [kept, paid]
      simp only [left, Wallet.balance_increase, Wallet.balance_decrease, senderBalance,
        receiverBalance]
      omega
  | @purchase storedWallet wallet storedProduct product quantity total entry positive walletMember
      walletRead productMember productRead supplied priced worth funds made =>
      obtain ⟨same, balance⟩ := walletRead.wallet
      -- The price is that of the product as the call found it.
      have held := getProduct_of_readsAs kept sound productMember productRead
      have net : Event.net
          ⟨before, .purchase ⟨storedWallet.id, storedProduct.id, quantity⟩, moment⟩ = -total := by
        simp [Event.net, Event.credited, Event.spent, Event.removed, ok, held,
          eq_price_of_totalFor? priced]
      let taken := book.apply (.updateProduct (product.take quantity moment.clock))
      have paid := taken.total_updateWallet (wallet.decrease total moment.now) sound.wallets
        walletMember same.symm
      refine paid.trans ?_
      have untouched : taken.total = book.total := rfl
      rw [untouched, net, Wallet.balance_decrease, balance]
      omega

/-! ## Runs -/

/-- True when every stored balance is a whole number of cents and all of them add up to a total. -/
def BalancesTotal (db : Database) (total : Int) : Prop :=
  ∃ balances : List Int, db.wallets.map (·.balance) = balances.map Cell.integer ∧
    balances.sum = total

theorem balancesTotal_of_keptIn {book : Book} {db : Database} (kept : book.KeptIn db) :
    BalancesTotal db book.total := by
  refine ⟨book.wallets.map Wallet.balance, ?_, rfl⟩
  rw [kept.wallets, List.map_map, List.map_map]
  rfl

theorem BalancesTotal.unique {db : Database} {total other : Int} (h : BalancesTotal db total)
    (h' : BalancesTotal db other) : total = other := by
  obtain ⟨balances, rows, rfl⟩ := h
  obtain ⟨balances', rows', rfl⟩ := h'
  have injective : Function.Injective Cell.integer := fun a b same => Cell.integer.inj same
  rw [List.map_injective_iff.2 injective (rows.symm.trans rows')]

/-- The balances after a run are what came in and did not go out. -/
theorem balancesTotal_of_run (calls : List (Call × Moment)) :
    BalancesTotal (runCalls calls Database.fresh)
      ((history calls Database.fresh).map Event.net).sum := by
  obtain ⟨book, kept, -, total⟩ := exists_book_of_run
    (fun events book => book.total = (events.map Event.net).sum) (fun _ => True) rfl
    (fun failed held => by simp [held, Event.net_of_error failed])
    (fun _ kept sound ok granted _ held => by simp [total_of_granted kept sound ok granted, held])
    (fun _ _ => trivial)
  rw [← total]
  exact balancesTotal_of_keptIn kept

theorem sum_net (events : List Event) :
    (events.map Event.net).sum = (events.map Event.credited).sum -
      (events.map Event.spent).sum - (events.map Event.removed).sum := by
  induction events with
  | nil => rfl
  | cons event events ih =>
      simp only [List.map_cons, List.sum_cons, ih, Event.net]
      omega

/-- A call that moves no money in or out, or that fails, leaves the total as it is. -/
theorem balancesTotal_runCall {calls : List (Call × Moment)} {call : Call} {moment : Moment}
    {total : Int}
    (idle : call.isInternal = true ∨
      ∃ error, (runCall call moment (runCalls calls Database.fresh)).result = .error error)
    (before : BalancesTotal (runCalls calls Database.fresh) total) :
    BalancesTotal (runCall call moment (runCalls calls Database.fresh)).database total := by
  have nothing : Event.net ⟨runCalls calls Database.fresh, call, moment⟩ = 0 := by
    rcases idle with internal | ⟨error, failed⟩
    · exact Event.net_of_isInternal internal
    · exact Event.net_of_error failed
  -- The call is the last one of a longer run, to whose sum it adds nothing.
  have after := balancesTotal_of_run (calls ++ [(call, moment)])
  simp only [runCalls_append, history_append, runCalls, history, List.map_append, List.sum_append,
    List.map_cons, List.map_nil, List.sum_cons, List.sum_nil, nothing, Int.add_zero] at after
  rw [before.unique (balancesTotal_of_run calls)]
  exact after

/-- After every run of calls, the balances add up to the credits that succeeded, less what the
    purchases that succeeded cost when they were made, less what removed wallets held.  A call
    that moves no money in or out leaves the total as it is, and so does one that fails. -/
theorem conserved_of_run (calls : List (Call × Moment)) :
    let db := runCalls calls Database.fresh
    let events := history calls Database.fresh
    BalancesTotal db ((events.map Event.credited).sum - (events.map Event.spent).sum -
      (events.map Event.removed).sum) ∧
    ∀ (call : Call) (moment : Moment) (total : Int),
      (call.isInternal = true ∨ ∃ error, (runCall call moment db).result = .error error) →
      BalancesTotal db total → BalancesTotal (runCall call moment db).database total := by
  refine ⟨?_, fun call moment total idle before => balancesTotal_runCall idle before⟩
  rw [← sum_net]
  exact balancesTotal_of_run calls

/-- A wallet that is opened and credited brings in the credit, and renaming it changes nothing. -/
theorem conserved_of_first_credit :
    let calls : List (Call × Moment) := [
      (.createWallet default "Main", ⟨⟨0, 0⟩, fun _ => default⟩),
      (.credit ⟨default, 500⟩, ⟨⟨60, 0⟩, fun _ => default⟩)]
    let db := runCalls calls Database.fresh
    BalancesTotal db 500 ∧
      BalancesTotal (runCall (.renameWallet default default "Spare") ⟨⟨90, 0⟩, fun _ => default⟩
        db).database 500 := by
  intro calls db
  have amounts : ((history calls Database.fresh).map Event.credited).sum -
      ((history calls Database.fresh).map Event.spent).sum -
      ((history calls Database.fresh).map Event.removed).sum = 500 := by decide +kernel
  obtain ⟨total, idle⟩ := conserved_of_run calls
  rw [amounts] at total
  exact ⟨total, idle _ _ 500 (Or.inl rfl) total⟩

end Purse.Service
