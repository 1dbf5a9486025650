/-
  Purse.Proofs.Service.Granted

  What a call that succeeds has found and what it writes.  `Granted` has one case for each
  operation, with the records that were read, the rules that were checked, the answer and
  the writes; `granted_of_ok` says that a call which succeeds on the rows of a book is one of
  these, that the constraints of the tables held for its writes, and that it leaves the
  book on which they took effect.  Everything about runs of calls is proved from it.

  A record is read from a row, so its times may differ from those written (`ReadsAs`).
-/
import Purse.Proofs.Ledger.Book
import Purse.Service.Call

namespace Purse.Service

open Store Text

/-! ## Records that are read -/

/-- True for a record that is read when the row of another one is. -/
def ReadsAs {α ρ : Type} [Table ρ] [Record α ρ] (stored read : α) : Prop :=
  Record.ofRow (Record.toRow stored) = .ok read

theorem readRow_eq_ok {α ρ : Type} [Table ρ] [Record α ρ] {row : ρ} {a : α} :
    readRow row = .ok a ↔ Record.ofRow row = .ok a := by
  unfold readRow
  split <;> simp_all

theorem ofStoreResult_eq_ok {result : Except StoreError α} {a : α} :
    ofStoreResult result = .ok a ↔ result = .ok a := by
  cases result <;> simp [ofStoreResult]

theorem ofLookup_eq_ok {result : Except LookupError α} {a : α} :
    ofLookup result = .ok a ↔ result = .ok a := by
  cases result with
  | ok b => simp [ofLookup]
  | error e => cases e <;> simp [ofLookup]

/-- A record that is found under an identifier is read from the row of one with it. -/
theorem readsAs_of_findById {α ρ : Type} [Table ρ] [Record α ρ] [LawfulRecord α] {as : List α}
    {db : Database} (h : Table.rows db = as.map Record.toRow) {id : Ident} {a : α}
    (found : findById α id db = .ok (some a)) :
    ∃ stored ∈ as, Record.ident stored = id ∧ ReadsAs stored a := by
  unfold findById at found
  split at found
  · simp at found
  · next row hrow =>
      obtain ⟨stored, member, hid, rfl⟩ := find?_eq_some h hrow
      obtain ⟨read, hread, same⟩ := map_eq_ok.1 found
      exact ⟨stored, member, hid, Option.some.inj same ▸ readRow_eq_ok.1 hread⟩

theorem requireWallet_eq_ok {db : Database} {id : Ident} {wallet : Wallet} :
    requireWallet id db = .ok wallet ↔ findById Wallet id db = .ok (some wallet) := by
  simp only [requireWallet, bind_eq_ok, ofStoreResult_eq_ok]
  constructor
  · rintro ⟨found?, found, rest⟩
    cases found? with
    | none => cases rest
    | some w =>
        cases rest
        exact found
  · intro found
    exact ⟨some wallet, found, rfl⟩

theorem readsAs_of_requireWallet {book : Book} {db : Database} (kept : book.KeptIn db) {id : Ident}
    {wallet : Wallet} (found : requireWallet id db = .ok wallet) :
    ∃ stored ∈ book.wallets, stored.id = id ∧ ReadsAs stored wallet :=
  readsAs_of_findById kept.walletRows (requireWallet_eq_ok.1 found)

theorem readsAs_of_requireProduct {book : Book} {db : Database} (kept : book.KeptIn db) {id : Ident}
    {product : Product} (found : requireProduct id db = .ok product) :
    ∃ stored ∈ book.products, stored.id = id ∧ ReadsAs stored product := by
  obtain ⟨product?, found, rest⟩ := bind_eq_ok.1 found
  cases product? with
  | none => cases rest
  | some read =>
      cases rest
      exact readsAs_of_findById kept.productRows (ofStoreResult_eq_ok.1 found)

theorem readsAs_of_requireOwned {book : Book} {db : Database} (kept : book.KeptIn db)
    {ownerId id : Ident} {wallet : Wallet} (found : requireOwned ownerId id db = .ok wallet) :
    ∃ stored ∈ book.wallets, stored.ownerId = ownerId ∧ stored.id = id ∧
      ReadsAs stored wallet := by
  obtain ⟨read, found, rest⟩ := bind_eq_ok.1 found
  split at rest
  · next owned =>
      cases rest
      obtain ⟨stored, member, hid, hread⟩ := readsAs_of_requireWallet kept found
      obtain ⟨_, _, rfl⟩ := eq_of_reads_wallet hread
      exact ⟨stored, member, owned, hid, hread⟩
  · cases rest

theorem require_eq_ok {condition : Bool} {error : ServiceError} {u : Unit} :
    require condition error = .ok u ↔ condition = true := by
  cases condition <;> simp [require]

/-- A wallet that is read has the identifier and the balance of the stored one. -/
theorem ReadsAs.wallet {stored wallet : Wallet} (h : ReadsAs stored wallet) :
    wallet.id = stored.id ∧ wallet.balance = stored.balance := by
  obtain ⟨_, _, rfl⟩ := eq_of_reads_wallet h
  exact ⟨rfl, rfl⟩

/-- A product that is read has the identifier, the price and the stock of the stored one. -/
theorem ReadsAs.product {stored product : Product} (h : ReadsAs stored product) :
    product.id = stored.id ∧ product.price = stored.price ∧ product.quantity = stored.quantity := by
  obtain ⟨_, _, rfl⟩ := eq_of_reads_product h
  exact ⟨rfl, rfl, rfl⟩

/-! ## Entries that are made -/

/-- The entry of a credit. -/
def incomeEntry (id walletId : Ident) (amount : Cents) (now : Instant) : Entry where
  id := id
  kind := .income
  direction := .inward
  amount := amount
  description := "Credit of " ++ Cents.text amount
  walletId := walletId
  productId := none
  counterpartyId := none
  createdAt := now

/-- The sender's entry of a transfer. -/
def sentEntry (id senderId receiverId : Ident) (receiverName : String) (amount : Cents)
    (now : Instant) : Entry where
  id := id
  kind := .transfer
  direction := .outward
  amount := amount
  description := "Transfer to: " ++ receiverName
  walletId := senderId
  productId := none
  counterpartyId := some receiverId
  createdAt := now

/-- The receiver's entry of a transfer. -/
def receivedEntry (id receiverId senderId : Ident) (senderName : String) (amount : Cents)
    (now : Instant) : Entry where
  id := id
  kind := .transfer
  direction := .inward
  amount := amount
  description := "Transfer from: " ++ senderName
  walletId := receiverId
  productId := none
  counterpartyId := some senderId
  createdAt := now

/-- The entry of a purchase. -/
def expenseEntry (id walletId productId : Ident) (productName : String) (quantity : Quantity)
    (total : Cents) (now : Instant) : Entry where
  id := id
  kind := .expense
  direction := .outward
  amount := total
  description := "Buying " ++ productName ++ ", quantity: " ++
    String.ofList (numeral quantity.toNat) ++ " for " ++ Cents.text total
  walletId := walletId
  productId := some productId
  counterpartyId := none
  createdAt := now

theorem requireEntry_positive? {entry made : Entry} :
    requireEntry entry.positive? = .ok made ↔ 0 < entry.amount ∧ entry = made := by
  rw [← Entry.positive?_eq_some]
  cases entry.positive? <;> simp [requireEntry]

/-! ## Calls that succeed -/

/-- The product that a draft lists. -/
def listedProduct (moment : Moment) (draft : ProductDraft) : Product :=
  { Product.listed (moment.ids 0) (trimmed draft.name) draft.price draft.quantity moment.clock with
    description := cleanDescription draft.description }

/-- A call that passes its checks on a book, with its answer and its writes. -/
inductive Granted (moment : Moment) (book : Book) : Call → Answer → List Write → Prop
  | createWallet {ownerId : Ident} {name : String} {wallet : Wallet}
      (named : trim name.toList ≠ [])
      (opened : wallet = Wallet.opened (moment.ids 0) (trimmed name) ownerId moment.clock) :
      Granted moment book (.createWallet ownerId name) (.wallet wallet) [.createWallet wallet]
  | renameWallet {stored wallet : Wallet} {name : String} (named : trim name.toList ≠ [])
      (member : stored ∈ book.wallets) (read : ReadsAs stored wallet) :
      Granted moment book (.renameWallet stored.ownerId stored.id name)
        (.wallet { wallet with name := trimmed name })
        [.updateWallet { wallet with name := trimmed name }]
  | deleteWallet {stored wallet : Wallet} (member : stored ∈ book.wallets)
      (read : ReadsAs stored wallet) :
      Granted moment book (.deleteWallet stored.ownerId stored.id) .done [.deleteWallet stored.id]
  | createProduct {draft : ProductDraft} (named : trim draft.name.toList ≠ [])
      (priced : 0 < draft.price) :
      Granted moment book (.createProduct draft) (.product (listedProduct moment draft))
        [.createProduct (listedProduct moment draft)]
  | updateProduct {stored product : Product} {draft : ProductDraft}
      (named : trim draft.name.toList ≠ []) (priced : 0 < draft.price)
      (member : stored ∈ book.products) (read : ReadsAs stored product) :
      Granted moment book (.updateProduct stored.id draft)
        (.product (replaced product (trimmed draft.name) draft moment.clock))
        [.updateProduct (replaced product (trimmed draft.name) draft moment.clock)]
  | deleteProduct {stored : Product} (member : stored ∈ book.products) :
      Granted moment book (.deleteProduct stored.id) .done [.deleteProduct stored.id]
  | credit {stored wallet : Wallet} {amount : Cents} {entry : Entry} (positive : 0 < amount)
      (member : stored ∈ book.wallets) (read : ReadsAs stored wallet)
      (room : wallet.hasRoomFor amount = true)
      (made : entry = incomeEntry (moment.ids 0) wallet.id amount moment.now) :
      Granted moment book (.credit ⟨stored.id, amount⟩) (.entry entry)
        [.createEntry entry, .updateWallet (wallet.increase amount moment.now)]
  | transfer {storedSender sender storedReceiver receiver : Wallet} {amount : Cents}
      {sent received : Entry} (positive : 0 < amount)
      (different : storedSender.id ≠ storedReceiver.id)
      (senderMember : storedSender ∈ book.wallets) (senderRead : ReadsAs storedSender sender)
      (receiverMember : storedReceiver ∈ book.wallets)
      (receiverRead : ReadsAs storedReceiver receiver)
      (funds : sender.canAfford amount = true) (room : receiver.hasRoomFor amount = true)
      (madeSent : sent =
        sentEntry (moment.ids 0) sender.id receiver.id receiver.name amount moment.now)
      (madeReceived : received =
        receivedEntry (moment.ids 1) receiver.id sender.id sender.name amount moment.now) :
      Granted moment book (.transfer ⟨storedSender.id, storedReceiver.id, amount⟩)
        (.transfer ⟨sent, received⟩)
        [.createEntry sent, .updateWallet (sender.decrease amount moment.now),
          .createEntry received, .updateWallet (receiver.increase amount moment.now)]
  | purchase {storedWallet wallet : Wallet} {storedProduct product : Product}
      {quantity : Quantity} {total : Cents} {entry : Entry} (positive : quantity ≠ 0)
      (walletMember : storedWallet ∈ book.wallets) (walletRead : ReadsAs storedWallet wallet)
      (productMember : storedProduct ∈ book.products)
      (productRead : ReadsAs storedProduct product)
      (supplied : product.canSupply quantity = true)
      (priced : product.totalFor? quantity = some total) (worth : 0 < total)
      (funds : wallet.canAfford total = true)
      (made : entry = expenseEntry (moment.ids 0) wallet.id product.id product.name quantity total
        moment.now) :
      Granted moment book (.purchase ⟨storedWallet.id, storedProduct.id, quantity⟩) (.entry entry)
        [.updateProduct (product.take quantity moment.clock),
          .updateWallet (wallet.decrease total moment.now), .createEntry entry]

variable {moment : Moment} {book : Book} {db : Database}

theorem cleanName_eq_ok {name cleaned : String} :
    cleanName name = .ok cleaned ↔ trim name.toList ≠ [] ∧ trimmed name = cleaned := by
  unfold cleanName
  split <;> simp_all

theorem checkDraft_eq_ok {draft : ProductDraft} {name : String} :
    checkDraft draft = .ok name ↔
      trim draft.name.toList ≠ [] ∧ trimmed draft.name = name ∧ 0 < draft.price := by
  simp only [checkDraft, bind_eq_ok, cleanName_eq_ok]
  constructor
  · rintro ⟨_, ⟨named, rfl⟩, rest⟩
    split at rest
    · next priced => exact ⟨named, Except.ok.inj rest, priced⟩
    · cases rest
  · rintro ⟨named, rfl, priced⟩
    exact ⟨_, ⟨named, rfl⟩, if_pos priced⟩

theorem granted_createWallet {ownerId : Ident} {name : String} {decision : Decision Wallet}
    (decided : decideCreateWallet moment ownerId name db = .ok decision) :
    Granted moment book (.createWallet ownerId name) (.wallet decision.answer)
      decision.writes := by
  simp only [decideCreateWallet, bind_eq_ok, cleanName_eq_ok] at decided
  obtain ⟨_, ⟨named, rfl⟩, found?, -, rest⟩ := decided
  cases found? with
  | some _ => cases rest
  | none =>
      cases rest
      exact .createWallet named rfl

theorem granted_renameWallet (kept : book.KeptIn db) {ownerId id : Ident} {name : String}
    {decision : Decision Wallet} (decided : decideRenameWallet ownerId id name db = .ok decision) :
    Granted moment book (.renameWallet ownerId id name) (.wallet decision.answer)
      decision.writes := by
  simp only [decideRenameWallet, bind_eq_ok, cleanName_eq_ok] at decided
  obtain ⟨_, ⟨named, rfl⟩, wallet, owned, clash, -, rest⟩ := decided
  obtain ⟨stored, member, rfl, rfl, read⟩ := readsAs_of_requireOwned kept owned
  -- The name is free, or it is the name of the wallet itself.
  split at rest
  · cases rest
  · cases rest
    exact .renameWallet named member read

theorem granted_deleteWallet (kept : book.KeptIn db) {ownerId id : Ident}
    {decision : Decision Unit} (decided : decideDeleteWallet ownerId id db = .ok decision) :
    Granted moment book (.deleteWallet ownerId id) .done decision.writes := by
  simp only [decideDeleteWallet, bind_eq_ok] at decided
  obtain ⟨wallet, owned, rest⟩ := decided
  obtain ⟨stored, member, rfl, rfl, read⟩ := readsAs_of_requireOwned kept owned
  cases rest
  exact .deleteWallet member read

theorem granted_createProduct {draft : ProductDraft} {decision : Decision Product}
    (decided : decideCreateProduct moment draft db = .ok decision) :
    Granted moment book (.createProduct draft) (.product decision.answer) decision.writes := by
  simp only [decideCreateProduct, bind_eq_ok, checkDraft_eq_ok] at decided
  obtain ⟨_, ⟨named, rfl, priced⟩, found?, -, rest⟩ := decided
  cases found? with
  | some _ => cases rest
  | none =>
      cases rest
      exact .createProduct named priced

theorem granted_updateProduct (kept : book.KeptIn db) {id : Ident} {draft : ProductDraft}
    {decision : Decision Product}
    (decided : decideUpdateProduct moment id draft db = .ok decision) :
    Granted moment book (.updateProduct id draft) (.product decision.answer)
      decision.writes := by
  simp only [decideUpdateProduct, bind_eq_ok, checkDraft_eq_ok] at decided
  obtain ⟨_, ⟨named, rfl, priced⟩, product, found, clash, -, rest⟩ := decided
  obtain ⟨stored, member, rfl, read⟩ := readsAs_of_requireProduct kept found
  split at rest
  · cases rest
  · cases rest
    exact .updateProduct named priced member read

theorem granted_deleteProduct (kept : book.KeptIn db) {id : Ident} {decision : Decision Unit}
    (decided : decideDeleteProduct id db = .ok decision) :
    Granted moment book (.deleteProduct id) .done decision.writes := by
  unfold decideDeleteProduct at decided
  split at decided
  · next row found =>
      obtain ⟨stored, member, rfl, -⟩ := find?_eq_some kept.productRows found
      cases decided
      exact .deleteProduct member
  · cases decided

theorem granted_credit (kept : book.KeptIn db) {request : CreditRequest} {decision : Decision Entry}
    (decided : decideCredit moment request db = .ok decision) :
    Granted moment book (.credit request) (.entry decision.answer) decision.writes := by
  simp only [decideCredit, bind_eq_ok, require_eq_ok] at decided
  obtain ⟨_, positive, wallet, found, _, room, entry, made, rest⟩ := decided
  obtain ⟨stored, member, hid, read⟩ := readsAs_of_requireWallet kept found
  obtain ⟨-, rfl⟩ := requireEntry_positive?.1 made
  cases rest
  obtain ⟨walletId, amount⟩ := request
  subst hid
  exact .credit (of_decide_eq_true positive) member read room rfl

/-- Both wallets of a transfer are found, in whichever order they are read. -/
theorem transferWallets_eq_ok {request : TransferRequest} {sender receiver : Wallet}
    (found : transferWallets request db = .ok (sender, receiver)) :
    findById Wallet request.senderId db = .ok (some sender) ∧
      findById Wallet request.receiverId db = .ok (some receiver) := by
  unfold transferWallets at found
  -- Both orders of reading end in the same choice, of which only two wallets come out well.
  split at found
  · simp only [bind_eq_ok, pure_eq_ok, exists_eq_left', ofStoreResult_eq_ok] at found
    obtain ⟨sender?, senderFound, receiver?, receiverFound, rest⟩ := found
    cases sender? <;> cases receiver? <;> cases rest
    exact ⟨senderFound, receiverFound⟩
  · simp only [bind_eq_ok, pure_eq_ok, exists_eq_left', ofStoreResult_eq_ok] at found
    obtain ⟨receiver?, receiverFound, sender?, senderFound, rest⟩ := found
    cases sender? <;> cases receiver? <;> cases rest
    exact ⟨senderFound, receiverFound⟩

/-- What a transfer has found when it is decided, and what it decides. -/
theorem decideTransfer_eq_ok {request : TransferRequest} {decision : Decision TransferReceipt}
    (decided : decideTransfer moment request db = .ok decision) :
    ∃ sender receiver, findById Wallet request.senderId db = .ok (some sender) ∧
      findById Wallet request.receiverId db = .ok (some receiver) ∧ 0 < request.amount ∧
      request.senderId ≠ request.receiverId ∧ sender.canAfford request.amount = true ∧
      receiver.hasRoomFor request.amount = true ∧
      let sent := sentEntry (moment.ids 0) sender.id receiver.id receiver.name request.amount
        moment.now
      let received := receivedEntry (moment.ids 1) receiver.id sender.id sender.name request.amount
        moment.now
      decision.writes = [
        .createEntry sent, .updateWallet (sender.decrease request.amount moment.now),
        .createEntry received, .updateWallet (receiver.increase request.amount moment.now)] ∧
      decision.answer = ⟨sent, received⟩ := by
  simp only [decideTransfer, bind_eq_ok, require_eq_ok] at decided
  obtain ⟨_, positive, _, different, ⟨sender, receiver⟩, found, _, funds, _, room, sent, madeSent,
    received, madeReceived, rest⟩ := decided
  obtain ⟨senderFound, receiverFound⟩ := transferWallets_eq_ok found
  obtain ⟨-, rfl⟩ := requireEntry_positive?.1 madeSent
  obtain ⟨-, rfl⟩ := requireEntry_positive?.1 madeReceived
  cases rest
  exact ⟨sender, receiver, senderFound, receiverFound, of_decide_eq_true positive,
    of_decide_eq_true different, funds, room, rfl, rfl⟩

theorem granted_transfer (kept : book.KeptIn db) {request : TransferRequest}
    {decision : Decision TransferReceipt}
    (decided : decideTransfer moment request db = .ok decision) :
    Granted moment book (.transfer request) (.transfer decision.answer) decision.writes := by
  obtain ⟨sender, receiver, senderFound, receiverFound, positive, different, funds, room, writes,
    answer⟩ := decideTransfer_eq_ok decided
  obtain ⟨storedSender, senderMember, hsender, senderRead⟩ :=
    readsAs_of_findById kept.walletRows senderFound
  obtain ⟨storedReceiver, receiverMember, hreceiver, receiverRead⟩ :=
    readsAs_of_findById kept.walletRows receiverFound
  rw [writes, answer]
  obtain ⟨senderId, receiverId, amount⟩ := request
  subst hsender hreceiver
  exact .transfer positive different senderMember senderRead receiverMember receiverRead funds room
    rfl rfl

/-- What a purchase has found when it is decided, and what it decides. -/
theorem decidePurchase_eq_ok {request : PurchaseRequest} {decision : Decision Entry}
    (decided : decidePurchase moment request db = .ok decision) :
    ∃ wallet product total, findById Wallet request.walletId db = .ok (some wallet) ∧
      findById Product request.productId db = .ok (some product) ∧ request.quantity ≠ 0 ∧
      product.canSupply request.quantity = true ∧
      product.totalFor? request.quantity = some total ∧ 0 < total ∧
      wallet.canAfford total = true ∧
      let entry := expenseEntry (moment.ids 0) wallet.id product.id product.name request.quantity
        total moment.now
      decision.writes = [
        .updateProduct (product.take request.quantity moment.clock),
        .updateWallet (wallet.decrease total moment.now), .createEntry entry] ∧
      decision.answer = entry := by
  simp only [decidePurchase, bind_eq_ok, require_eq_ok] at decided
  obtain ⟨_, positive, wallet, walletFound, product?, productFound, rest⟩ := decided
  -- A missing product and a total that is too large both end the call.
  cases product? with
  | none =>
      obtain ⟨_, impossible, -⟩ := bind_eq_ok.1 rest
      cases impossible
  | some product =>
      simp only [pure_bind, bind_eq_ok, require_eq_ok] at rest
      obtain ⟨_, supplied, rest⟩ := rest
      cases priced : product.totalFor? request.quantity with
      | none =>
          rw [priced] at rest
          obtain ⟨_, impossible, -⟩ := bind_eq_ok.1 rest
          cases impossible
      | some total =>
          simp only [priced, bind_eq_ok, require_eq_ok] at rest
          obtain ⟨_, funds, entry, made, rest⟩ := rest
          -- The entry is made for a positive total only, so a purchase always costs something.
          obtain ⟨worth, rfl⟩ := requireEntry_positive?.1 made
          cases rest
          exact ⟨wallet, product, total, requireWallet_eq_ok.1 walletFound,
            ofStoreResult_eq_ok.1 productFound, of_decide_eq_true positive, supplied, priced, worth,
            funds, rfl, rfl⟩

theorem granted_purchase (kept : book.KeptIn db) {request : PurchaseRequest}
    {decision : Decision Entry} (decided : decidePurchase moment request db = .ok decision) :
    Granted moment book (.purchase request) (.entry decision.answer) decision.writes := by
  obtain ⟨wallet, product, total, walletFound, productFound, positive, supplied, priced, worth,
    funds, writes, answer⟩ := decidePurchase_eq_ok decided
  obtain ⟨storedWallet, walletMember, hwallet, walletRead⟩ :=
    readsAs_of_findById kept.walletRows walletFound
  obtain ⟨storedProduct, productMember, hproduct, productRead⟩ :=
    readsAs_of_findById kept.productRows productFound
  rw [writes, answer]
  obtain ⟨walletId, productId, quantity⟩ := request
  subst hwallet hproduct
  exact .purchase positive walletMember walletRead productMember productRead supplied priced worth
    funds rfl

/-! ## Every call -/

/-- A decision that was carried out well has all its writes done. -/
theorem carryOut_eq_ok {decided : Except ServiceError (Decision α)} {db : Database} {answer : α}
    (h : (carryOut decided db).result = .ok answer) :
    ∃ decision, decided = .ok decision ∧ decision.answer = answer ∧
      runWrites decision.writes db = .ok (carryOut decided db).database := by
  cases decided with
  | error e => cases h
  | ok decision =>
      -- A write that failed would have ended in a rejection.
      simp only [carryOut, Decision.carryOut] at h ⊢
      split at h
      · next after done => exact ⟨decision, rfl, Except.ok.inj h, done⟩
      · cases h

/-- A decision that is carried out well on the rows of a book leaves those of the book on which
    its writes took effect. -/
theorem granted_of_carryOut {decided : Except ServiceError (Decision α)} {wrap : α → Answer}
    {call : Call} {answer : Answer} (kept : book.KeptIn db)
    (grant : ∀ decision, decided = .ok decision →
      Granted moment book call (wrap decision.answer) decision.writes)
    (h : ((carryOut decided db).map wrap).result = .ok answer) :
    ∃ writes, Granted moment book call answer writes ∧ book.AdmitsAll writes ∧
      (book.applyAll writes).KeptIn (carryOut decided db).database := by
  obtain ⟨_, ok, rfl⟩ := map_eq_ok.1 h
  obtain ⟨decision, hd, rfl, done⟩ := carryOut_eq_ok ok
  exact ⟨decision.writes, grant decision hd, keptIn_of_runWrites kept done⟩

/-- A call that succeeds on the rows of a book is granted on it, and leaves the rows of the book
    on which its writes took effect. -/
theorem granted_of_ok {call : Call} {answer : Answer} (kept : book.KeptIn db)
    (h : (runCall call moment db).result = .ok answer) :
    ∃ writes, Granted moment book call answer writes ∧ book.AdmitsAll writes ∧
      (book.applyAll writes).KeptIn (runCall call moment db).database := by
  cases call with
  | createWallet ownerId name =>
      exact granted_of_carryOut kept (fun _ decided => granted_createWallet decided) h
  | renameWallet ownerId id name =>
      exact granted_of_carryOut kept (fun _ decided => granted_renameWallet kept decided) h
  | deleteWallet ownerId id =>
      exact granted_of_carryOut kept (fun _ decided => granted_deleteWallet kept decided) h
  | createProduct draft =>
      exact granted_of_carryOut kept (fun _ decided => granted_createProduct decided) h
  | updateProduct id draft =>
      exact granted_of_carryOut kept (fun _ decided => granted_updateProduct kept decided) h
  | deleteProduct id =>
      exact granted_of_carryOut kept (fun _ decided => granted_deleteProduct kept decided) h
  | credit request =>
      exact granted_of_carryOut kept (fun _ decided => granted_credit kept decided) h
  | transfer request =>
      exact granted_of_carryOut kept (fun _ decided => granted_transfer kept decided) h
  | purchase request =>
      exact granted_of_carryOut kept (fun _ decided => granted_purchase kept decided) h

end Purse.Service
