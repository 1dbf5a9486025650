/-
  Purse.Proofs.Service.Settlements

  Transfers and purchases from end to end.  `transferTerms` and `purchaseTerms` are the rules of the
  two operations in their order, as functions of the stored records and of nothing else; which of
  two identifiers is the smaller one does not occur in them.  In every state that plain records
  and calls lead to, an operation ends as its rules say: it is rejected and nothing changes, or
  it moves the money, adds its entries and leaves everything else as it was (`transfer_settles`,
  `purchase_settles`).
-/
import Purse.Proofs.Ledger.Stock
import Purse.Proofs.Service.Admitted
import Purse.Proofs.Service.Audits

namespace Purse.Service

open Query Store

/-! ## Books that are read -/

/-- True of a book whose rows a database holds and that comes back when they are read. -/
structure Book.ReadFrom (book : Book) (db : Database) : Prop where
  kept : book.KeptIn db
  wallets : db.wallets.mapM readRow = .ok book.wallets
  products : db.products.mapM readRow = .ok book.products
  entries : db.entries.mapM readRow = .ok book.entries

variable {book : Book} {db : Database}

theorem Book.readFrom_of_legible (kept : book.KeptIn db) (legible : book.Legible) :
    book.ReadFrom db where
  kept := kept
  wallets := kept.wallets ▸ mapM_readRow_toRow legible.walletRecords
  products := kept.products ▸ mapM_readRow_toRow legible.productRecords
  entries := kept.entries ▸ mapM_readRow_toRow legible.entryRecords

/-! ## Rules -/

/-- The sender and the receiver of a transfer, or why it is rejected. -/
def transferTerms (wallets : List Wallet) (request : TransferRequest) :
    Except ServiceError (Wallet × Wallet) :=
  if request.amount ≤ 0 then .error (.invalidAmount .notPositive)
  else if request.senderId = request.receiverId then .error (.sameWallet request.senderId)
  else
    match wallets.find? (·.id = request.senderId), wallets.find? (·.id = request.receiverId) with
    | none, _ => .error (.walletNotFound request.senderId)
    | some _, none => .error (.walletNotFound request.receiverId)
    | some sender, some receiver =>
        if sender.balance < request.amount then
          .error (.insufficientFunds sender.name sender.balance request.amount)
        else if Cents.largest < receiver.balance + request.amount then
          .error (.invalidAmount .balanceOverflow)
        else .ok (sender, receiver)

/-- The wallet and the product of a purchase, or why it is rejected. -/
def purchaseTerms (wallets : List Wallet) (products : List Product) (request : PurchaseRequest) :
    Except ServiceError (Wallet × Product) :=
  if request.quantity = 0 then .error .quantityNotPositive
  else
    match wallets.find? (·.id = request.walletId), products.find? (·.id = request.productId) with
    | none, _ => .error (.walletNotFound request.walletId)
    | some _, none => .error (.unknownProduct request.productId)
    | some wallet, some product =>
        let total := product.price * request.quantity.toNat
        if product.quantity < request.quantity then
          .error (.productUnavailable product.name request.quantity product.quantity)
        else if Cents.largest < total then .error (.invalidAmount .totalOverflow)
        else if wallet.balance < total then
          .error (.insufficientFunds wallet.name wallet.balance total)
        else .ok (wallet, product)

/-- A purchase whose rules are met asks for a positive number of units that are in stock, and for
    no more money than the wallet holds. -/
theorem purchaseTerms_eq_ok {wallets : List Wallet} {products : List Product}
    {request : PurchaseRequest} {wallet : Wallet} {product : Product}
    (met : purchaseTerms wallets products request = .ok (wallet, product)) :
    request.quantity ≠ 0 ∧ product ∈ products ∧ request.quantity ≤ product.quantity ∧
      product.price * request.quantity.toNat ≤ wallet.balance := by
  unfold purchaseTerms at met
  split at met
  · cases met
  · next wanted =>
    split at met
    · cases met
    · cases met
    · next found =>
      dsimp only at met
      split_ifs at met with few large short
      cases met
      exact ⟨wanted, List.mem_of_find?_eq_some found, UInt32.not_lt.1 few, Int.not_lt.1 short⟩

/-! ## Decisions -/

/-- A rule that is checked first on both sides. -/
theorem require_first {α β : Type} {refused : Prop} [Decidable refused] {condition : Bool}
    (same : condition = decide (¬ refused)) (error : ServiceError)
    {rest : Except ServiceError β} {terms : Except ServiceError α} {f : α → β}
    (met : ¬ refused → rest = terms.map f) :
    (do require condition error; rest) = (if refused then .error error else terms).map f := by
  rw [same]
  by_cases h : refused
  · rw [if_pos h, require, if_neg (by simpa using h)]
    rfl
  · rw [if_neg h, require, if_pos (decide_eq_true h), ok_bind, met h]

theorem canAfford_eq (wallet : Wallet) (amount : Cents) :
    wallet.canAfford amount = decide (¬ wallet.balance < amount) :=
  decide_eq_decide.2 Int.not_lt.symm

/-- A sum that is not below zero can be stored when it is not above the largest amount. -/
theorem hasRoomFor_eq {wallet : Wallet} {amount : Cents} (least : 0 ≤ wallet.balance + amount) :
    wallet.hasRoomFor amount = decide (¬ Cents.largest < wallet.balance + amount) := by
  rw [Wallet.hasRoomFor, Cents.add?, Cents.checked?_of_nonneg least]
  by_cases large : Cents.largest < wallet.balance + amount <;> simp [large]

/-- A product whose flag follows its stock supplies what it has. -/
theorem canSupply_eq {product : Product} (consistent : product.isConsistent = true)
    {quantity : Quantity} (wanted : quantity ≠ 0) :
    product.canSupply quantity = decide (¬ product.quantity < quantity) := by
  rw [Product.canSupply, eq_of_beq consistent]
  by_cases few : product.quantity < quantity
  · rw [decide_eq_false (UInt32.not_le.2 few), decide_eq_false (not_not.2 few), Bool.and_false]
  · have enough : quantity ≤ product.quantity := UInt32.not_lt.1 few
    have least : 0 < quantity := UInt32.pos_iff_ne_zero.2 wanted
    have stocked : 0 < product.quantity := UInt32.lt_of_lt_of_le least enough
    have one : 1 ≤ product.quantity :=
      UInt32.le_iff_toNat_le.2 (UInt32.lt_iff_toNat_lt.1 stocked)
    rw [decide_eq_true stocked, decide_eq_true one, decide_eq_true enough, decide_eq_true few]
    rfl

/-- What a transfer decides once its rules are met. -/
def transferDecision (moment : Moment) (amount : Cents) (sender receiver : Wallet) :
    Decision TransferReceipt :=
  let sent := sentEntry (moment.ids 0) sender.id receiver.id receiver.name amount moment.now
  let received := receivedEntry (moment.ids 1) receiver.id sender.id sender.name amount moment.now
  { writes := [
      .createEntry sent, .updateWallet (sender.decrease amount moment.now),
      .createEntry received, .updateWallet (receiver.increase amount moment.now)]
    answer := ⟨sent, received⟩ }

/-- In whichever order the wallets are read, a missing sender is reported before a missing
    receiver. -/
theorem transferWallets_eq (kept : book.KeptIn db) (legible : book.Legible)
    (request : TransferRequest) : transferWallets request db =
      match book.wallets.find? (·.id = request.senderId),
        book.wallets.find? (·.id = request.receiverId) with
      | none, _ => .error (.walletNotFound request.senderId)
      | some _, none => .error (.walletNotFound request.receiverId)
      | some sender, some receiver => .ok (sender, receiver) := by
  have found (id : Ident) : findById Wallet id db = .ok (book.wallets.find? (·.id = id)) :=
    findById_eq kept.walletRows legible.walletRecords id
  rw [transferWallets]
  simp only [found, ofStoreResult]
  -- Both orders of reading end in the same choice.
  split
  all_goals
    cases book.wallets.find? (·.id = request.senderId) <;>
      cases book.wallets.find? (·.id = request.receiverId) <;> rfl

/-- A transfer is decided by its rules. -/
theorem decideTransfer_eq (kept : book.KeptIn db) (sound : book.Sound) (legible : book.Legible)
    (moment : Moment) (request : TransferRequest) : decideTransfer moment request db =
      (transferTerms book.wallets request).map fun (sender, receiver) =>
        transferDecision moment request.amount sender receiver := by
  refine require_first (decide_eq_decide.2 Int.not_le.symm) _ fun none => ?_
  have positive : 0 < request.amount := Int.not_le.1 none
  refine require_first (decide_eq_decide.2 Iff.rfl) _ fun _ => ?_
  rw [transferWallets_eq kept legible]
  -- The searches are the same on both sides; the rules behind them need both wallets.
  cases book.wallets.find? (·.id = request.senderId) with
  | none => rfl
  | some sender =>
      cases found : book.wallets.find? (·.id = request.receiverId) with
      | none => rfl
      | some receiver =>
          have least : 0 ≤ receiver.balance + request.amount :=
            Int.add_nonneg (sound.balances _ (List.mem_of_find?_eq_some found))
              (Int.le_of_lt positive)
          rw [ok_bind]
          refine require_first (canAfford_eq _ _) _ fun _ => ?_
          refine require_first (hasRoomFor_eq least) _ fun _ => ?_
          rw [Entry.transferOut?, requireEntry_positive?.2 ⟨positive, rfl⟩, ok_bind,
            Entry.transferIn?, requireEntry_positive?.2 ⟨positive, rfl⟩, ok_bind]
          rfl

/-- What a purchase decides once its rules are met. -/
def purchaseDecision (moment : Moment) (quantity : Quantity) (wallet : Wallet)
    (product : Product) : Decision Entry :=
  let total := product.price * quantity.toNat
  let entry := expenseEntry (moment.ids 0) wallet.id product.id product.name quantity total
    moment.now
  { writes := [
      .updateProduct (product.take quantity moment.clock),
      .updateWallet (wallet.decrease total moment.now), .createEntry entry]
    answer := entry }

/-- A purchase is decided by its rules. -/
theorem decidePurchase_eq (kept : book.KeptIn db) (sound : book.Sound) (legible : book.Legible)
    (moment : Moment) (request : PurchaseRequest) : decidePurchase moment request db =
      (purchaseTerms book.wallets book.products request).map fun (wallet, product) =>
        purchaseDecision moment request.quantity wallet product := by
  have wallets := findById_eq kept.walletRows legible.walletRecords request.walletId
  have products := findById_eq kept.productRows legible.productRecords request.productId
  refine require_first (decide_eq_decide.2 Iff.rfl) _ fun wanted => ?_
  rw [requireWallet, wallets, products]
  cases book.wallets.find? (·.id = request.walletId) with
  | none => rfl
  | some wallet =>
      cases found : book.products.find? (·.id = request.productId) with
      | none => rfl
      | some product =>
          obtain ⟨priced, consistent⟩ := sound.stocks product (List.mem_of_find?_eq_some found)
          have count : 0 < request.quantity.toNat :=
            UInt32.lt_iff_toNat_lt.1 (UInt32.pos_iff_ne_zero.2 wanted)
          have worth : 0 < product.price * request.quantity.toNat :=
            Int.mul_pos priced (Int.natCast_pos.2 count)
          -- The price is positive, so only the upper end of the range can refuse the total.
          have total : product.totalFor? request.quantity =
              if Cents.largest < product.price * request.quantity.toNat then none
              else some (product.price * request.quantity.toNat) :=
            Cents.checked?_of_nonneg (Int.le_of_lt worth)
          simp only [ofStoreResult, ok_bind, pure_bind, total]
          refine require_first (canSupply_eq consistent wanted) _ fun _ => ?_
          by_cases large : Cents.largest < product.price * request.quantity.toNat
          · rw [if_pos large, if_pos large]
            rfl
          rw [if_neg large, if_neg large]
          refine require_first (canAfford_eq _ _) _ fun _ => ?_
          rw [Entry.purchase?, requireEntry_positive?.2 ⟨worth, rfl⟩, ok_bind]
          rfl

/-! ## Writes -/

/-- Writes that all took effect took all their identifiers. -/
theorem drawnBy_of_runWrites {writes : List Write} {after : Database}
    (done : runWrites writes db = .ok after) :
    drawnBy writes db = (writes.map Write.draws).sum := by
  induction writes generalizing db with
  | nil => rfl
  | cons write writes ih =>
      obtain ⟨between, first, rest⟩ := bind_eq_ok.1 done
      rw [drawnBy, first, List.map_cons, List.sum_cons, ← ih rest]

/-- A write changes nothing beside the rows of wallets, products and entries. -/
theorem beside_of_run (kept : book.KeptIn db) {write : Write} {after : Database}
    (done : write.run db = .ok after) : after.groups = db.groups ∧ after.links = db.links := by
  cases write with
  | createWallet wallet =>
      obtain ⟨_, done⟩ := settle_eq_ok.1 done
      obtain ⟨-, -, -, rfl⟩ := create_records kept.walletRows done
      exact ⟨rfl, rfl⟩
  | updateWallet wallet =>
      obtain ⟨_, done⟩ := settle_eq_ok.1 done
      obtain ⟨rfl, -⟩ := update_records kept.walletRows done
      exact ⟨rfl, rfl⟩
  | createProduct product =>
      obtain ⟨_, done⟩ := settle_eq_ok.1 done
      obtain ⟨-, -, -, rfl⟩ := create_records kept.productRows done
      exact ⟨rfl, rfl⟩
  | updateProduct product =>
      obtain ⟨_, done⟩ := settle_eq_ok.1 done
      obtain ⟨rfl, -⟩ := update_records kept.productRows done
      exact ⟨rfl, rfl⟩
  | createEntry entry =>
      obtain ⟨_, done⟩ := settle_eq_ok.1 done
      obtain ⟨-, -, -, rfl⟩ := create_records kept.entryRows done
      exact ⟨rfl, rfl⟩
  | deleteWallet id =>
      rw [← Except.ok.inj done]
      by_cases found : (Table.find? (ρ := WalletRow) db id.text).isSome
      · rw [delete_wallet found]
        exact ⟨rfl, rfl⟩
      · rw [delete_of_absent found]
        exact ⟨rfl, rfl⟩
  | deleteProduct id =>
      rw [← Except.ok.inj done]
      by_cases found : (Table.find? (ρ := ProductRow) db id.text).isSome
      · rw [delete_product found]
        exact ⟨rfl, rfl⟩
      · rw [delete_of_absent found]
        exact ⟨rfl, rfl⟩

theorem beside_of_runWrites (kept : book.KeptIn db) {writes : List Write} {after : Database}
    (done : runWrites writes db = .ok after) :
    after.groups = db.groups ∧ after.links = db.links := by
  induction writes generalizing book db with
  | nil =>
      cases done
      exact ⟨rfl, rfl⟩
  | cons write writes ih =>
      obtain ⟨between, first, rest⟩ := bind_eq_ok.1 done
      obtain ⟨groups, links⟩ := beside_of_run kept first
      obtain ⟨groupsToo, linksToo⟩ := ih (keptIn_of_run kept first).2 rest
      exact ⟨groupsToo.trans groups, linksToo.trans links⟩

/-- What was decided on the records of a book is carried out, and nothing else changes. -/
theorem exists_carriedOut {moment : Moment} {call : Call} {answer : Answer}
    {decision : Decision α} (kept : book.KeptIn db) (intact : book.Intact)
    (legible : book.Legible) (plain : moment.Plain) (fresh : moment.Fresh db)
    (granted : Granted moment book call answer decision.writes) (free : call.NamesFree book) :
    ∃ left, decision.carryOut db =
        ⟨.ok decision.answer, left, (decision.writes.map Write.draws).sum⟩ ∧
      (book.applyAll decision.writes).ReadFrom left ∧
      left.groups = db.groups ∧ left.links = db.links := by
  obtain ⟨left, done⟩ := exists_runWrites kept
    (admitsAll_of_granted kept intact.sound legible intact.named fresh free granted)
  have legibleLeft := Book.legible_applyAll legible (storable_of_granted plain legible granted)
  refine ⟨left, ?_, Book.readFrom_of_legible (keptIn_of_runWrites kept done).2 legibleLeft,
    beside_of_runWrites kept done⟩
  simp only [Decision.carryOut, done, drawnBy_of_runWrites done]

/-! ## A shop

Two wallets and a product, of which the wallet with the larger identifier holds just what the whole
stock of the product costs. -/

/-- The wallet with the smaller identifier. -/
def mainWallet : Wallet := ⟨.ofBits 2, "Main", default, 100, none, ⟨0, 0⟩⟩

/-- The wallet with the larger identifier. -/
def spareWallet : Wallet := ⟨.ofBits 4, "Spare", default, 500, none, ⟨0, 0⟩⟩

/-- A product of which two units are in stock. -/
def tea : Product := ⟨.ofBits 6, "Tea", none, 250, 2, true, ⟨0, 0⟩, ⟨0, 0⟩⟩

/-- The three are written in one scope. -/
def shop : List Action := [.scope true [
  ⟨.create (.wallet mainWallet), rfl⟩, ⟨.create (.wallet spareWallet), rfl⟩,
  ⟨.create (.product tea), rfl⟩]]

/-- What is read from the shop are the three records. -/
theorem eq_of_readFrom_shop {book : Book}
    (readFrom : book.ReadFrom (runActions shop Database.fresh)) :
    book = ⟨[mainWallet, spareWallet], [tea], []⟩ := by
  have wallets : (runActions shop Database.fresh).wallets.mapM readRow =
      .ok [mainWallet, spareWallet] := by decide +kernel
  have products : (runActions shop Database.fresh).products.mapM readRow = .ok [tea] := by
    decide +kernel
  have entries : (runActions shop Database.fresh).entries.mapM readRow =
      .ok ([] : List Entry) := by decide +kernel
  obtain ⟨_, _, _⟩ := book
  cases readFrom.wallets.symm.trans wallets
  cases readFrom.products.symm.trans products
  cases readFrom.entries.symm.trans entries
  rfl

/-- A minute later. -/
def laterMoment : Moment := ⟨⟨60, 0⟩, fun n => .ofBits (8 + n)⟩

theorem plain_laterMoment : laterMoment.Plain := ⟨.inl (by decide), by decide, by decide⟩

theorem plain_shop : ∀ action ∈ shop, action.Of Step.Plain Moment.Plain := by
  have start : (⟨0, 0⟩ : Instant).WellFormed ∧ (⟨0, 0⟩ : Instant).InPlainYear :=
    ⟨.inl (by decide), by decide, by decide⟩
  refine List.forall_mem_singleton.2 (List.forall_mem_cons.2 ⟨?_, List.forall_mem_cons.2 ⟨?_,
    List.forall_mem_singleton.2 ?_⟩⟩)
  · exact List.forall_mem_singleton.2 start
  · exact List.forall_mem_singleton.2 start
  · exact List.forall_mem_cons.2 ⟨start, List.forall_mem_singleton.2 start⟩

theorem fresh_laterMoment : laterMoment.Fresh (runActions shop Database.fresh) := by
  have unused : ∀ id ∈ [laterMoment.ids 0, laterMoment.ids 1],
      (∀ row ∈ (runActions shop Database.fresh).wallets, row.id ≠ id.text) ∧
      (∀ row ∈ (runActions shop Database.fresh).products, row.id ≠ id.text) ∧
      ∀ row ∈ (runActions shop Database.fresh).entries, row.id ≠ id.text := by
    decide +kernel
  obtain ⟨⟨first, rest⟩, second⟩ := List.forall_mem_cons.1 unused
  obtain ⟨second, restToo⟩ := List.forall_mem_singleton.1 second
  exact ⟨by decide, ⟨first, rest.1, rest.2⟩, ⟨second, restToo.1, restToo.2⟩⟩

/-! ## From end to end -/

/-- In every state of plain records, a transfer is rejected by the first of its rules that is not
    met, and nothing changes; or it moves the amount, notes the time on both wallets and adds an
    entry to each of them, and all else stays as it was. -/
theorem transfer_settles {actions : List Action}
    (plain : ∀ action ∈ actions, action.Of Step.Plain Moment.Plain) {moment : Moment}
    (clock : moment.Plain) (fresh : moment.Fresh (runActions actions Database.fresh))
    (request : TransferRequest) :
    let db := runActions actions Database.fresh
    ∃ book : Book, book.ReadFrom db ∧ book.Sound ∧
      match transferTerms book.wallets request with
      | .error error => transfer moment request db = ⟨.error error, db, 0⟩
      | .ok (sender, receiver) =>
          let paid := { sender with
            balance := sender.balance - request.amount, lastMovedAt := some moment.now }
          let gained := { receiver with
            balance := receiver.balance + request.amount, lastMovedAt := some moment.now }
          let sent := sentEntry (moment.ids 0) sender.id receiver.id receiver.name request.amount
            moment.now
          let received := receivedEntry (moment.ids 1) receiver.id sender.id sender.name
            request.amount moment.now
          ∃ left, transfer moment request db = ⟨.ok ⟨sent, received⟩, left, 2⟩ ∧
            Book.ReadFrom { book with
              wallets := putRecord gained (putRecord paid book.wallets)
              entries := book.entries ++ [sent, received] } left ∧
            left.groups = db.groups ∧ left.links = db.links := by
  intro db
  obtain ⟨book, kept, intact, legible⟩ := restorable_runActions plain
  have decided := decideTransfer_eq kept intact.sound legible moment request
  refine ⟨book, Book.readFrom_of_legible kept legible, intact.sound, ?_⟩
  cases terms : transferTerms book.wallets request with
  | error error =>
      rw [terms] at decided
      simp only [transfer, db, decided]
      rfl
  | ok parties =>
      obtain ⟨sender, receiver⟩ := parties
      rw [terms] at decided
      replace decided : decideTransfer moment request db =
        .ok (transferDecision moment request.amount sender receiver) := decided
      obtain ⟨left, done, readFrom, beside⟩ := exists_carriedOut kept intact legible clock fresh
        (granted_transfer kept decided) trivial
      refine ⟨left, ?_, ?_, beside⟩
      · rw [transfer, decided]
        exact done
      · -- The two entries came one by one.
        have added := List.append_assoc book.entries
        simp only [transferDecision, Book.applyAll, List.foldl, Book.apply, added] at readFrom
        exact readFrom

/-- All that the wallet with the larger identifier holds goes to the other one. -/
theorem transfer_settles_shop :
    let db := runActions shop Database.fresh
    let now : Instant := ⟨60, 0⟩
    let sent := sentEntry (.ofBits 8) (.ofBits 4) (.ofBits 2) "Main" 500 now
    let received := receivedEntry (.ofBits 9) (.ofBits 2) (.ofBits 4) "Spare" 500 now
    (∀ action ∈ shop, action.Of Step.Plain Moment.Plain) ∧ laterMoment.Plain ∧
      laterMoment.Fresh db ∧
      ∃ left,
        transfer laterMoment ⟨.ofBits 4, .ofBits 2, 500⟩ db = ⟨.ok ⟨sent, received⟩, left, 2⟩ ∧
        left.wallets.mapM readRow = .ok [
          { mainWallet with balance := 600, lastMovedAt := some now },
          { spareWallet with balance := 0, lastMovedAt := some now }] ∧
        left.entries.mapM readRow = .ok [sent, received] := by
  intro db now sent received
  obtain ⟨book, readFrom, -, settled⟩ :=
    transfer_settles plain_shop plain_laterMoment fresh_laterMoment ⟨.ofBits 4, .ofBits 2, 500⟩
  obtain rfl := eq_of_readFrom_shop readFrom
  have terms : transferTerms [mainWallet, spareWallet] ⟨.ofBits 4, .ofBits 2, 500⟩ =
      .ok (spareWallet, mainWallet) := by decide +kernel
  rw [terms] at settled
  obtain ⟨left, done, after, -⟩ := settled
  exact ⟨plain_shop, plain_laterMoment, fresh_laterMoment, left, done,
    after.wallets.trans (by decide +kernel), after.entries.trans (by decide +kernel)⟩

/-- In every state of plain records, a purchase is rejected by the first of its rules that is not
    met, and nothing changes; or it takes the units from the stock and what they cost from the
    wallet, adds an entry, and all else stays as it was. -/
theorem purchase_settles {actions : List Action}
    (plain : ∀ action ∈ actions, action.Of Step.Plain Moment.Plain) {moment : Moment}
    (clock : moment.Plain) (fresh : moment.Fresh (runActions actions Database.fresh))
    (request : PurchaseRequest) :
    let db := runActions actions Database.fresh
    ∃ book : Book, book.ReadFrom db ∧ book.Sound ∧
      match purchaseTerms book.wallets book.products request with
      | .error error => purchase moment request db = ⟨.error error, db, 0⟩
      | .ok (wallet, product) =>
          let total := product.price * request.quantity.toNat
          let rest := product.quantity - request.quantity
          let sold := { product with
            quantity := rest, available := decide (0 < rest), updatedAt := moment.now }
          let paid := { wallet with
            balance := wallet.balance - total, lastMovedAt := some moment.now }
          let entry := expenseEntry (moment.ids 0) wallet.id product.id product.name
            request.quantity total moment.now
          rest.toNat + request.quantity.toNat = product.quantity.toNat ∧
          0 < total ∧ 0 ≤ wallet.balance - total ∧
          ∃ left, purchase moment request db = ⟨.ok entry, left, 1⟩ ∧
            Book.ReadFrom {
              wallets := putRecord paid book.wallets
              products := putRecord sold book.products
              entries := book.entries ++ [entry] } left ∧
            left.groups = db.groups ∧ left.links = db.links := by
  intro db
  obtain ⟨book, kept, intact, legible⟩ := restorable_runActions plain
  have decided := decidePurchase_eq kept intact.sound legible moment request
  refine ⟨book, Book.readFrom_of_legible kept legible, intact.sound, ?_⟩
  cases terms : purchaseTerms book.wallets book.products request with
  | error error =>
      rw [terms] at decided
      simp only [purchase, db, decided]
      rfl
  | ok parties =>
      obtain ⟨wallet, product⟩ := parties
      rw [terms] at decided
      replace decided : decidePurchase moment request db =
        .ok (purchaseDecision moment request.quantity wallet product) := decided
      obtain ⟨left, done, readFrom, beside⟩ := exists_carriedOut kept intact legible clock fresh
        (granted_purchase kept decided) trivial
      obtain ⟨wanted, stocked, enough, funds⟩ := purchaseTerms_eq_ok terms
      have price := (intact.sound.stocks product stocked).1
      have count : 0 < request.quantity.toNat :=
        UInt32.lt_iff_toNat_lt.1 (UInt32.pos_iff_ne_zero.2 wanted)
      refine ⟨?_, Int.mul_pos price (Int.natCast_pos.2 count), Int.sub_nonneg_of_le funds, left, ?_,
        ?_, beside⟩
      · rw [UInt32.toNat_sub_of_le _ _ enough]
        exact Nat.sub_add_cancel (UInt32.le_iff_toNat_le.1 enough)
      · rw [purchase, decided]
        exact done
      · simp only [purchaseDecision, Book.applyAll, List.foldl, Book.apply, Product.take,
          Product.restock, Product.remaining, if_pos enough] at readFrom
        exact readFrom

/-- The whole stock is bought for all that the wallet holds. -/
theorem purchase_settles_shop :
    let db := runActions shop Database.fresh
    let now : Instant := ⟨60, 0⟩
    let entry := expenseEntry (.ofBits 8) (.ofBits 4) (.ofBits 6) "Tea" 2 500 now
    (∀ action ∈ shop, action.Of Step.Plain Moment.Plain) ∧ laterMoment.Plain ∧
      laterMoment.Fresh db ∧
      ∃ left, purchase laterMoment ⟨.ofBits 4, .ofBits 6, 2⟩ db = ⟨.ok entry, left, 1⟩ ∧
        left.wallets.mapM readRow = .ok [
          mainWallet, { spareWallet with balance := 0, lastMovedAt := some now }] ∧
        left.products.mapM readRow = .ok [
          { tea with quantity := 0, available := false, updatedAt := now }] ∧
        left.entries.mapM readRow = .ok [entry] := by
  intro db now entry
  obtain ⟨book, readFrom, -, settled⟩ :=
    purchase_settles plain_shop plain_laterMoment fresh_laterMoment ⟨.ofBits 4, .ofBits 6, 2⟩
  obtain rfl := eq_of_readFrom_shop readFrom
  have terms : purchaseTerms [mainWallet, spareWallet] [tea] ⟨.ofBits 4, .ofBits 6, 2⟩ =
      .ok (spareWallet, tea) := by decide +kernel
  rw [terms] at settled
  obtain ⟨-, -, -, left, done, after, -⟩ := settled
  exact ⟨plain_shop, plain_laterMoment, fresh_laterMoment, left, done,
    after.wallets.trans (by decide +kernel), after.products.trans (by decide +kernel),
    after.entries.trans (by decide +kernel)⟩

end Purse.Service
