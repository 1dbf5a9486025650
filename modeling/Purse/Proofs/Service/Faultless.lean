/-
  Purse.Proofs.Service.Faultless

  The checks of the operations leave nothing for the store to refuse.  In every state that calls
  lead to, a further call or read ends well or is rejected for what was asked: no constraint is
  violated, no row is unreadable, no entry is made for nothing, and no computation leaves its range
  (`faultless_of_reachable`).

  Each operation is followed step by step: the steps that read cannot fail on a well kept book
  (`Faultless.bind` chains them), and what they decide to write is admitted.
-/
import Purse.Proofs.Ledger.Stock
import Purse.Proofs.Service.Admitted

namespace Purse.Service

open Query Store Text

/-! ## Computations that end well or in a rejection -/

/-- True for a computation that does not end in a failure of the ledger itself. -/
def Faultless (computed : Except ServiceError α) : Prop :=
  ∀ error, computed = .error error → error.kind ≠ .internal

theorem faultless_ok (a : α) : Faultless (.ok a : Except ServiceError α) := nofun

theorem faultless_error {error : ServiceError} (rejection : error.kind ≠ .internal) :
    Faultless (.error error : Except ServiceError α) := by
  rintro _ ⟨⟩
  exact rejection

theorem faultless_of_exists {computed : Except ServiceError α} (h : ∃ a, computed = .ok a) :
    Faultless computed := by
  obtain ⟨a, rfl⟩ := h
  exact faultless_ok a

theorem Faultless.bind {first : Except ServiceError α} {rest : α → Except ServiceError β}
    (h : Faultless first) (hr : ∀ a, first = .ok a → Faultless (rest a)) :
    Faultless (first >>= rest) := by
  cases first with
  | error e =>
      rintro _ ⟨⟩
      exact h e rfl
  | ok a => exact hr a rfl

theorem Faultless.map {computed : Except ServiceError α} (h : Faultless computed) (f : α → β) :
    Faultless (computed.map f) := by
  cases computed with
  | error e =>
      rintro _ ⟨⟩
      exact h e rfl
  | ok a => exact faultless_ok (f a)

theorem faultless_require {condition : Bool} {error : ServiceError}
    {rest : Unit → Except ServiceError α} (rejection : error.kind ≠ .internal)
    (h : condition = true → Faultless (rest ())) :
    Faultless (require condition error >>= rest) := by
  cases condition with
  | false => exact faultless_error rejection
  | true => exact h rfl

theorem faultless_requireEntry {entry : Entry} (positive : 0 < entry.amount) :
    Faultless (requireEntry entry.positive?) :=
  faultless_of_exists ⟨entry, requireEntry_positive?.2 ⟨positive, rfl⟩⟩

theorem faultless_ofLookup {looked : Except LookupError α}
    (h : ∀ e, looked ≠ .error (.store e)) : Faultless (ofLookup looked) := by
  cases looked with
  | ok a => exact faultless_ok a
  | error e =>
      cases e with
      | query e => exact faultless_error nofun
      | store e => exact absurd rfl (h e)

theorem faultless_ofStoreResult {result : Except StoreError α} (h : ∃ a, result = .ok a) :
    Faultless (ofStoreResult result) := by
  obtain ⟨a, rfl⟩ := h
  exact faultless_ok a

theorem faultless_cleanName (name : String) : Faultless (cleanName name) := by
  unfold cleanName
  split
  · exact faultless_error nofun
  · exact faultless_ok _

theorem faultless_checkDraft (draft : ProductDraft) : Faultless (checkDraft draft) := by
  refine (faultless_cleanName _).bind fun name _ => ?_
  split
  · exact faultless_ok _
  · exact faultless_error nofun

/-! ## Reads -/

section

variable {book : Book} {db : Database}

theorem readable_wallets (kept : book.KeptIn db) (legible : book.Legible) : Readable Wallet db :=
  readable_of_records kept.walletRows legible.walletRecords

theorem readable_products (kept : book.KeptIn db) (legible : book.Legible) : Readable Product db :=
  readable_of_records kept.productRows legible.productRecords

theorem readable_entries (kept : book.KeptIn db) (legible : book.Legible) : Readable Entry db :=
  readable_of_records kept.entryRows legible.entryRecords

theorem faultless_requireWallet (readable : Readable Wallet db) (id : Ident) :
    Faultless (requireWallet id db) := by
  refine (faultless_ofStoreResult (exists_findById readable id)).bind fun found _ => ?_
  cases found with
  | none => exact faultless_error nofun
  | some wallet => exact faultless_ok wallet

theorem faultless_requireProduct (readable : Readable Product db) (id : Ident) :
    Faultless (requireProduct id db) := by
  refine (faultless_ofStoreResult (exists_findById readable id)).bind fun found _ => ?_
  cases found with
  | none => exact faultless_error nofun
  | some product => exact faultless_ok product

theorem faultless_requireOwned (readable : Readable Wallet db) (ownerId id : Ident) :
    Faultless (requireOwned ownerId id db) := by
  refine (faultless_requireWallet readable id).bind fun wallet _ => ?_
  split
  · exact faultless_ok wallet
  · exact faultless_error nofun

theorem faultless_getEntry (readable : Readable Entry db) (id : Ident) :
    Faultless (getEntry id db) := by
  refine (faultless_ofStoreResult (exists_findById readable id)).bind fun found _ => ?_
  cases found with
  | none => exact faultless_error nofun
  | some entry => exact faultless_ok entry

theorem faultless_walletEntries (readable : Readable Entry db) (id : Ident) :
    Faultless (walletEntries id db) := by
  refine faultless_ofLookup (findAll_ne_store readable ?_)
  exact statementRuns_of_compares Entry (List.forall_mem_singleton.2 (compares_equals _ _))
    (by simp [deepestConditions]) _ .all db

theorem faultless_walletHistory (wallets : Readable Wallet db) (entries : Readable Entry db)
    (id : Ident) (start stop : Instant) : Faultless (walletHistory id start stop db) := by
  unfold walletHistory
  split
  · exact faultless_error nofun
  · refine (faultless_requireWallet wallets id).bind fun wallet _ => ?_
    have compares : ∀ condition ∈ historyFilter id start stop, condition.Compares :=
      List.forall_mem_cons.2 ⟨compares_equals _ _, List.forall_mem_cons.2 ⟨⟨.gte, rfl⟩,
        List.forall_mem_singleton.2 ⟨.lt, rfl⟩⟩⟩
    have runs := statementRuns_of_compares Entry compares
      (by simp [historyFilter, deepestConditions]) (some ⟨"created_at", .descending⟩) .all db
    exact (faultless_ofLookup (findAll_ne_store entries runs)).bind fun found _ => faultless_ok _

end

section

variable (α : Type) {ρ : Type} [Table ρ] [Record α ρ]

/-- True when both statements of a listing run: the one that counts and the one for the page. -/
def ListingRuns (filter : Filter) (sort : Option SortRule) (db : Database) : Prop :=
  StatementRuns α filter sort .count db ∧ StatementRuns α filter sort .page db

end

/-- True of a database on which every read ends well or in a rejection. The statement of a listing
    may be of any size, so it has to be one that runs. -/
structure ReadsFaultless (db : Database) : Prop where
  wallet : ∀ id, Faultless (getWallet id db)
  product : ∀ id, Faultless (getProduct id db)
  entry : ∀ id, Faultless (getEntry id db)
  history : ∀ id start stop, Faultless (walletHistory id start stop db)
  entriesOf : ∀ id, Faultless (walletEntries id db)
  wallets : ∀ request filter sort, ListingRuns Wallet filter sort db →
    Faultless (listWallets request filter sort db)
  products : ∀ request filter sort, ListingRuns Product filter sort db →
    Faultless (listProducts request filter sort db)
  entries : ∀ request filter sort, ListingRuns Entry filter sort db →
    Faultless (listEntries request filter sort db)

theorem readsFaultless_of_legible {book : Book} {db : Database} (kept : book.KeptIn db)
    (legible : book.Legible) : ReadsFaultless db where
  wallet := faultless_requireWallet (readable_wallets kept legible)
  product := faultless_requireProduct (readable_products kept legible)
  entry := faultless_getEntry (readable_entries kept legible)
  history := faultless_walletHistory (readable_wallets kept legible) (readable_entries kept legible)
  entriesOf := faultless_walletEntries (readable_entries kept legible)
  wallets request _ _ runs :=
    faultless_ofLookup (findPage_ne_store (readable_wallets kept legible) runs.1 runs.2 request)
  products request _ _ runs :=
    faultless_ofLookup (findPage_ne_store (readable_products kept legible) runs.1 runs.2 request)
  entries request _ _ runs :=
    faultless_ofLookup (findPage_ne_store (readable_entries kept legible) runs.1 runs.2 request)

/-! ## Decisions -/

/-- A decision with another answer. -/
def Decision.map (f : α → β) (decision : Decision α) : Decision β where
  writes := decision.writes
  answer := f decision.answer
  taken := decision.taken

/-- What a call decides to do. -/
def Call.decide (call : Call) (moment : Moment) (db : Database) :
    Except ServiceError (Decision Answer) :=
  match call with
  | .createWallet ownerId name =>
      (decideCreateWallet moment ownerId name db).map (Decision.map .wallet)
  | .renameWallet ownerId id name =>
      (decideRenameWallet ownerId id name db).map (Decision.map .wallet)
  | .deleteWallet ownerId id => (decideDeleteWallet ownerId id db).map (Decision.map fun _ => .done)
  | .createProduct draft => (decideCreateProduct moment draft db).map (Decision.map .product)
  | .updateProduct id draft =>
      (decideUpdateProduct moment id draft db).map (Decision.map .product)
  | .deleteProduct id => (decideDeleteProduct id db).map (Decision.map fun _ => .done)
  | .credit request => (decideCredit moment request db).map (Decision.map .entry)
  | .transfer request => (decideTransfer moment request db).map (Decision.map .transfer)
  | .purchase request => (decidePurchase moment request db).map (Decision.map .entry)

theorem carryOut_map (decided : Except ServiceError (Decision α)) (f : α → β) (db : Database) :
    carryOut (decided.map (Decision.map f)) db = (carryOut decided db).map f := by
  cases decided with
  | error e => rfl
  | ok decision =>
      simp only [carryOut, Except.map, Decision.carryOut, Decision.map, Outcome.map]
      cases runWrites decision.writes db <;> rfl

/-- A call carries out what it decides. -/
theorem runCall_eq_carryOut (call : Call) (moment : Moment) (db : Database) :
    runCall call moment db = carryOut (call.decide moment db) db := by
  cases call <;> exact (carryOut_map _ _ db).symm

section

variable {moment : Moment} {book : Book} {db : Database}

theorem granted_of_map {decided : Except ServiceError (Decision α)} {wrap : α → Answer}
    {call : Call} {decision : Decision Answer}
    (grant : ∀ d, decided = .ok d → Granted moment book call (wrap d.answer) d.writes)
    (h : decided.map (Decision.map wrap) = .ok decision) :
    Granted moment book call decision.answer decision.writes := by
  obtain ⟨d, done, rfl⟩ := map_eq_ok.1 h
  exact grant d done

theorem granted_of_decide (kept : book.KeptIn db) {call : Call} {decision : Decision Answer}
    (decided : call.decide moment db = .ok decision) :
    Granted moment book call decision.answer decision.writes := by
  cases call with
  | createWallet ownerId name => exact granted_of_map (fun _ => granted_createWallet) decided
  | renameWallet ownerId id name =>
      exact granted_of_map (fun _ => granted_renameWallet kept) decided
  | deleteWallet ownerId id => exact granted_of_map (fun _ => granted_deleteWallet kept) decided
  | createProduct draft => exact granted_of_map (fun _ => granted_createProduct) decided
  | updateProduct id draft => exact granted_of_map (fun _ => granted_updateProduct kept) decided
  | deleteProduct id => exact granted_of_map (fun _ => granted_deleteProduct kept) decided
  | credit request => exact granted_of_map (fun _ => granted_credit kept) decided
  | transfer request => exact granted_of_map (fun _ => granted_transfer kept) decided
  | purchase request => exact granted_of_map (fun _ => granted_purchase kept) decided

/-! ## Names -/

theorem namesFree_of_decide (kept : book.KeptIn db) (well : book.WellKept) {call : Call}
    {decision : Decision Answer} (decided : call.decide moment db = .ok decision) :
    call.NamesFree book := by
  cases call with
  | createWallet ownerId name =>
      obtain ⟨d, done, rfl⟩ := map_eq_ok.1 decided
      simp only [decideCreateWallet, bind_eq_ok, cleanName_eq_ok] at done
      obtain ⟨_, ⟨-, rfl⟩, found, searched, rest⟩ := done
      obtain ⟨found', searched', -, free⟩ := exists_walletNamed kept well.legible ownerId name
      obtain rfl : found' = found := Except.ok.inj (searched'.symm.trans searched)
      cases found' with
      | none => exact free rfl
      | some w => cases rest
  | renameWallet ownerId id name =>
      obtain ⟨d, done, rfl⟩ := map_eq_ok.1 decided
      simp only [decideRenameWallet, bind_eq_ok, cleanName_eq_ok] at done
      obtain ⟨_, ⟨-, rfl⟩, wallet, owned, found, searched, rest⟩ := done
      obtain ⟨stored, -, -, rfl, read⟩ := readsAs_of_requireOwned kept owned
      obtain ⟨found', searched', some, none⟩ := exists_walletNamed kept well.legible ownerId name
      obtain rfl : found' = found := Except.ok.inj (searched'.symm.trans searched)
      split at rest
      · cases rest
      · next own =>
          rw [← read.wallet.1]
          exact ne_of_search well.named.wallets some none own
  | createProduct draft =>
      obtain ⟨d, done, rfl⟩ := map_eq_ok.1 decided
      simp only [decideCreateProduct, bind_eq_ok, checkDraft_eq_ok] at done
      obtain ⟨_, ⟨-, rfl, -⟩, found, searched, rest⟩ := done
      obtain ⟨found', searched', -, free⟩ := exists_productNamed kept well.legible draft.name
      obtain rfl : found' = found := Except.ok.inj (searched'.symm.trans searched)
      cases found' with
      | none => exact free rfl
      | some p => cases rest
  | updateProduct id draft =>
      obtain ⟨d, done, rfl⟩ := map_eq_ok.1 decided
      simp only [decideUpdateProduct, bind_eq_ok, checkDraft_eq_ok] at done
      obtain ⟨_, ⟨-, rfl, -⟩, product, required, found, searched, rest⟩ := done
      obtain ⟨stored, -, rfl, read⟩ := readsAs_of_requireProduct kept required
      obtain ⟨found', searched', some, none⟩ := exists_productNamed kept well.legible draft.name
      obtain rfl : found' = found := Except.ok.inj (searched'.symm.trans searched)
      split at rest
      · cases rest
      · next own =>
          rw [← read.product.1]
          exact ne_of_search well.named.products some none own
  | deleteWallet ownerId id => trivial
  | deleteProduct id => trivial
  | credit request => trivial
  | transfer request => trivial
  | purchase request => trivial

/-! ## Every decision -/

theorem faultless_decideCredit (kept : book.KeptIn db) (well : book.WellKept)
    (request : CreditRequest) : Faultless (decideCredit moment request db) := by
  have wallets := readable_wallets kept well.legible
  refine faultless_require nofun fun positive => ?_
  refine (faultless_requireWallet wallets _).bind fun wallet _ => ?_
  refine faultless_require nofun fun _ => ?_
  exact (faultless_requireEntry (of_decide_eq_true positive)).bind fun _ _ => faultless_ok _

theorem faultless_transferWallets (wallets : Readable Wallet db) (request : TransferRequest) :
    Faultless (transferWallets request db) := by
  obtain ⟨sender?, sent⟩ := exists_findById wallets request.senderId
  obtain ⟨receiver?, received⟩ := exists_findById wallets request.receiverId
  -- Whichever wallet is read first, the same choice follows.
  simp only [transferWallets, ofStoreResult_eq_ok.2 sent, ofStoreResult_eq_ok.2 received, ok_bind,
    pure_bind, ite_self]
  cases sender? with
  | none => exact faultless_error nofun
  | some sender =>
      cases receiver? with
      | none => exact faultless_error nofun
      | some receiver => exact faultless_ok (sender, receiver)

theorem faultless_decideTransfer (kept : book.KeptIn db) (well : book.WellKept)
    (request : TransferRequest) : Faultless (decideTransfer moment request db) := by
  have wallets := readable_wallets kept well.legible
  refine faultless_require nofun fun checked => ?_
  have positive : 0 < request.amount := of_decide_eq_true checked
  refine faultless_require nofun fun _ => ?_
  refine (faultless_transferWallets wallets request).bind fun pair _ => ?_
  refine faultless_require nofun fun _ => faultless_require nofun fun _ => ?_
  refine (faultless_requireEntry positive).bind fun _ _ => ?_
  exact (faultless_requireEntry positive).bind fun _ _ => faultless_ok _

/-- Some units of a stored product cost something. -/
theorem totalFor?_pos (kept : book.KeptIn db) (sound : book.Sound) {id : Ident} {product : Product}
    (found : findById Product id db = .ok (some product)) {quantity : Quantity} {total : Cents}
    (wanted : quantity ≠ 0) (priced : product.totalFor? quantity = some total) : 0 < total := by
  obtain ⟨stored, member, -, read⟩ := readsAs_of_findById kept.productRows found
  have price : 0 < product.price := by
    rw [read.product.2.1]
    exact (sound.stocks stored member).1
  have count : quantity.toNat ≠ 0 := fun none => wanted (UInt32.toNat_inj.1 none)
  rw [← (total_of_totalFor? priced).1]
  exact Int.mul_pos price (Int.natCast_pos.2 (Nat.pos_of_ne_zero count))

theorem faultless_decidePurchase (kept : book.KeptIn db) (well : book.WellKept)
    (request : PurchaseRequest) : Faultless (decidePurchase moment request db) := by
  have wallets := readable_wallets kept well.legible
  have products := readable_products kept well.legible
  refine faultless_require nofun fun wanted => ?_
  refine (faultless_requireWallet wallets _).bind fun wallet _ => ?_
  refine (faultless_ofStoreResult (exists_findById products _)).bind fun found? found => ?_
  cases found? with
  | none => exact faultless_error nofun
  | some product =>
      simp only [pure_bind]
      refine faultless_require nofun fun _ => ?_
      cases priced : product.totalFor? request.quantity with
      | none => exact faultless_error nofun
      | some total =>
          dsimp only
          refine faultless_require nofun fun _ => ?_
          have worth := totalFor?_pos kept well.sound (ofStoreResult_eq_ok.1 found)
            (of_decide_eq_true wanted) priced
          exact (faultless_requireEntry worth).bind fun _ _ => faultless_ok _

/-- What a call decides on a well kept book, it decides to do or rejects for what was asked. -/
theorem faultless_decide (kept : book.KeptIn db) (well : book.WellKept) (call : Call) :
    Faultless (call.decide moment db) := by
  have wallets := readable_wallets kept well.legible
  have products := readable_products kept well.legible
  cases call with
  | createWallet ownerId name =>
      refine Faultless.map ((faultless_cleanName name).bind fun clean cleaned => ?_) _
      obtain ⟨-, rfl⟩ := cleanName_eq_ok.1 cleaned
      obtain ⟨found, searched, -⟩ := exists_walletNamed kept well.legible ownerId name
      refine (faultless_of_exists ⟨found, searched⟩).bind fun found _ => ?_
      cases found with
      | none => exact faultless_ok _
      | some w => exact faultless_error nofun
  | renameWallet ownerId id name =>
      refine Faultless.map ((faultless_cleanName name).bind fun clean cleaned => ?_) _
      obtain ⟨-, rfl⟩ := cleanName_eq_ok.1 cleaned
      refine (faultless_requireOwned wallets ownerId id).bind fun wallet _ => ?_
      obtain ⟨found, searched, -⟩ := exists_walletNamed kept well.legible ownerId name
      refine (faultless_of_exists ⟨found, searched⟩).bind fun found _ => ?_
      split
      · exact faultless_error nofun
      · exact faultless_ok _
  | deleteWallet ownerId id =>
      exact Faultless.map
        ((faultless_requireOwned wallets ownerId id).bind fun _ _ => faultless_ok _) _
  | createProduct draft =>
      refine Faultless.map ((faultless_checkDraft draft).bind fun clean cleaned => ?_) _
      obtain ⟨-, rfl, -⟩ := checkDraft_eq_ok.1 cleaned
      obtain ⟨found, searched, -⟩ := exists_productNamed kept well.legible draft.name
      refine (faultless_of_exists ⟨found, searched⟩).bind fun found _ => ?_
      cases found with
      | none => exact faultless_ok _
      | some p => exact faultless_error nofun
  | updateProduct id draft =>
      refine Faultless.map ((faultless_checkDraft draft).bind fun clean cleaned => ?_) _
      obtain ⟨-, rfl, -⟩ := checkDraft_eq_ok.1 cleaned
      refine (faultless_requireProduct products id).bind fun product _ => ?_
      obtain ⟨found, searched, -⟩ := exists_productNamed kept well.legible draft.name
      refine (faultless_of_exists ⟨found, searched⟩).bind fun found _ => ?_
      split
      · exact faultless_error nofun
      · exact faultless_ok _
  | deleteProduct id =>
      refine Faultless.map ?_ _
      unfold decideDeleteProduct
      split
      · exact faultless_ok _
      · exact faultless_error nofun
  | credit request => exact (faultless_decideCredit kept well request).map _
  | transfer request => exact (faultless_decideTransfer kept well request).map _
  | purchase request => exact (faultless_decidePurchase kept well request).map _

/-! ## Numbers of a fixed size -/

/-- A computation on a balance, a total or a stock. -/
inductive Computation where
  | increase (wallet : Wallet) (amount : Cents)
  | decrease (wallet : Wallet) (amount : Cents)
  | total (product : Product) (count : Quantity)
  | take (product : Product) (count : Quantity)

/-- True when the result is the exact one and within its bounds: 64 bits with a sign for a balance
    or a total, and no more units taken than there are. -/
def Computation.IsExact (now : Instant) : Computation → Prop
  | .increase wallet amount => Cents.fits (wallet.increase amount now).balance = true
  | .decrease wallet amount => Cents.fits (wallet.decrease amount now).balance = true
  | .total product count => product.totalFor? count = some (product.price * count.toNat)
  | .take product count =>
      (product.take count now).quantity.toNat + count.toNat = product.quantity.toNat

/-- The computations that a call makes once it has passed its checks. -/
inductive Call.Computes (moment : Moment) (db : Database) : Call → Computation → Prop
  | creditIncrease {request : CreditRequest} {decision : Decision Entry} {wallet : Wallet}
      (decided : decideCredit moment request db = .ok decision)
      (found : findById Wallet request.walletId db = .ok (some wallet)) :
      Computes moment db (.credit request) (.increase wallet request.amount)
  | transferDecrease {request : TransferRequest} {decision : Decision TransferReceipt}
      {sender : Wallet} (decided : decideTransfer moment request db = .ok decision)
      (found : findById Wallet request.senderId db = .ok (some sender)) :
      Computes moment db (.transfer request) (.decrease sender request.amount)
  | transferIncrease {request : TransferRequest} {decision : Decision TransferReceipt}
      {receiver : Wallet} (decided : decideTransfer moment request db = .ok decision)
      (found : findById Wallet request.receiverId db = .ok (some receiver)) :
      Computes moment db (.transfer request) (.increase receiver request.amount)
  | purchaseTotal {request : PurchaseRequest} {decision : Decision Entry} {product : Product}
      (decided : decidePurchase moment request db = .ok decision)
      (found : findById Product request.productId db = .ok (some product)) :
      Computes moment db (.purchase request) (.total product request.quantity)
  | purchaseTake {request : PurchaseRequest} {decision : Decision Entry} {product : Product}
      (decided : decidePurchase moment request db = .ok decision)
      (found : findById Product request.productId db = .ok (some product)) :
      Computes moment db (.purchase request) (.take product request.quantity)
  | purchaseDecrease {request : PurchaseRequest} {decision : Decision Entry} {wallet : Wallet}
      {product : Product} {total : Cents}
      (decided : decidePurchase moment request db = .ok decision)
      (found : findById Wallet request.walletId db = .ok (some wallet))
      (foundProduct : findById Product request.productId db = .ok (some product))
      (priced : product.totalFor? request.quantity = some total) :
      Computes moment db (.purchase request) (.decrease wallet total)

theorem fits_decrease (kept : book.KeptIn db) (well : book.WellKept) {id : Ident} {wallet : Wallet}
    (found : findById Wallet id db = .ok (some wallet)) {amount : Cents} (positive : 0 < amount)
    (funds : wallet.canAfford amount = true) (now : Instant) :
    Cents.fits (wallet.decrease amount now).balance = true := by
  obtain ⟨stored, member, -, read⟩ := readsAs_of_findById kept.walletRows found
  have most : wallet.balance ≤ Cents.largest := read.wallet.2 ▸ well.bounded stored member
  obtain ⟨least, less⟩ := le_balance_decrease positive funds
  exact Cents.fits_of_nonneg least (Int.le_trans less most)

theorem isExact_of_computes (kept : book.KeptIn db) (well : book.WellKept) {call : Call}
    {computation : Computation} (computes : call.Computes moment db computation) (now : Instant) :
    computation.IsExact now := by
  -- The wallets and the product are the ones that the call has checked.
  cases computes with
  | creditIncrease decided found =>
      simp only [decideCredit, bind_eq_ok, require_eq_ok] at decided
      obtain ⟨_, -, wallet, required, _, room, -⟩ := decided
      cases (requireWallet_eq_ok.1 required).symm.trans found
      exact Cents.fits_iff.2 (fits_of_hasRoomFor room)
  | transferDecrease decided found =>
      obtain ⟨sender, receiver, checked, -, positive, -, funds, -⟩ := decideTransfer_eq_ok decided
      cases checked.symm.trans found
      exact fits_decrease kept well found positive funds now
  | transferIncrease decided found =>
      obtain ⟨sender, receiver, -, checked, -, -, -, room, -⟩ := decideTransfer_eq_ok decided
      cases checked.symm.trans found
      exact Cents.fits_iff.2 (fits_of_hasRoomFor room)
  | purchaseTotal decided found =>
      obtain ⟨wallet, product, total, -, checked, -, -, priced, -⟩ := decidePurchase_eq_ok decided
      cases checked.symm.trans found
      exact priced.trans (congrArg some (total_of_totalFor? priced).1.symm)
  | purchaseTake decided found =>
      obtain ⟨wallet, product, total, -, checked, -, supplied, -⟩ := decidePurchase_eq_ok decided
      cases checked.symm.trans found
      exact toNat_take_add supplied now
  | purchaseDecrease decided found foundProduct priced =>
      obtain ⟨wallet, product, total, checked, checkedProduct, -, -, pricedToo, worth, funds, -⟩ :=
        decidePurchase_eq_ok decided
      cases checked.symm.trans found
      cases checkedProduct.symm.trans foundProduct
      cases pricedToo.symm.trans priced
      exact fits_decrease kept well found worth funds now

end

/-! ## Reachable states -/

/-- In every state that calls lead to, a further call with new identifiers ends well or in a
    rejection, the constraints refuse none of its writes, and each of its computations comes out
    exact; and every read ends well or in a rejection. -/
theorem faultless_of_reachable {db : Database} (reachable : Reachable db) :
    (∀ (call : Call) (moment : Moment), moment.Fresh db →
      Faultless (runCall call moment db).result ∧
      (∀ decision, call.decide moment db = .ok decision →
        ∃ after, runWrites decision.writes db = .ok after) ∧
      ∀ computation, call.Computes moment db computation → computation.IsExact moment.now) ∧
    ReadsFaultless db := by
  obtain ⟨book, kept, well⟩ := exists_wellKept reachable
  refine ⟨fun call moment fresh => ?_, readsFaultless_of_legible kept well.legible⟩
  have stored : ∀ decision, call.decide moment db = .ok decision →
      ∃ after, runWrites decision.writes db = .ok after := fun decision decided =>
    exists_runWrites kept (admitsAll_of_granted kept well.sound well.legible well.named fresh
      (namesFree_of_decide kept well decided) (granted_of_decide kept decided))
  refine ⟨?_, stored, fun _ computes => isExact_of_computes kept well computes moment.now⟩
  have decides : Faultless (call.decide moment db) := faultless_decide kept well call
  rw [runCall_eq_carryOut]
  cases decided : call.decide moment db with
  | error e => exact faultless_error (decides e decided)
  | ok decision =>
      -- No write fails, so what was decided is the result.
      obtain ⟨after, done⟩ := stored decision decided
      simp only [carryOut, Decision.carryOut, done]
      exact faultless_ok decision.answer

/-- A wallet is opened and gets all that it can hold. -/
def filledWallet : List (Call × Moment) := [
  (.createWallet default "Main", ⟨⟨0, 0⟩, fun n => .ofBits (2 + n)⟩),
  (.credit ⟨.ofBits 2, Cents.largest⟩, ⟨⟨60, 0⟩, fun n => .ofBits (4 + n)⟩)]

/-- One cent more is refused before anything is added up. -/
theorem faultless_of_filledWallet :
    let db := runCalls filledWallet Database.fresh
    let call : Call := .credit ⟨.ofBits 2, 1⟩
    let moment : Moment := ⟨⟨90, 0⟩, fun n => .ofBits (6 + n)⟩
    (runCall call moment db).result = .error (.invalidAmount .balanceOverflow) ∧
      Faultless (runCall call moment db).result ∧ ReadsFaultless db := by
  intro db call moment
  have clocks : ∀ c ∈ filledWallet, c.2.clock.WellFormed ∧ c.2.clock.InPlainYear := by
    simp only [filledWallet, List.forall_mem_cons]
    refine ⟨⟨Or.inl (by decide), by decide, by decide⟩, ⟨Or.inl (by decide), by decide, by decide⟩,
      ?_⟩
    exact List.forall_mem_nil _
  have reachable : Reachable db := ⟨filledWallet, ⟨clocks, by decide +kernel⟩, rfl⟩
  have unused : ∀ id ∈ [moment.ids 0, moment.ids 1], (∀ row ∈ db.wallets, row.id ≠ id.text) ∧
      (∀ row ∈ db.products, row.id ≠ id.text) ∧ ∀ row ∈ db.entries, row.id ≠ id.text := by
    decide +kernel
  obtain ⟨⟨first, rest⟩, second⟩ := List.forall_mem_cons.1 unused
  obtain ⟨second, restToo⟩ := List.forall_mem_singleton.1 second
  have fresh : moment.Fresh db :=
    ⟨by decide, ⟨first, rest.1, rest.2⟩, ⟨second, restToo.1, restToo.2⟩⟩
  obtain ⟨calls, reads⟩ := faultless_of_reachable reachable
  exact ⟨by decide +kernel, (calls call moment fresh).1, reads⟩

end Purse.Service
