/-
  Purse.Proofs.Service.Duplicates

  Names that are tidy and stand once, and the check that keeps them so.  Stored names have no
  blanks at their ends and are not empty (`exists_tidy`).  A call that gives a name looks for it
  first (`Guards`): it is rejected as a duplicate exactly if another record has the name, and if
  none has, the constraints accept what it writes.  So the check and the constraint on names agree
  in every state that calls lead to (`named_of_reachable`).
-/
import Purse.Proofs.Ledger.Effects
import Purse.Proofs.Service.Writers

namespace Purse

namespace Text

/-- True of a text that is not empty and has no blanks at its ends. -/
def IsTidy (s : String) : Prop := s ≠ "" ∧ trimmed s = s

theorem isTidy_trimmed {s : String} (named : trimmed s ≠ "") : IsTidy (trimmed s) :=
  ⟨named, trimmed_trimmed s⟩

end Text

open Service Store Text

/-! ## Tidy names -/

section

variable {event : Event}

theorem Wallet.Becomes.isTidy {a b : Wallet} (h : a.Becomes event b) (tidy : IsTidy a.name) :
    IsTidy b.name := by
  cases h with
  | same => exact tidy
  | renamed named call ok => exact isTidy_trimmed named
  | moved moves => exact tidy

theorem Wallet.Arrives.isTidy {a : Wallet} (h : a.Arrives event) : IsTidy a.name := by
  cases h with
  | opened named call => exact isTidy_trimmed named

theorem Product.Becomes.isTidy {a b : Product} (h : a.Becomes event b) (tidy : IsTidy a.name) :
    IsTidy b.name := by
  cases h with
  | same => exact tidy
  | replaced named call ok => exact isTidy_trimmed named
  | sold call bought ok => exact tidy

theorem Product.Arrives.isTidy {a : Product} (h : a.Arrives event) : IsTidy a.name := by
  cases h with
  | listed named call => exact isTidy_trimmed named

end

namespace Service

/-- True when all names are tidy. -/
structure Book.Tidy (book : Book) : Prop where
  wallets : ∀ w ∈ book.wallets, IsTidy w.name
  products : ∀ p ∈ book.products, IsTidy p.name

theorem Book.tidy_blank : blank.Tidy := ⟨List.forall_mem_nil _, List.forall_mem_nil _⟩

theorem tidy_of_carried {event : Event} {before after : Book} (tidy : before.Tidy)
    (wallets : WalletsCarried event before after) (products : ProductsCarried event before after) :
    after.Tidy where
  wallets := wallets.forall_mem tidy.wallets Wallet.Becomes.isTidy Wallet.Arrives.isTidy
  products := products.forall_mem tidy.products Product.Becomes.isTidy Product.Arrives.isTidy

/-- The names in a state that calls lead to are tidy. -/
theorem exists_tidy {db : Database} (reachable : Reachable db) :
    ∃ book : Book, book.KeptIn db ∧ book.Tidy := by
  obtain ⟨calls, orderly, rfl⟩ := reachable
  obtain ⟨book, kept, -, -, tidy⟩ := exists_book_of_run
    (fun _ book => book.Legible ∧ book.Tidy) Moment.Plain ⟨Book.legible_blank, Book.tidy_blank⟩
    (fun _ held => held)
    (fun plain _ sound ok granted admitted ⟨legible, tidy⟩ =>
      ⟨Book.legible_applyAll legible (storable_of_granted plain legible granted),
        tidy_of_carried tidy (walletsCarried_of_granted sound legible ok granted admitted)
          (productsCarried_of_granted sound legible ok granted admitted)⟩)
    orderly.clocks
  exact ⟨book, kept, tidy⟩

/-! ## The check for a name -/

/-- True when all that was decided takes effect. -/
def Accepted (decided : Except ServiceError (Decision α)) (db : Database) : Prop :=
  ∀ decision, decided = .ok decision → ∃ after, runWrites decision.writes db = .ok after

/-- True of a decision that is rejected with one error if there is a clash, and is carried out if
    there is none. -/
structure Guards (decided : Except ServiceError (Decision α)) (db : Database) (clash : Prop)
    (rejection : ServiceError) : Prop where
  refused : clash → decided = .error rejection
  granted : ¬ clash → ∃ decision after, decided = .ok decision ∧
    runWrites decision.writes db = .ok after

variable {book : Book} {db : Database} {moment : Moment}

section

variable {decided : Except ServiceError (Decision α)} {clash : Prop} {rejection : ServiceError}

theorem Guards.of_iff {taken : Prop} (h : Guards decided db clash rejection)
    (same : taken ↔ clash) : Guards decided db taken rejection :=
  ⟨fun found => h.refused (same.1 found), fun free => h.granted (mt same.2 free)⟩

theorem Guards.result_eq_error_iff {error : ServiceError} (h : Guards decided db clash rejection) :
    (carryOut decided db).result = .error error ↔ error = rejection ∧ clash := by
  by_cases taken : clash
  · rw [h.refused taken]
    refine ⟨fun rejected => ⟨(Except.error.inj rejected).symm, taken⟩, ?_⟩
    rintro ⟨rfl, -⟩
    rfl
  · obtain ⟨decision, after, decides, done⟩ := h.granted taken
    rw [decides, carryOut, Decision.carryOut, done]
    refine ⟨fun rejected => ?_, fun clashes => absurd clashes.2 taken⟩
    cases rejected

theorem Guards.exists_answer (h : Guards decided db clash rejection) (free : ¬ clash) :
    ∃ answer, (carryOut decided db).result = .ok answer := by
  obtain ⟨decision, after, decides, done⟩ := h.granted free
  refine ⟨decision.answer, ?_⟩
  rw [decides, carryOut, Decision.carryOut, done]

theorem Guards.accepted (h : Guards decided db clash rejection) : Accepted decided db := by
  intro decision decides
  -- With a clash nothing would have been decided.
  have free : ¬ clash := fun taken => by
    rw [h.refused taken] at decides
    cases decides
  obtain ⟨same, after, decidesToo, done⟩ := h.granted free
  obtain rfl := Except.ok.inj (decidesToo.symm.trans decides)
  exact ⟨after, done⟩

end

/-- A decision that depends on whether a search has found something guards what the search is
    for. -/
theorem guards_of_search {decided : Except ServiceError (Decision α)} {found : Bool}
    {rejection : ServiceError} {decision : Decision α} {clash : Prop} (kept : book.KeptIn db)
    (decides : decided = if found then .error rejection else .ok decision)
    (finds : found = true ↔ clash) (admitted : ¬ clash → book.AdmitsAll decision.writes) :
    Guards decided db clash rejection where
  refused taken := by rw [decides, if_pos (finds.2 taken)]
  granted free := by
    obtain ⟨after, done⟩ := exists_runWrites kept (admitted free)
    exact ⟨decision, after, by rw [decides, if_neg (mt finds.1 free)], done⟩

theorem guards_createWallet (kept : book.KeptIn db) (well : book.WellKept)
    (unused : Unused (moment.ids 0) db) (ownerId : Ident) {name : String}
    (named : trimmed name ≠ "") :
    Guards (decideCreateWallet moment ownerId name db) db
      (∃ w ∈ book.wallets, w.fullName = (ownerId, trimmed name))
      (.walletExists (trimmed name)) := by
  obtain ⟨found, searched, hits, misses⟩ := exists_walletNamed kept well.legible ownerId name
  let wallet := Wallet.opened (moment.ids 0) (trimmed name) ownerId moment.clock
  have decides : decideCreateWallet moment ownerId name db =
      if found.isSome then .error (.walletExists (trimmed name))
      else .ok ⟨[.createWallet wallet], wallet, some (.walletExists (trimmed name))⟩ := by
    rw [decideCreateWallet, cleanName_of_named named, ok_bind, searched, ok_bind]
    cases found <;> rfl
  refine guards_of_search kept decides (isSome_search_iff hits misses) fun free => ⟨?_, trivial⟩
  exact admits_opened kept unused fun w member title => free ⟨w, member, title⟩

theorem guards_renameWallet (kept : book.KeptIn db) (well : book.WellKept) {wallet : Wallet}
    (member : wallet ∈ book.wallets) {name : String} (named : trimmed name ≠ "") :
    Guards (decideRenameWallet wallet.ownerId wallet.id name db) db
      (∃ w ∈ book.wallets, w.id ≠ wallet.id ∧ w.fullName = (wallet.ownerId, trimmed name))
      (.walletExists (trimmed name)) := by
  obtain ⟨found, searched, hits, misses⟩ :=
    exists_walletNamed kept well.legible wallet.ownerId name
  have owned : requireOwned wallet.ownerId wallet.id db = .ok wallet := by
    rw [requireOwned, requireWallet_of_mem kept well member, ok_bind, if_pos rfl]
    rfl
  let renamed := { wallet with name := trimmed name }
  have decides : decideRenameWallet wallet.ownerId wallet.id name db =
      if found.any (·.id ≠ wallet.id) then .error (.walletExists (trimmed name))
      else .ok ⟨[.updateWallet renamed], renamed, some (.walletExists (trimmed name))⟩ := by
    rw [decideRenameWallet, cleanName_of_named named, ok_bind, owned, ok_bind, searched, ok_bind]
    rfl
  refine guards_of_search kept decides (any_search_iff well.named.wallets hits misses)
    fun free => ⟨?_, trivial⟩
  exact admits_renamed well.sound member fun w stands other title => free ⟨w, stands, other, title⟩

theorem checkDraft_of_named {draft : ProductDraft} (named : trimmed draft.name ≠ "")
    (priced : 0 < draft.price) : checkDraft draft = .ok (trimmed draft.name) :=
  checkDraft_eq_ok.2 ⟨fun blank => named (trimmed_eq_empty.2 blank), rfl, priced⟩

theorem guards_createProduct (kept : book.KeptIn db) (well : book.WellKept)
    (unused : Unused (moment.ids 0) db) {draft : ProductDraft} (named : trimmed draft.name ≠ "")
    (priced : 0 < draft.price) :
    Guards (decideCreateProduct moment draft db) db
      (∃ p ∈ book.products, p.name = trimmed draft.name) (.productExists (trimmed draft.name)) := by
  obtain ⟨found, searched, hits, misses⟩ := exists_productNamed kept well.legible draft.name
  let product := listedProduct moment draft
  have decides : decideCreateProduct moment draft db =
      if found.isSome then .error (.productExists (trimmed draft.name))
      else .ok ⟨[.createProduct product], product, some (.productExists (trimmed draft.name))⟩ := by
    rw [decideCreateProduct, checkDraft_of_named named priced, ok_bind, searched, ok_bind]
    cases found <;> rfl
  refine guards_of_search kept decides (isSome_search_iff hits misses) fun free => ⟨?_, trivial⟩
  exact admits_listed kept unused priced fun p member title => free ⟨p, member, title⟩

theorem guards_updateProduct (moment : Moment) (kept : book.KeptIn db) (well : book.WellKept)
    {product : Product} (member : product ∈ book.products) {draft : ProductDraft}
    (named : trimmed draft.name ≠ "") (priced : 0 < draft.price) :
    Guards (decideUpdateProduct moment product.id draft db) db
      (∃ p ∈ book.products, p.id ≠ product.id ∧ p.name = trimmed draft.name)
      (.productExists (trimmed draft.name)) := by
  obtain ⟨found, searched, hits, misses⟩ := exists_productNamed kept well.legible draft.name
  let updated := replaced product (trimmed draft.name) draft moment.clock
  have decides : decideUpdateProduct moment product.id draft db =
      if found.any (·.id ≠ product.id) then .error (.productExists (trimmed draft.name))
      else .ok ⟨[.updateProduct updated], updated, some (.productExists (trimmed draft.name))⟩ := by
    rw [decideUpdateProduct, checkDraft_of_named named priced, ok_bind,
      requireProduct_of_mem kept well member, ok_bind, searched, ok_bind]
    rfl
  refine guards_of_search kept decides (any_search_iff well.named.products hits misses)
    fun free => ⟨?_, trivial⟩
  exact admits_replaced priced moment.clock fun p stands other title =>
    free ⟨p, stands, other, title⟩

/-! ## Reachable states -/

/-- True of a database on which a call that gives a name to a record is rejected as a duplicate
    exactly if another record has the name without its blanks, and is carried out if none has;
    whatever passes the check is accepted by the constraints. -/
structure RefusesDuplicates (db : Database) : Prop where
  opens : ∀ (moment : Moment) (ownerId : Ident) (name : String), Unused (moment.ids 0) db →
    let outcome := createWallet moment ownerId name db
    let taken := ∃ row ∈ db.wallets, row.ownerId = ownerId.text ∧ row.name = trimmed name
    (∀ other, outcome.result = .error (.walletExists other) ↔
      other = trimmed name ∧ trimmed name ≠ "" ∧ taken) ∧
    (trimmed name ≠ "" → ¬ taken → ∃ wallet, outcome.result = .ok wallet) ∧
    Accepted (decideCreateWallet moment ownerId name db) db
  renames : ∀ (ownerId id : Ident) (name : String),
    (∃ row ∈ db.wallets, row.id = id.text ∧ row.ownerId = ownerId.text) → trimmed name ≠ "" →
    let outcome := renameWallet ownerId id name db
    let taken := ∃ row ∈ db.wallets,
      row.id ≠ id.text ∧ row.ownerId = ownerId.text ∧ row.name = trimmed name
    (∀ other, outcome.result = .error (.walletExists other) ↔ other = trimmed name ∧ taken) ∧
    (¬ taken → ∃ wallet, outcome.result = .ok wallet) ∧
    Accepted (decideRenameWallet ownerId id name db) db
  lists : ∀ (moment : Moment) (draft : ProductDraft), Unused (moment.ids 0) db →
    trimmed draft.name ≠ "" → 0 < draft.price →
    let outcome := createProduct moment draft db
    let taken := ∃ row ∈ db.products, row.name = trimmed draft.name
    (∀ other, outcome.result = .error (.productExists other) ↔
      other = trimmed draft.name ∧ taken) ∧
    (¬ taken → ∃ product, outcome.result = .ok product) ∧
    Accepted (decideCreateProduct moment draft db) db
  replaces : ∀ (moment : Moment) (id : Ident) (draft : ProductDraft),
    (∃ row ∈ db.products, row.id = id.text) → trimmed draft.name ≠ "" → 0 < draft.price →
    let outcome := updateProduct moment id draft db
    let taken := ∃ row ∈ db.products, row.id ≠ id.text ∧ row.name = trimmed draft.name
    (∀ other, outcome.result = .error (.productExists other) ↔
      other = trimmed draft.name ∧ taken) ∧
    (¬ taken → ∃ product, outcome.result = .ok product) ∧
    Accepted (decideUpdateProduct moment id draft db) db

/-- What holds of a stored row holds of the record that it was written from. -/
theorem exists_row_iff {α ρ : Type} [Table ρ] [Record α ρ] {as : List α} {rows : List ρ}
    (h : rows = as.map Record.toRow) {p : α → Prop} {q : ρ → Prop}
    (same : ∀ a, q (Record.toRow a) ↔ p a) : (∃ row ∈ rows, q row) ↔ ∃ a ∈ as, p a := by
  simp only [h, List.mem_map, exists_exists_and_eq_and, same]

/-- What the check for the name of a wallet comes to. -/
theorem Guards.wallet {decided : Except ServiceError (Decision Wallet)} {name : String}
    {taken : Prop} (h : Guards decided db taken (.walletExists name)) :
    (∀ other, (carryOut decided db).result = .error (.walletExists other) ↔
      other = name ∧ taken) ∧
    (¬ taken → ∃ wallet, (carryOut decided db).result = .ok wallet) ∧ Accepted decided db := by
  refine ⟨fun other => ?_, h.exists_answer, h.accepted⟩
  rw [h.result_eq_error_iff, ServiceError.walletExists.injEq]

/-- What the check for the name of a product comes to. -/
theorem Guards.product {decided : Except ServiceError (Decision Product)} {name : String}
    {taken : Prop} (h : Guards decided db taken (.productExists name)) :
    (∀ other, (carryOut decided db).result = .error (.productExists other) ↔
      other = name ∧ taken) ∧
    (¬ taken → ∃ product, (carryOut decided db).result = .ok product) ∧ Accepted decided db := by
  refine ⟨fun other => ?_, h.exists_answer, h.accepted⟩
  rw [h.result_eq_error_iff, ServiceError.productExists.injEq]

theorem refusesDuplicates_of_wellKept (kept : book.KeptIn db) (well : book.WellKept) :
    RefusesDuplicates db where
  opens moment ownerId name unused := by
    intro outcome taken
    by_cases named : trimmed name = ""
    · -- A name of blanks is rejected before anything is looked for.
      have decided : decideCreateWallet moment ownerId name db = .error .emptyName := by
        rw [decideCreateWallet, cleanName, if_pos (trimmed_eq_empty.1 named)]
        rfl
      have rejected : outcome.result = .error .emptyName :=
        congrArg (fun decision => (carryOut decision db).result) decided
      refine ⟨fun other => ?_, fun title => absurd named title, fun decision decides => ?_⟩
      · rw [rejected]
        refine ⟨fun same => ?_, fun h => absurd named h.2.1⟩
        cases same
      · rw [decided] at decides
        cases decides
    · have rows : taken ↔ ∃ w ∈ book.wallets, w.fullName = (ownerId, trimmed name) :=
        exists_row_iff kept.wallets fun w => by simp [Record.toRow, Wallet.fullName]
      obtain ⟨rejected, carriedOut, accepted⟩ :=
        ((guards_createWallet kept well unused ownerId named).of_iff rows).wallet
      refine ⟨fun other => (rejected other).trans ?_, fun _ => carriedOut, accepted⟩
      exact and_congr_right fun _ => (and_iff_right named).symm
  renames := by
    rintro ownerId id name ⟨row, stored, sameId, sameOwner⟩ named
    obtain ⟨wallet, member, rfl⟩ := exists_wallet_of_row kept stored
    obtain rfl := Ident.text_inj.1 sameId
    obtain rfl := Ident.text_inj.1 sameOwner
    refine ((guards_renameWallet kept well member named).of_iff ?_).wallet
    exact exists_row_iff kept.wallets fun w => by simp [Record.toRow, Wallet.fullName]
  lists moment draft unused named priced := by
    refine ((guards_createProduct kept well unused named priced).of_iff ?_).product
    exact exists_row_iff kept.products fun p => Iff.rfl
  replaces := by
    rintro moment id draft ⟨row, stored, same⟩ named priced
    obtain ⟨product, member, rfl⟩ := exists_product_of_row kept stored
    obtain rfl := Ident.text_inj.1 same
    refine ((guards_updateProduct moment kept well member named priced).of_iff ?_).product
    exact exists_row_iff kept.products fun p => by simp [Record.toRow]

/-- In every state that calls lead to, names are not empty and have no blanks at their ends, no two
    wallets of an owner and no two products share one, and the check for duplicates is exact. -/
theorem named_of_reachable (reachable : Reachable db) :
    (∀ row ∈ db.wallets, IsTidy row.name) ∧ (∀ row ∈ db.products, IsTidy row.name) ∧
    (db.wallets.Pairwise fun a b => ¬ (a.ownerId = b.ownerId ∧ a.name = b.name)) ∧
    (db.products.Pairwise fun a b => a.name ≠ b.name) ∧ RefusesDuplicates db := by
  obtain ⟨book, kept, well⟩ := exists_wellKept reachable
  obtain ⟨tidyBook, tidyKept, tidy⟩ := exists_tidy reachable
  refine ⟨?_, ?_, ?_, ?_, refusesDuplicates_of_wellKept kept well⟩
  · rw [tidyKept.wallets]
    exact List.forall_mem_map.2 tidy.wallets
  · rw [tidyKept.products]
    exact List.forall_mem_map.2 tidy.products
  · rw [kept.wallets]
    refine (pairwise_of_namedApart well.sound.wallets well.named.wallets).map _ ?_
    intro a b different same
    exact different (Prod.ext (Ident.text_inj.1 same.1) same.2)
  · rw [kept.products]
    exact (pairwise_of_namedApart well.sound.products well.named.products).map _ fun _ _ h => h

/-- A name that only blanks tell from a stored one is refused to a new wallet, but not to the
    wallet that has it. -/
theorem named_of_marketDay :
    let db := marketRows
    let moment : Moment := ⟨⟨120, 0⟩, fun n => .ofBits (20 + n)⟩
    (createWallet moment default " Spare " db).result = .error (.walletExists "Spare") ∧
      (renameWallet default (.ofBits 4) " Spare " db).result ≠ .error (.walletExists "Spare") ∧
      (∀ row ∈ db.wallets, IsTidy row.name) ∧ (∀ row ∈ db.products, IsTidy row.name) ∧
      RefusesDuplicates db := by
  intro db moment
  have unused : (∀ row ∈ db.wallets, row.id ≠ (moment.ids 0).text) ∧
      (∀ row ∈ db.products, row.id ≠ (moment.ids 0).text) ∧
      ∀ row ∈ db.entries, row.id ≠ (moment.ids 0).text := by decide +kernel
  have stored : ∃ row ∈ db.wallets,
      row.id = (Ident.ofBits 4).text ∧ row.ownerId = (default : Ident).text := by decide +kernel
  obtain ⟨wallets, products, -, -, refuses⟩ := named_of_reachable reachable_marketRows
  obtain ⟨opens, -⟩ := refuses.opens moment default " Spare " ⟨unused.1, unused.2.1, unused.2.2⟩
  obtain ⟨renames, -⟩ := refuses.renames default (.ofBits 4) " Spare " stored (by decide +kernel)
  exact ⟨(opens "Spare").2 (by decide +kernel), mt (renames "Spare").1 (by decide +kernel), wallets,
    products, refuses⟩

end Service

end Purse
