/-
  Purse.Proofs.Service.Audits

  Two ways to audit a ledger, and that they agree.  One adds up the entries of one wallet, which a
  query selects; the other lists everything and groups the entries by their wallets.  Both find
  the same sums, whatever the order of the entries, so a wallet's own audit is consistent just if
  the check of the whole ledger has nothing against it (`audits_agree`).  Nothing here relies on
  balances being right: the rows may come from any writer that writes whole records.
-/
import Purse.Proofs.Service.WalletAudits
import Purse.Proofs.Service.Writers

namespace Purse

/-! ## Sums of all wallets -/

/-- An addition that does not leave the range counts in full. -/
theorem Sums.total_add {sums : Sums} {id : Ident} {amount : Cents}
    (fits : Cents.fits (sums.of id + amount) = true) :
    ((sums.add id amount).map Prod.snd).sum = (sums.map Prod.snd).sum + amount := by
  induction sums with
  | nil =>
      rw [Sums.of, Int.zero_add] at fits
      simp [Sums.add, Cents.wrap_of_fits fits]
  | cons head rest ih =>
      obtain ⟨other, sum⟩ := head
      rw [Sums.of] at fits
      rw [Sums.add]
      split
      · next own =>
          rw [if_pos own] at fits
          simp only [List.map_cons, List.sum_cons, Cents.wrap_of_fits fits]
          exact Int.add_right_comm _ _ _
      · next other =>
          rw [if_neg other] at fits
          simp only [List.map_cons, List.sum_cons, ih fits]
          exact (Int.add_assoc _ _ _).symm

theorem Sums.mem_keys_add {sums : Sums} {id other : Ident} {amount : Cents} :
    other ∈ (sums.add id amount).map Prod.fst ↔ other ∈ sums.map Prod.fst ∨ other = id := by
  induction sums with
  | nil => simp [Sums.add]
  | cons head rest ih =>
      obtain ⟨first, sum⟩ := head
      rw [Sums.add]
      split
      · next same =>
          rw [List.map_cons, List.map_cons, ← same]
          exact (or_iff_left_of_imp fun known => List.mem_cons.2 (.inl known)).symm
      · rw [List.map_cons, List.map_cons, List.mem_cons, List.mem_cons, ih, or_assoc]

theorem Sums.nodup_keys_add {sums : Sums} (h : (sums.map Prod.fst).Nodup) (id : Ident)
    (amount : Cents) : ((sums.add id amount).map Prod.fst).Nodup := by
  induction sums with
  | nil => simp [Sums.add]
  | cons head rest ih =>
      obtain ⟨first, sum⟩ := head
      rw [List.map_cons, List.nodup_cons] at h
      rw [Sums.add]
      split
      · rw [List.map_cons, List.nodup_cons]
        exact h
      · next different =>
          rw [List.map_cons, List.nodup_cons, Sums.mem_keys_add]
          exact ⟨not_or.2 ⟨h.1, different⟩, ih h.2⟩

theorem signedSum_append (entries later : List Entry) :
    signedSum (entries ++ later) = signedSum entries + signedSum later := by
  induction entries with
  | nil => simp [signedSum]
  | cons entry entries ih => rw [List.cons_append, signedSum, signedSum, ih, Int.add_assoc]

/-- The sums of the wallets add up to the sum of all entries, when none left the range. -/
theorem total_wrappedSums {entries : List Entry} (fit : RunningSumsFit entries) :
    ((wrappedSums entries).map Prod.snd).sum = signedSum entries := by
  induction entries using List.reverseRecOn with
  | nil => rfl
  | append_singleton entries entry ih =>
      obtain ⟨before, last⟩ := runningSumsFit_concat.1 fit
      rw [walletSum_concat, if_pos rfl, ← wrappedSum_of_fits (before.whole _),
        ← of_wrappedSums] at last
      rw [wrappedSums_concat, Sums.total_add last, ih before, signedSum_append]
      simp [signedSum]

/-- Every wallet has one sum. -/
theorem nodup_wrappedSums (entries : List Entry) : ((wrappedSums entries).map Prod.fst).Nodup := by
  induction entries using List.reverseRecOn with
  | nil => exact List.nodup_nil
  | append_singleton entries entry ih =>
      rw [wrappedSums_concat]
      exact Sums.nodup_keys_add ih _ _

/-! ## Audits and reports -/

/-- What a report says of a wallet whose audit is not consistent. -/
def WalletAudit.mismatch (audit : WalletAudit) : Mismatch where
  walletId := audit.walletId
  walletName := audit.walletName
  stored := audit.stored
  computed := audit.computed

section

variable {wallets : List Wallet} {entries : List Entry} {products : List Product}

theorem mismatch?_eq (wallet : Wallet) (entries : List Entry) :
    wallet.mismatch? ((wrappedSums entries).of wallet.id) =
      if (auditWallet wallet entries).isConsistent = true then none
      else some (auditWallet wallet entries).mismatch := by
  have consistent : (auditWallet wallet entries).isConsistent = true ↔
      wrappedSum wallet.id entries = wallet.balance := by
    rw [WalletAudit.isConsistent, beq_iff_eq]
    exact eq_comm
  rw [of_wrappedSums, Wallet.mismatch?]
  simp only [consistent]
  rfl

/-- A report lists the audits that are not consistent, in the order of the wallets. -/
theorem mismatches_eq (wallets : List Wallet) (entries : List Entry) (products : List Product) :
    (integrityReport wallets entries products).mismatches =
      ((wallets.map (auditWallet · entries)).filter (!·.isConsistent)).map
        WalletAudit.mismatch := by
  change wallets.filterMap (fun w => w.mismatch? ((wrappedSums entries).of w.id)) = _
  induction wallets with
  | nil => rfl
  | cons w wallets ih =>
      rw [List.filterMap_cons, mismatch?_eq, List.map_cons, List.filter_cons]
      cases (auditWallet w entries).isConsistent with
      | true => exact ih
      | false => exact congrArg (_ :: ·) ih

theorem mem_mismatches {m : Mismatch} :
    m ∈ (integrityReport wallets entries products).mismatches ↔
      ∃ w ∈ wallets, (auditWallet w entries).isConsistent = false ∧
        (auditWallet w entries).mismatch = m := by
  rw [mismatches_eq]
  simp only [List.mem_map, List.mem_filter, Bool.not_eq_true', and_assoc, exists_exists_and_eq_and]

/-- What an audit of one wallet and a check of everything say alike: the sum of the entries, and
    whether the balance differs from it. -/
structure WalletAudit.Agrees (audit : WalletAudit) (sums : Sums) (report : IntegrityReport) :
    Prop where
  computed : sums.of audit.walletId = audit.computed
  consistent : audit.isConsistent = true ↔ ∀ m ∈ report.mismatches, m.walletId ≠ audit.walletId
  mismatch : ∀ m ∈ report.mismatches, m.walletId = audit.walletId → m = audit.mismatch

/-- A report has against a wallet what its audit shows, when no other one has its identifier. -/
theorem agrees_auditWallet (distinct : Store.Distinct wallets) {w : Wallet} (member : w ∈ wallets) :
    (auditWallet w entries).Agrees (wrappedSums entries)
      (integrityReport wallets entries products) := by
  have own {m : Mismatch} (listed : m ∈ (integrityReport wallets entries products).mismatches)
      (same : m.walletId = w.id) :
      (auditWallet w entries).isConsistent = false ∧ (auditWallet w entries).mismatch = m := by
    obtain ⟨v, stored, inconsistent, rfl⟩ := mem_mismatches.1 listed
    obtain rfl : v = w := Store.eq_of_ident distinct stored member same
    exact ⟨inconsistent, rfl⟩
  refine ⟨of_wrappedSums w.id entries, ⟨fun consistent m listed same => ?_, fun unlisted => ?_⟩,
    fun m listed same => (own listed same).2.symm⟩
  · exact Bool.eq_false_iff.1 (own listed same).1 consistent
  · by_contra inconsistent
    exact unlisted _ (mem_mismatches.2 ⟨w, member, Bool.eq_false_iff.2 inconsistent, rfl⟩) rfl

/-- When the wallet of every entry is listed, once, every entry is counted for one wallet. -/
theorem sum_length_entriesOf {ids : List Ident} (distinct : ids.Nodup)
    (known : ∀ e ∈ entries, e.walletId ∈ ids) :
    (ids.map fun id => (entriesOf id entries).length).sum = entries.length := by
  induction entries with
  | nil => simp [entriesOf]
  | cons e entries ih =>
      obtain ⟨first, rest⟩ := List.forall_mem_cons.1 known
      have counted (id : Ident) : (entriesOf id (e :: entries)).length =
          (if id = e.walletId then 1 else 0) + (entriesOf id entries).length := by
        by_cases own : e.walletId = id
        · simp [entriesOf, own, Nat.add_comm]
        · simp [entriesOf, own, Ne.symm own]
      have once : (ids.map fun id => if id = e.walletId then 1 else 0).sum = 1 := by
        rw [List.sum_map_eq_nsmul_single e.walletId _ fun id other _ => if_neg other,
          List.count_eq_one_of_mem distinct first, if_pos rfl, one_nsmul]
      simp only [counted, List.sum_map_add, once, ih rest, List.length_cons, Nat.add_comm]

end

namespace Store

/-! ## Steps with plain times -/

/-- The times of a record. -/
def AnyRecord.times : AnyRecord → List Instant
  | .wallet a => Described.times a
  | .product a => Described.times a
  | .entry a => Described.times a
  | .group _ => []

/-- The times that a step writes. -/
def Step.times : Step → List Instant
  | .create record | .update record => record.times
  | _ => []

/-- True for a step that writes only times that a clock can show in a plain year. -/
def Step.Plain (step : Step) : Prop := ∀ t ∈ step.times, t.WellFormed ∧ t.InPlainYear

section

variable {α ρ : Type} [Table ρ] [Record α ρ] [LawfulRecord α] {a b : α}

/-- What is stored of a record is its row. -/
theorem create_congr (same : Record.toRow b = Record.toRow a) (db : Database) :
    create b db = create a db := by
  simp only [create, same, LawfulRecord.links_eq_nil, replaceAllLinks]

theorem update_congr (same : Record.toRow b = Record.toRow a) (db : Database) :
    update b db = update a db := by
  simp only [update, same, LawfulRecord.links_eq_nil, replaceAllLinks]

end

/-- Any record has the row of one whose times can be stored. -/
theorem AnyRecord.exists_storable (record : AnyRecord)
    (plain : ∀ t ∈ record.times, t.WellFormed ∧ t.InPlainYear) :
    ∃ other : AnyRecord, (∀ t ∈ other.times, t.Storable) ∧
      (∀ db, (Step.create other).run db = (Step.create record).run db) ∧
      ∀ db, (Step.update other).run db = (Step.update record).run db := by
  cases record with
  | wallet a =>
      obtain ⟨b, storable, same⟩ := LawfulDescribed.exists_storable a plain
      exact ⟨.wallet b, storable, fun db => by rw [Step.run, Step.run, create_congr same],
        fun db => by rw [Step.run, Step.run, update_congr same]⟩
  | product a =>
      obtain ⟨b, storable, same⟩ := LawfulDescribed.exists_storable a plain
      exact ⟨.product b, storable, fun db => by rw [Step.run, Step.run, create_congr same],
        fun db => by rw [Step.run, Step.run, update_congr same]⟩
  | entry a =>
      obtain ⟨b, storable, same⟩ := LawfulDescribed.exists_storable a plain
      exact ⟨.entry b, storable, fun db => by rw [Step.run, Step.run, create_congr same],
        fun db => by rw [Step.run, Step.run, update_congr same]⟩
  | group a => exact ⟨.group a, List.forall_mem_nil _, fun _ => rfl, fun _ => rfl⟩

/-- A step with plain times does what one does whose times can be stored. -/
theorem Step.exists_storable {step : Step} (h : step.Plain) (records : step.isRaw = false) :
    ∃ other : Step, (∀ t ∈ other.times, t.Storable) ∧ other.isRaw = false ∧
      ∀ db, other.run db = step.run db := by
  cases step with
  | create record =>
      obtain ⟨other, storable, same, -⟩ := record.exists_storable h
      exact ⟨.create other, storable, rfl, same⟩
  | update record =>
      obtain ⟨other, storable, -, same⟩ := record.exists_storable h
      exact ⟨.update other, storable, rfl, same⟩
  | delete entity id => exact ⟨_, List.forall_mem_nil _, rfl, fun _ => rfl⟩
  | lock entity id => exact ⟨_, List.forall_mem_nil _, rfl, fun _ => rfl⟩
  | first entity filter sort => exact ⟨_, List.forall_mem_nil _, rfl, fun _ => rfl⟩
  | put entity key column value => cases records

end Store

namespace Service

open Query Store

variable {db : Database} {book : Book}

theorem Write.storable_of_step {write : Write} (storable : ∀ t ∈ write.step.times, t.Storable) :
    write.Storable := by
  cases write with
  | createWallet wallet | updateWallet wallet =>
      obtain ⟨created, moved⟩ := List.forall_mem_cons.1 storable
      exact ⟨fun t member => moved t (Option.mem_toList.2 member), created⟩
  | createProduct product | updateProduct product =>
      obtain ⟨created, updated⟩ := List.forall_mem_cons.1 storable
      exact ⟨created, List.forall_mem_singleton.1 updated⟩
  | createEntry entry => exact ⟨List.forall_mem_singleton.1 storable⟩
  | deleteWallet id | deleteProduct id => trivial

theorem Book.legible_after (h : book.Legible) {step : Step} {after : Book}
    (storable : ∀ t ∈ step.times, t.Storable) (change : book.After step after) :
    after.Legible := by
  cases change with
  | idle => exact h
  | write admitted => exact legible_apply h (Write.storable_of_step storable)
  | @putEntry entry anchored =>
      refine ⟨h.wallets, h.products, fun e member => ?_⟩
      rcases mem_of_mem_putRecord member with ⟨member, -⟩ | ⟨rfl, -⟩
      · exact h.entries e member
      · exact ⟨List.forall_mem_singleton.1 storable⟩
  | dropEntry id =>
      exact ⟨h.wallets, h.products, fun e member => h.entries e (List.mem_of_mem_filter member)⟩

/-! ## States of plain records -/

/-- True of databases with the rows of an intact book that can be read back. -/
def Restorable (db : Database) : Prop :=
  ∃ book : Book, book.KeptIn db ∧ book.Intact ∧ book.Legible

theorem restorable_step (h : Restorable db) {step : Step} (records : step.isRaw = false)
    (plain : step.Plain) : Restorable (step.run db).2 := by
  obtain ⟨book, kept, intact, legible⟩ := h
  obtain ⟨other, storable, otherRecords, same⟩ := Step.exists_storable plain records
  obtain ⟨after, keptAfter, change⟩ := exists_after_of_step kept otherRecords
  rw [same] at keptAfter
  exact ⟨after, keptAfter, Book.intact_after intact change,
    Book.legible_after legible storable change⟩

theorem restorable_runCall (h : Restorable db) (call : Call) {moment : Moment}
    (plain : moment.Plain) : Restorable (runCall call moment db).database := by
  cases hr : (runCall call moment db).result with
  | error e =>
      rw [database_runCall_of_error hr]
      exact h
  | ok answer =>
      obtain ⟨book, kept, intact, legible⟩ := h
      obtain ⟨writes, granted, admitted, keptAfter⟩ := granted_of_ok kept hr
      exact ⟨_, keptAfter, Book.intact_applyAll intact admitted,
        Book.legible_applyAll legible (storable_of_granted plain legible granted)⟩

/-- Whatever is written through records with plain times can be read back. -/
theorem restorable_runActions {actions : List Action}
    (plain : ∀ action ∈ actions, action.Of Step.Plain Moment.Plain) :
    Restorable (runActions actions Database.fresh) := by
  have fresh : Restorable Database.fresh :=
    ⟨Book.blank, Book.keptIn_fresh, Book.intact_blank, Book.legible_blank⟩
  exact runActions_induction Step.Plain Moment.Plain fresh (fun h => restorable_step h)
    (fun call _ h => restorable_runCall h call) plain

/-! ## Audits of stored wallets -/

/-- Every stored wallet is audited as if all entries were there, in any order. -/
theorem auditOf_of_book (kept : book.KeptIn db) (intact : book.Intact) (legible : book.Legible)
    {listed : List Entry} (perm : listed.Perm book.entries) {wallet : Wallet}
    (member : wallet ∈ book.wallets) : auditOf wallet.id db = .ok (auditWallet wallet listed) := by
  have own := (List.mergeSort_perm (entriesOf wallet.id book.entries) Entry.notAfter).trans
    (perm.filter _).symm
  rw [auditOf_eq kept intact.sound legible member, auditWallet_of_perm own]

/-- The two ways of adding up in 64 bits give every wallet the same sum, and a report lists just the
    wallets whose audits are not consistent; where the sums fit, they are the exact ones. Of what is
    written through records with plain times, in scopes that are committed or undone and by calls,
    every stored wallet is audited as the check of the whole ledger says, and every entry is counted
    for one wallet. -/
theorem audits_agree {actions : List Action}
    (plain : ∀ action ∈ actions, action.Of Step.Plain Moment.Plain) :
    (∀ (wallets : List Wallet) (entries : List Entry) (products : List Product),
      ((wrappedSums entries).map Prod.fst).Nodup ∧
      (∀ id, (wrappedSums entries).of id = wrappedSum id entries) ∧
      (integrityReport wallets entries products).mismatches =
        ((wallets.map (auditWallet · entries)).filter (!·.isConsistent)).map
          WalletAudit.mismatch ∧
      (RunningSumsFit entries →
        (∀ id, wrappedSum id entries = walletSum id entries) ∧
        ((wrappedSums entries).map Prod.snd).sum = signedSum entries)) ∧
    ∃ (wallets : List Wallet) (listed : List Entry) (report : IntegrityReport)
      (audits : List WalletAudit),
      let db := runActions actions Database.fresh
      db.wallets.mapM readRow = .ok wallets ∧ findAll Entry [] none db = .ok listed ∧
      checkIntegrity db = .ok report ∧ wallets.mapM (fun w => auditOf w.id db) = .ok audits ∧
      audits.map (·.walletId) = wallets.map (·.id) ∧
      (∀ audit ∈ audits, audit.Agrees (wrappedSums listed) report ∧
        (RunningSumsFit listed → audit.computed = walletSum audit.walletId listed)) ∧
      (audits.map (·.entryCount)).sum = report.entryCount ∧
      ∀ id, (∀ w ∈ wallets, w.id ≠ id) → auditOf id db = .error (.walletNotFound id) ∧
        ∀ m ∈ report.mismatches, m.walletId ≠ id := by
  constructor
  · intro wallets entries products
    exact ⟨nodup_wrappedSums entries, fun id => of_wrappedSums id entries,
      mismatches_eq wallets entries products, fun fit =>
        ⟨fun id => wrappedSum_of_fits (fit.whole id), total_wrappedSums fit⟩⟩
  · obtain ⟨book, kept, intact, legible⟩ := restorable_runActions plain
    obtain ⟨wallets, listedWallets, walletsPerm⟩ :=
      findAll_records Wallet kept.walletRows legible.walletRecords
    obtain ⟨entries, listedEntries, entriesPerm⟩ :=
      findAll_records Entry kept.entryRows legible.entryRecords
    obtain ⟨products, listedProducts, productsPerm⟩ :=
      findAll_records Product kept.productRows legible.productRecords
    let report := integrityReport wallets entries products
    have checked : checkIntegrity (runActions actions Database.fresh) = .ok report :=
      checkIntegrity_eq_ok.2 ⟨_, _, _, listedWallets, listedEntries, listedProducts, rfl⟩
    -- The check lists the same wallets, perhaps in another order.
    have distinct : Distinct wallets := (walletsPerm.map Record.ident).nodup_iff.2
      intact.sound.wallets
    refine ⟨book.wallets, entries, report, book.wallets.map (auditWallet · entries),
      mapM_readRow_wallets kept legible, listedEntries, checked, ?_, ?_, ?_, ?_, ?_⟩
    · exact mapM_eq_ok.2 (List.forall₂_map_right_iff.2 (List.forall₂_same.2 fun w member =>
        auditOf_of_book kept intact legible entriesPerm member))
    · exact List.map_map
    · exact List.forall_mem_map.2 fun w member =>
        ⟨agrees_auditWallet distinct (walletsPerm.mem_iff.2 member),
          fun fit => wrappedSum_of_fits (fit.whole w.id)⟩
    · have known : ∀ e ∈ entries, e.walletId ∈ book.wallets.map (·.id) := fun e member =>
        List.mem_map.2 (intact.anchored e (entriesPerm.mem_iff.1 member)).wallet
      have counted := sum_length_entriesOf intact.sound.wallets known
      rw [List.map_map] at counted ⊢
      exact counted
    · intro id absent
      refine ⟨?_, fun m listed own => ?_⟩
      · rw [auditOf, requireWallet_of_absent kept absent, error_bind]
      · obtain ⟨w, member, -, rfl⟩ := mem_mismatches.1 listed
        exact absent w (walletsPerm.mem_iff.1 member) own

/-! ### A wallet that was tampered with -/

/-- A wallet is opened and credited, and then replaced by one that holds more. -/
def tamperedDay : List Action := [
  .call (.createWallet default "Main") ⟨⟨0, 0⟩, fun n => .ofBits (2 + n)⟩,
  .call (.credit ⟨.ofBits 2, 500⟩) ⟨⟨60, 0⟩, fun n => .ofBits (8 + n)⟩,
  .scope true [⟨.update (.wallet ⟨.ofBits 2, "Main", default, 700, none, ⟨0, 5⟩⟩), rfl⟩]]

/-- The audit of the wallet and the check of the ledger both find the sum of its one entry. -/
theorem audits_agree_of_tamperedDay :
    let db := runActions tamperedDay Database.fresh
    let entry := incomeEntry (.ofBits 8) (.ofBits 2) 500 ⟨60, 0⟩
    let mismatch : Mismatch := ⟨.ofBits 2, "Main", 700, 500⟩
    (∀ action ∈ tamperedDay, action.Of Step.Plain Moment.Plain) ∧ RunningSumsFit [entry] ∧
      wrappedSum (.ofBits 2) [entry] = walletSum (.ofBits 2) [entry] ∧
      (checkIntegrity db).map (·.mismatches) = .ok [mismatch] ∧
      ∃ audit, auditOf (.ofBits 2) db = .ok audit ∧ audit.isConsistent = false ∧
        audit.mismatch = mismatch ∧ audit.entryCount = 1 := by
  intro db entry mismatch
  have plain : ∀ action ∈ tamperedDay, action.Of Step.Plain Moment.Plain := by
    refine List.forall_mem_cons.2 ⟨⟨.inl (by decide), by decide, by decide⟩,
      List.forall_mem_cons.2 ⟨⟨.inl (by decide), by decide, by decide⟩,
        List.forall_mem_singleton.2 (List.forall_mem_singleton.2 ?_)⟩⟩
    exact List.forall_mem_singleton.2 ⟨.inl (by decide), by decide, by decide⟩
  have fit : RunningSumsFit [entry] := by
    intro id n
    cases n with
    | zero => rfl
    | succ n =>
        rw [List.take_succ_cons, List.take_nil, walletSum_cons, walletSum_nil]
        split <;> decide
  obtain ⟨lists, wallets, listed, report, audits, readWallets, -, checked, audited, ids, agree,
    counted, -⟩ := audits_agree plain
  obtain ⟨-, -, -, fits⟩ := lists [] [entry] []
  have found : (checkIntegrity db).map (fun report => (report.mismatches, report.entryCount)) =
      .ok ([mismatch], 1) := by decide +kernel
  have stored : db.wallets.mapM readRow =
      .ok [(⟨.ofBits 2, "Main", default, 700, none, ⟨0, 0⟩⟩ : Wallet)] := by decide +kernel
  obtain rfl := Except.ok.inj (readWallets.symm.trans stored)
  obtain ⟨_, same, findings⟩ := map_eq_ok.1 found
  obtain rfl := Except.ok.inj (checked.symm.trans same)
  obtain ⟨mismatches, entryCount⟩ := Prod.mk.inj findings
  obtain ⟨audit, _, answered, rest, rfl⟩ := List.forall₂_cons_left_iff.1 (mapM_eq_ok.1 audited)
  obtain rfl := List.forall₂_nil_left_iff.1 rest
  obtain ⟨agrees, -⟩ := List.forall_mem_singleton.1 agree
  have own : mismatch.walletId = audit.walletId := (List.singleton_inj.1 ids).symm
  have against : mismatch ∈ report.mismatches := mismatches ▸ List.mem_singleton_self mismatch
  refine ⟨plain, fit, (fits fit).1 _, same ▸ congrArg Except.ok mismatches, audit, answered,
    Bool.eq_false_iff.2 fun consistent => ?_, (agrees.mismatch mismatch against own).symm, ?_⟩
  · exact agrees.consistent.1 consistent mismatch against own
  · rw [← entryCount, ← counted]
    simp

end Service

end Purse
