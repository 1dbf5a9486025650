/-
  Purse.Proofs.Ledger.Balance

  Balances are sums of entries.  Calls close the gaps that they open between the two, and every
  sum on the way to a balance can be stored, so after every run of calls a check of the whole
  ledger comes to an end and finds nothing (`balanced_of_run`).
-/
import Purse.Proofs.Ledger.RunningSums

namespace Purse.Service

open Store

variable {book : Book}

/-! ## Checks of the ledger -/

section

variable {wallets : List Wallet} {entries : List Entry} {products : List Product}

theorem negativeWallets_eq_nil (balances : ∀ w ∈ wallets, 0 ≤ w.balance) :
    (integrityReport wallets entries products).negativeWallets = [] := by
  rw [integrityReport, List.map_eq_nil_iff, List.filter_eq_nil_iff]
  intro w member
  simpa using balances w member

theorem inconsistentProducts_eq_nil (flags : ∀ p ∈ products, p.isConsistent = true) :
    (integrityReport wallets entries products).inconsistentProducts = [] := by
  rw [integrityReport, List.map_eq_nil_iff, List.filter_eq_nil_iff]
  intro p member
  simp [flags p member]

theorem isOk_integrityReport (fit : RunningSumsFit entries)
    (balances : ∀ w ∈ wallets, 0 ≤ w.balance ∧ w.balance = walletSum w.id entries)
    (flags : ∀ p ∈ products, p.isConsistent = true) :
    (integrityReport wallets entries products).isOk = true := by
  -- None of the three lists of findings has a member.
  have noMismatch : (integrityReport wallets entries products).mismatches = [] := by
    rw [mismatches_of_fit fit, List.filterMap_eq_nil_iff]
    intro w member
    rw [Wallet.mismatch?, if_pos (balances w member).2.symm]
  have noneNegative : (integrityReport wallets entries products).negativeWallets = [] :=
    negativeWallets_eq_nil fun w member => (balances w member).1
  have allConsistent : (integrityReport wallets entries products).inconsistentProducts = [] :=
    inconsistentProducts_eq_nil flags
  rw [IntegrityReport.isOk, noMismatch, noneNegative, allConsistent]
  rfl

end

/-- A check of a book whose balances are right, and were after each entry, finds nothing. -/
theorem checkIntegrity_of_settled {db : Database} (kept : book.KeptIn db) (sound : book.Sound)
    (legible : book.Legible) (settled : book.Settled) :
    ∃ report, checkIntegrity db = .ok report ∧ report.isOk = true := by
  obtain ⟨wallets, listedWallets, walletsPerm⟩ := findAll_records Wallet kept.walletRows
    fun w member => ofRow_toRow_wallet (legible.wallets w member)
  have listedEntries := findAll_entries_of_legible kept legible
  obtain ⟨products, listedProducts, productsPerm⟩ := findAll_records Product kept.productRows
    fun p member => ofRow_toRow_product (legible.products p member)
  refine ⟨integrityReport wallets book.entries products, ?_,
    isOk_integrityReport settled.steady.fit ?_ ?_⟩
  · exact checkIntegrity_eq_ok.2 ⟨_, _, _, listedWallets, listedEntries, listedProducts, rfl⟩
  · intro w listed
    have member := walletsPerm.subset listed
    exact ⟨sound.balances w member,
      Book.balance_eq_walletSum settled.balanced sound.wallets member⟩
  · intro p listed
    exact (sound.stocks p (productsPerm.subset listed)).2

/-! ## Runs -/

/-- After every run of calls, whether they succeeded or failed, no balance is negative, every
    balance is the sum of the entries of its wallet, and a check of the whole ledger says so. -/
theorem balanced_of_run {calls : List (Call × Moment)}
    (clocks : ∀ c ∈ calls, c.2.clock.WellFormed ∧ c.2.clock.InPlainYear) :
    ∃ (wallets : List Wallet) (entries : List Entry) (report : IntegrityReport),
      (runCalls calls Database.fresh).wallets = wallets.map Record.toRow ∧
      (runCalls calls Database.fresh).entries = entries.map Record.toRow ∧
      (∀ wallet ∈ wallets, 0 ≤ wallet.balance ∧
        wallet.balance = walletSum wallet.id entries) ∧
      checkIntegrity (runCalls calls Database.fresh) = .ok report ∧ report.isOk = true := by
  obtain ⟨book, kept, sound, legible, settled⟩ := exists_legible_of_run clocks
  obtain ⟨report, checked, ok⟩ := checkIntegrity_of_settled kept sound legible settled
  refine ⟨book.wallets, book.entries, report, kept.wallets, kept.entries, ?_, checked, ok⟩
  intro wallet member
  exact ⟨sound.balances wallet member,
    Book.balance_eq_walletSum settled.balanced sound.wallets member⟩

/-- A wallet that is opened and credited holds the credit. -/
theorem balanced_of_first_credit :
    let calls : List (Call × Moment) := [
      (.createWallet default "Main", ⟨⟨0, 0⟩, fun _ => default⟩),
      (.credit ⟨default, 500⟩, ⟨⟨60, 0⟩, fun _ => default⟩)]
    (∀ c ∈ calls, c.2.clock.WellFormed ∧ c.2.clock.InPlainYear) ∧
      (runCalls calls Database.fresh).wallets.map (·.balance) = [.integer 500] ∧
      ∃ (wallets : List Wallet) (entries : List Entry) (report : IntegrityReport),
        (runCalls calls Database.fresh).wallets = wallets.map Record.toRow ∧
        (runCalls calls Database.fresh).entries = entries.map Record.toRow ∧
        (∀ wallet ∈ wallets, 0 ≤ wallet.balance ∧
          wallet.balance = walletSum wallet.id entries) ∧
        checkIntegrity (runCalls calls Database.fresh) = .ok report ∧ report.isOk = true := by
  intro calls
  have clocks : ∀ c ∈ calls, c.2.clock.WellFormed ∧ c.2.clock.InPlainYear := by
    simp only [calls, List.forall_mem_cons]
    refine ⟨⟨Or.inl (by decide), by decide, by decide⟩,
      ⟨Or.inl (by decide), by decide, by decide⟩, ?_⟩
    exact List.forall_mem_nil _
  exact ⟨clocks, by decide +kernel, balanced_of_run clocks⟩

end Service

end Purse
