/-
  Purse.Proofs.Ledger.RunningSums

  Sums on the way.  What is added up in 64 bits is the exact sum, brought into the range; it does
  not matter how often a sum came round before (`wrappedSum_eq`).  In the order in which calls made
  the entries none does: every sum on the way is a balance that the wallet once had, so none is
  negative and all can be stored; it stays so when a wallet goes, as its entries go all together
  (`steady_of_granted`).  A check of the whole ledger reads the entries in that order, so all its
  sums are exact (`integrity_sums_of_run`).
-/
import Purse.Proofs.Ledger.Gaps
import Purse.Proofs.Service.Admitted
import Purse.Proofs.Store.Listing

namespace Purse

/-! ## Sums of 64 bits -/

/-- The beginnings of a longer list are those of the list, and the longer list. -/
theorem forall_take_concat (P : List α → Prop) (as : List α) (a : α) :
    (∀ n, P ((as ++ [a]).take n)) ↔ (∀ n, P (as.take n)) ∧ P (as ++ [a]) := by
  constructor
  · intro all
    refine ⟨fun n => ?_, ?_⟩
    · by_cases short : n ≤ as.length
      · have here := all n
        rwa [List.take_append_of_le_length short] at here
      · have here := all as.length
        rw [List.take_left] at here
        rwa [List.take_of_length_le (by omega)]
    · have here := all (as ++ [a]).length
      rwa [List.take_length] at here
  · rintro ⟨shorter, whole⟩ n
    by_cases short : n ≤ as.length
    · rw [List.take_append_of_le_length short]
      exact shorter n
    · rwa [List.take_of_length_le (by simp; omega)]

/-- True of entries whose sums can be stored, wallet by wallet and entry by entry. -/
def RunningSumsFit (entries : List Entry) : Prop :=
  ∀ id n, Cents.fits (walletSum id (entries.take n)) = true

section

variable {id : Ident} {entries : List Entry} {entry : Entry}

theorem wrappedSum_concat (id : Ident) (entries : List Entry) (entry : Entry) :
    wrappedSum id (entries ++ [entry]) =
      if entry.walletId = id then Cents.wrap (wrappedSum id entries + entry.signedAmount)
      else wrappedSum id entries := by
  have last : entriesOf id (entries ++ [entry]) =
      entriesOf id entries ++ if entry.walletId = id then [entry] else [] := by
    rw [entriesOf, List.filter_append, List.filter_singleton, cond_eq_ite, entriesOf]
    simp only [decide_eq_true_eq]
  rw [wrappedSum, last, List.foldl_append]
  split <;> rfl

theorem wrappedSums_concat (entries : List Entry) (entry : Entry) :
    wrappedSums (entries ++ [entry]) =
      (wrappedSums entries).add entry.walletId entry.signedAmount := by
  rw [wrappedSums, List.foldl_append]
  rfl

/-- Adding up all wallets at once gives each the sum that it has alone. -/
theorem of_wrappedSums (id : Ident) (entries : List Entry) :
    (wrappedSums entries).of id = wrappedSum id entries := by
  induction entries using List.reverseRecOn with
  | nil => rfl
  | append_singleton entries entry ih =>
      rw [wrappedSums_concat, Sums.of_add, wrappedSum_concat, ih]

/-- Sums of 64 bits are those of the entries, brought into the range once. -/
theorem wrappedSum_eq (id : Ident) (entries : List Entry) :
    wrappedSum id entries = Cents.wrap (walletSum id entries) := by
  induction entries using List.reverseRecOn with
  | nil => rfl
  | append_singleton entries entry ih =>
      rw [wrappedSum_concat, walletSum_concat, ih]
      split
      · exact Cents.wrap_wrap_add _ _
      · rw [Int.add_zero]

theorem wrappedSum_of_fits (fits : Cents.fits (walletSum id entries) = true) :
    wrappedSum id entries = walletSum id entries := by
  rw [wrappedSum_eq, Cents.wrap_of_fits fits]

/-- Where all the sums on the way can be stored, so can the last one. -/
theorem RunningSumsFit.whole (fit : RunningSumsFit entries) (id : Ident) :
    Cents.fits (walletSum id entries) = true := by
  have last := fit id entries.length
  rwa [List.take_length] at last

/-- One more entry has to be looked at for its own wallet only. -/
theorem runningSumsFit_concat :
    RunningSumsFit (entries ++ [entry]) ↔ RunningSumsFit entries ∧
      Cents.fits (walletSum entry.walletId (entries ++ [entry])) = true := by
  have each (id : Ident) :=
    forall_take_concat (fun before => Cents.fits (walletSum id before) = true) entries entry
  refine ⟨fun fit => ⟨fun id => ((each id).1 (fit id)).1, ((each _).1 (fit _)).2⟩,
    fun ⟨fit, last⟩ id => (each id).2 ⟨fit id, ?_⟩⟩
  by_cases own : entry.walletId = id
  · exact own ▸ last
  · rw [walletSum_concat, if_neg own, Int.add_zero]
    exact fit.whole id

end

/-! ## Steady entries -/

/-- True of entries that take the sum of no wallet below zero or beyond the largest amount,
    whichever of them are the last. -/
def Steady (entries : List Entry) : Prop :=
  ∀ id n, 0 ≤ walletSum id (entries.take n) ∧ walletSum id (entries.take n) ≤ Cents.largest

theorem steady_nil : Steady [] := by
  intro id n
  rw [List.take_nil, walletSum_nil]
  exact ⟨Int.le_refl _, by decide⟩

namespace Steady

variable {entries : List Entry}

theorem fit (h : Steady entries) : RunningSumsFit entries := fun id n =>
  Cents.fits_of_nonneg (h id n).1 (h id n).2

/-- An entry moves the sum of its own wallet only, so only that one has to be looked at. -/
theorem concat (h : Steady entries) {entry : Entry}
    (range : 0 ≤ walletSum entry.walletId (entries ++ [entry]) ∧
      walletSum entry.walletId (entries ++ [entry]) ≤ Cents.largest) :
    Steady (entries ++ [entry]) := by
  intro id
  refine (forall_take_concat (fun before =>
    0 ≤ walletSum id before ∧ walletSum id before ≤ Cents.largest) entries entry).2 ⟨h id, ?_⟩
  by_cases own : entry.walletId = id
  · exact own ▸ range
  · have before := h id entries.length
    rw [List.take_length] at before
    rwa [walletSum_concat, if_neg own, Int.add_zero]

/-- When all entries of a wallet go, the sums of the other wallets stay as they were. -/
theorem filter (h : Steady entries) (gone : Ident) :
    Steady (entries.filter (·.walletId ≠ gone)) := by
  intro id n
  -- What the first of the remaining entries are, they are of some of the first entries.
  obtain ⟨first, begins, same⟩ := List.prefix_filter_iff.1 (List.take_prefix n (entries.filter _))
  rw [same, walletSum_eq_sumAt, sumAt_filter_ne, ← walletSum_eq_sumAt,
    List.prefix_iff_eq_take.1 begins]
  split
  · exact ⟨Int.le_refl _, by decide⟩
  · exact h id first.length

/-- Sums depend on nothing of the entries but their wallets and amounts. -/
theorem of_forall₂ (h : Steady entries) {read : List Entry}
    (same : List.Forall₂ (fun stored entry : Entry => entry.walletId = stored.walletId ∧
      entry.signedAmount = stored.signedAmount) entries read) : Steady read := by
  intro id n
  have sums := List.forall₂_take n same
  have equal : walletSum id (read.take n) = walletSum id (entries.take n) := by
    generalize entries.take n = stored, read.take n = found at sums
    induction sums with
    | nil => rfl
    | cons head _ ih => rw [walletSum_cons, walletSum_cons, ih, head.1, head.2]
  rw [equal]
  exact h id n

end Steady

namespace Service

open Store

variable {book : Book}

/-! ## Calls -/

namespace Book

/-- What calls keep true of the balances of a book, whatever their clocks show: they are the sums
    of their entries, they can be stored, and so it was after each of the entries. -/
structure Settled (book : Book) : Prop where
  balanced : book.Balanced
  bounded : book.Bounded
  steady : Steady book.entries

theorem settled_blank : blank.Settled := ⟨balanced_blank, List.forall_mem_nil _, steady_nil⟩

/-- A sum of entries is a balance, and nothing where no wallet is stored. -/
theorem range_of_balanced (sound : book.Sound) (balanced : book.Balanced) (bounded : book.Bounded)
    (id : Ident) : 0 ≤ walletSum id book.entries ∧ walletSum id book.entries ≤ Cents.largest := by
  have same : book.balanceOf id = walletSum id book.entries := Int.sub_eq_zero.1 (balanced id)
  by_cases stored : ∃ w ∈ book.wallets, w.id = id
  · obtain ⟨w, member, rfl⟩ := stored
    rw [← balance_eq_walletSum balanced sound.wallets member]
    exact ⟨sound.balances w member, bounded w member⟩
  · have nothing : book.balanceOf id = 0 :=
      sumAt_eq_zero fun w member own => stored ⟨w, member, own⟩
    rw [← same, nothing]
    exact ⟨Int.le_refl _, by decide⟩

end Book

variable {moment : Moment}

/-- A call that passes its checks makes at most one entry for each wallet, and its wallet's new
    balance is what the entries sum up to then. -/
theorem steady_of_granted {call : Call} {answer : Answer} {writes : List Write}
    (steady : Steady book.entries)
    (range : ∀ id, 0 ≤ walletSum id (book.applyAll writes).entries ∧
      walletSum id (book.applyAll writes).entries ≤ Cents.largest)
    (granted : Granted moment book call answer writes) :
    Steady (book.applyAll writes).entries := by
  cases granted with
  | createWallet named opened => exact steady
  | renameWallet named member read => exact steady
  | @deleteWallet stored wallet member read =>
      change Steady (book.apply (.deleteWallet stored.id)).entries
      rw [Book.apply]
      split
      · exact steady.filter stored.id
      · exact steady
  | createProduct named priced => exact steady
  | updateProduct named priced member read => exact steady
  | @deleteProduct stored member =>
      change Steady (book.apply (.deleteProduct stored.id)).entries
      rw [Book.apply]
      split
      · exact steady.of_forall₂ (List.forall₂_map_right_iff.2 (List.forall₂_same.2 fun entry _ =>
          ⟨walletId_released stored.id entry, signedAmount_released stored.id entry⟩))
      · exact steady
  | credit positive member read room made => exact steady.concat (range _)
  | @transfer storedSender sender storedReceiver receiver amount sent received positive different
      senderMember senderRead receiverMember receiverRead funds room madeSent madeReceived =>
      have apart : received.walletId ≠ sent.walletId := by
        rw [madeSent, madeReceived]
        exact (senderRead.wallet.1.trans_ne (different.trans_eq receiverRead.wallet.1.symm)).symm
      -- The receiver's entry changes nothing for the sender.
      have between := range sent.walletId
      change 0 ≤ walletSum _ ((book.entries ++ [sent]) ++ [received]) ∧
        walletSum _ ((book.entries ++ [sent]) ++ [received]) ≤ _ at between
      rw [walletSum_concat, if_neg apart, Int.add_zero] at between
      exact (steady.concat between).concat (range _)
  | purchase positive walletMember walletRead productMember productRead supplied priced worth funds
      made => exact steady.concat (range _)

theorem Book.settled_of_granted {call : Call} {answer : Answer} {writes : List Write}
    (sound : book.Sound) (settled : book.Settled) (admitted : book.AdmitsAll writes)
    (granted : Granted moment book call answer writes) : (book.applyAll writes).Settled := by
  have balanced := balanced_of_granted sound settled.balanced granted
  have bounded := Book.bounded_applyAll settled.bounded (bounded_of_granted settled.bounded granted)
  have range := Book.range_of_balanced (Book.sound_applyAll sound admitted) balanced bounded
  exact ⟨balanced, bounded, steady_of_granted settled.steady range granted⟩

/-- Calls leave the rows of a settled book. -/
theorem exists_settled_of_run (calls : List (Call × Moment)) :
    ∃ book : Book, book.KeptIn (runCalls calls Database.fresh) ∧ book.Settled := by
  obtain ⟨book, kept, -, settled⟩ := exists_book_of_run (fun _ book => book.Settled) (fun _ => True)
    Book.settled_blank (fun _ held => held)
    (fun _ _ sound _ granted admitted held => Book.settled_of_granted sound held admitted granted)
    (fun _ _ => trivial)
  exact ⟨book, kept, settled⟩

/-- With plain clocks these can also be read back. -/
theorem exists_legible_of_run {calls : List (Call × Moment)} (clocks : ∀ c ∈ calls, c.2.Plain) :
    ∃ book : Book, book.KeptIn (runCalls calls Database.fresh) ∧ book.Sound ∧ book.Legible ∧
      book.Settled :=
  exists_book_of_run (fun _ book => book.Legible ∧ book.Settled) Moment.Plain
    ⟨Book.legible_blank, Book.settled_blank⟩ (fun _ held => held)
    (fun plain _ sound _ granted admitted held =>
      ⟨Book.legible_applyAll held.1 (storable_of_granted plain held.1 granted),
        Book.settled_of_granted sound held.2 admitted granted⟩)
    clocks

/-! ## Checks of the whole ledger -/

section

variable {db : Database}

/-- A listing of all entries brings what the rows say in the order in which they came. -/
theorem findAll_entries (db : Database) :
    findAll Entry [] none db = ofStore (db.entries.mapM readRow) :=
  findAll_of_scan Entry rfl db

/-- The entries of a book are listed as they were made. -/
theorem findAll_entries_of_legible (kept : book.KeptIn db) (legible : book.Legible) :
    findAll Entry [] none db = .ok book.entries := by
  rw [findAll_entries, kept.entries,
    mapM_readRow_toRow fun e member => ofRow_toRow_entry (legible.entries e member)]
  rfl

/-- Whatever the times in the rows of steady entries are read as, the entries are steady. -/
theorem steady_of_reads (kept : book.KeptIn db) (steady : Steady book.entries) {listed : List Entry}
    (read : db.entries.mapM readRow = .ok listed) : Steady listed := by
  rw [kept.entries, mapM_eq_ok, List.forall₂_map_left_iff] at read
  refine steady.of_forall₂ (read.imp fun stored entry reads => ?_)
  obtain ⟨_, rfl⟩ := eq_of_reads_entry (readRow_eq_ok.1 reads)
  exact ⟨rfl, rfl⟩

theorem checkIntegrity_eq_ok {report : IntegrityReport} :
    checkIntegrity db = .ok report ↔ ∃ wallets entries products,
      findAll Wallet [] none db = .ok wallets ∧ findAll Entry [] none db = .ok entries ∧
        findAll Product [] none db = .ok products ∧
        integrityReport wallets entries products = report := by
  simp only [checkIntegrity, bind_eq_ok, ofLookup_eq_ok, pure_eq_ok, exists_and_left]

/-- Where no sum leaves the range, a report compares each balance with the exact sum. -/
theorem mismatches_of_fit {wallets : List Wallet} {entries : List Entry} {products : List Product}
    (fit : RunningSumsFit entries) :
    (integrityReport wallets entries products).mismatches =
      wallets.filterMap fun w => w.mismatch? (walletSum w.id entries) := by
  simp only [integrityReport, of_wrappedSums, wrappedSum_of_fits (fit.whole _)]

end

/-- Whatever the clocks showed, a check of the whole ledger lists the entries in the order in which
    they came, and while it adds them up, one after the other, the sum of no wallet is ever negative
    or beyond the largest amount; so none of its sums of 64 bits ever comes round, and it compares
    every balance with the sum of the entries. With plain clocks the listing succeeds. -/
theorem integrity_sums_of_run (calls : List (Call × Moment)) :
    let db := runCalls calls Database.fresh
    (∀ listed, findAll Entry [] none db = .ok listed →
      db.entries.mapM readRow = .ok listed ∧
      ∀ id n, 0 ≤ walletSum id (listed.take n) ∧
        walletSum id (listed.take n) ≤ Cents.largest ∧
        (wrappedSums (listed.take n)).of id = walletSum id (listed.take n)) ∧
    (∀ report, checkIntegrity db = .ok report → ∃ wallets listed,
      findAll Wallet [] none db = .ok wallets ∧ findAll Entry [] none db = .ok listed ∧
      report.mismatches = wallets.filterMap fun w => w.mismatch? (walletSum w.id listed)) ∧
    ((∀ c ∈ calls, c.2.clock.WellFormed ∧ c.2.clock.InPlainYear) →
      ∃ listed, findAll Entry [] none db = .ok listed ∧ db.entries = listed.map Record.toRow) := by
  intro db
  obtain ⟨book, kept, settled⟩ := exists_settled_of_run calls
  have inOrder {listed : List Entry} (found : findAll Entry [] none db = .ok listed) :
      db.entries.mapM readRow = .ok listed := ofStore_eq_ok.1 (findAll_entries db ▸ found)
  have steady {listed : List Entry} (found : findAll Entry [] none db = .ok listed) :
      Steady listed := steady_of_reads kept settled.steady (inOrder found)
  refine ⟨fun listed found => ⟨inOrder found, fun id n => ?_⟩, fun report checked => ?_,
    fun clocks => ?_⟩
  · obtain ⟨least, most⟩ := steady found id n
    rw [of_wrappedSums]
    exact ⟨least, most, wrappedSum_of_fits ((steady found).fit id n)⟩
  · obtain ⟨wallets, listed, products, listedWallets, found, -, rfl⟩ :=
      checkIntegrity_eq_ok.1 checked
    exact ⟨wallets, listed, listedWallets, found, mismatches_of_fit (steady found).fit⟩
  · obtain ⟨book, kept, -, legible, -⟩ := exists_legible_of_run clocks
    exact ⟨book.entries, findAll_entries_of_legible kept legible, kept.entries⟩

/-- Two wallets are opened; the largest amount is credited, moved on, and credited again. -/
def refilledDay : List (Call × Moment) := [
  (.createWallet default "Main", ⟨⟨0, 0⟩, fun n => .ofBits (2 + n)⟩),
  (.createWallet default "Spare", ⟨⟨60, 0⟩, fun n => .ofBits (3 + n)⟩),
  (.credit ⟨.ofBits 2, Cents.largest⟩, ⟨⟨120, 0⟩, fun n => .ofBits (4 + n)⟩),
  (.transfer ⟨.ofBits 2, .ofBits 3, Cents.largest⟩, ⟨⟨180, 0⟩, fun n => .ofBits (5 + n)⟩),
  (.credit ⟨.ofBits 2, Cents.largest⟩, ⟨⟨240, 0⟩, fun n => .ofBits (7 + n)⟩)]

/-- What was credited comes to more than an amount can be, but no sum of a wallet does. -/
theorem integrity_sums_of_refilledDay :
    let db := runCalls refilledDay Database.fresh
    ∃ listed, findAll Entry [] none db = .ok listed ∧
      Cents.largest < ((listed.filter (·.kind = .income)).map (·.amount)).sum ∧
      (∀ id n, (wrappedSums (listed.take n)).of id = walletSum id (listed.take n)) ∧
      wrappedSums listed = [(.ofBits 2, Cents.largest), (.ofBits 3, Cents.largest)] := by
  intro db
  have clocks : ∀ c ∈ refilledDay, c.2.clock.WellFormed ∧ c.2.clock.InPlainYear := by decide
  obtain ⟨sums, -, lists⟩ := integrity_sums_of_run refilledDay
  obtain ⟨listed, found, -⟩ := lists clocks
  obtain ⟨-, range⟩ := sums listed found
  have counted : (findAll Entry [] none db).map (fun listed =>
      (((listed.filter (·.kind = .income)).map (·.amount)).sum, wrappedSums listed)) =
      .ok (Cents.largest + Cents.largest,
        [(.ofBits 2, Cents.largest), (.ofBits 3, Cents.largest)]) := by
    decide +kernel
  obtain ⟨_, same, both⟩ := map_eq_ok.1 counted
  obtain rfl := Except.ok.inj (found.symm.trans same)
  obtain ⟨credited, total⟩ := Prod.mk.inj both
  refine ⟨listed, found, ?_, fun id n => (range id n).2.2, total⟩
  rw [credited]
  decide

end Service

end Purse
