/-
  Purse.Proofs.Ledger.Pairs

  Transfers are recorded in matching pairs.  Between two wallets that are stored, the one has a leg
  out for every leg in of the other, with the same amount and time, and in the same order
  (`paired_of_run`).

  Removing a wallet leaves the legs of the other side without their match.  They do no harm as long
  as no wallet comes to stand under the same identifier again, so the invariant also says that
  everything an entry names was drawn by an earlier call (`Known`).
-/
import Purse.Proofs.Ledger.History

namespace Purse

open Store

/-- True for the side of a transfer between two wallets that is recorded on the first one. -/
def Entry.isLeg (direction : Direction) (wallet other : Ident) (entry : Entry) : Bool :=
  entry.kind = .transfer ∧ entry.direction = direction ∧ entry.walletId = wallet ∧
    entry.counterpartyId = some other

/-- The amounts and times of the transfers between two wallets in one direction, as they are
    recorded on the first one. -/
def legsOf (direction : Direction) (wallet other : Ident) (entries : List Entry) :
    List (Cents × Instant) :=
  (entries.filter (·.isLeg direction wallet other)).map fun entry => (entry.amount, entry.createdAt)

section

variable {direction : Direction} {wallet other : Ident}

theorem legsOf_append (entries more : List Entry) :
    legsOf direction wallet other (entries ++ more) =
      legsOf direction wallet other entries ++ legsOf direction wallet other more := by
  rw [legsOf, List.filter_append, List.map_append, legsOf, legsOf]

theorem legsOf_of_forall_not {entries : List Entry}
    (h : ∀ e ∈ entries, e.isLeg direction wallet other = false) :
    legsOf direction wallet other entries = [] := by
  rw [legsOf, List.filter_eq_nil_iff.2 fun e member => by simp [h e member]]
  rfl

/-- Entries of other wallets have no part in the legs of a wallet. -/
theorem legsOf_filter_ne {gone : Ident} (different : wallet ≠ gone) (entries : List Entry) :
    legsOf direction wallet other (entries.filter (·.walletId ≠ gone)) =
      legsOf direction wallet other entries := by
  have same : ∀ e ∈ entries, (e.isLeg direction wallet other && decide (e.walletId ≠ gone)) =
      e.isLeg direction wallet other := by
    intro e _
    by_cases leg : e.isLeg direction wallet other = true
    · have on : e.walletId = wallet := (of_decide_eq_true leg).2.2.1
      simp [leg, on, different]
    · simp [leg]
  rw [legsOf, List.filter_filter, List.filter_congr same, legsOf]

end

namespace Service

variable {direction : Direction} {wallet other : Ident}

/-- An entry that loses its product is the same leg as before. -/
theorem legsOf_released (product : Ident) (entries : List Entry) :
    legsOf direction wallet other (entries.map (released product)) =
      legsOf direction wallet other entries := by
  have leg (e : Entry) : (released product e).isLeg direction wallet other =
      e.isLeg direction wallet other := by
    rw [released_eq]
    rfl
  have shown (e : Entry) : ((released product e).amount, (released product e).createdAt) =
      (e.amount, e.createdAt) := by rw [released_eq]
  simp only [legsOf, List.filter_map, List.map_map, Function.comp_def, leg, shown]

/-! ## The invariant -/

/-- The identifiers that calls could draw. -/
def identsOf (events : List Event) : List Ident :=
  events.flatMap fun event => [event.moment.ids 0, event.moment.ids 1]

theorem identsOf_append (events : List Event) (event : Event) :
    identsOf (events ++ [event]) = identsOf events ++ [event.moment.ids 0, event.moment.ids 1] := by
  rw [identsOf, List.flatMap_append, List.flatMap_singleton, identsOf]

theorem identsOf_history (calls : List (Call × Moment)) (db : Database) :
    identsOf (history calls db) = calls.flatMap fun c => [c.2.ids 0, c.2.ids 1] := by
  induction calls generalizing db with
  | nil => rfl
  | cons c calls ih => exact congrArg _ (ih _)

/-- True for a write that names only wallets among some identifiers. -/
def Write.Names (ids : List Ident) : Write → Prop
  | .createWallet wallet => wallet.id ∈ ids
  | .createEntry entry => entry.walletId ∈ ids ∧ ∀ id ∈ entry.counterpartyId, id ∈ ids
  | _ => True

namespace Book

/-- The identifiers of the wallets. -/
def walletIds (book : Book) : List Ident := book.wallets.map Record.ident

/-- True when all wallets that a book has or names in its entries are among some identifiers. -/
structure Known (book : Book) (ids : List Ident) : Prop where
  wallets : ∀ id ∈ book.walletIds, id ∈ ids
  entries : ∀ e ∈ book.entries, e.walletId ∈ ids ∧ ∀ id ∈ e.counterpartyId, id ∈ ids

/-- True when the transfers between any two wallets have both their sides. -/
def Paired (book : Book) : Prop :=
  ∀ a ∈ book.walletIds, ∀ b ∈ book.walletIds, a ≠ b →
    legsOf .outward a b book.entries = legsOf .inward b a book.entries

theorem known_blank : blank.Known [] :=
  ⟨List.forall_mem_nil _, List.forall_mem_nil _⟩

theorem paired_blank : blank.Paired := List.forall_mem_nil _

variable {book : Book} {ids : List Ident}

theorem Known.mono {more : List Ident} (h : book.Known ids) : book.Known (ids ++ more) where
  wallets id member := List.mem_append_left _ (h.wallets id member)
  entries e member := by
    obtain ⟨owner, counterparty⟩ := h.entries e member
    exact ⟨List.mem_append_left _ owner,
      fun id named => List.mem_append_left _ (counterparty id named)⟩

/-- No entry names an identifier that is not known, so no leg is missing under it. -/
theorem legsOf_eq_nil_of_unknown (known : book.Known ids) {wallet other : Ident}
    (new : wallet ∉ ids ∨ other ∉ ids) : legsOf direction wallet other book.entries = [] := by
  refine legsOf_of_forall_not fun e member => Bool.eq_false_iff.2 fun leg => ?_
  obtain ⟨-, -, rfl, named⟩ := of_decide_eq_true leg
  obtain ⟨owner, counterparty⟩ := known.entries e member
  rcases new with new | new
  · exact new owner
  · exact new (counterparty other named)

/-! ## Writes -/

theorem walletIds_updateWallet (book : Book) (wallet : Wallet) :
    (book.apply (.updateWallet wallet)).walletIds = book.walletIds :=
  ident_putRecord wallet book.wallets

theorem known_released (h : book.Known ids) (product : Ident) :
    ∀ e ∈ book.entries.map (released product), e.walletId ∈ ids ∧
      ∀ id ∈ e.counterpartyId, id ∈ ids := by
  intro e there
  obtain ⟨stored, member, rfl⟩ := List.mem_map.1 there
  rw [released_eq]
  exact h.entries stored member

theorem known_apply (h : book.Known ids) {write : Write} (names : write.Names ids) :
    (book.apply write).Known ids := by
  cases write with
  | createWallet wallet =>
      refine ⟨fun id member => ?_, h.entries⟩
      have split : (book.apply (.createWallet wallet)).walletIds = book.walletIds ++ [wallet.id] :=
        List.map_append
      rw [split] at member
      exact List.forall_mem_append.2 ⟨h.wallets, List.forall_mem_singleton.2 names⟩ id member
  | updateWallet wallet =>
      refine ⟨fun id member => ?_, h.entries⟩
      rw [walletIds_updateWallet] at member
      exact h.wallets id member
  | createProduct product => exact ⟨h.wallets, h.entries⟩
  | updateProduct product => exact ⟨h.wallets, h.entries⟩
  | createEntry entry =>
      exact ⟨h.wallets, List.forall_mem_append.2 ⟨h.entries, List.forall_mem_singleton.2 names⟩⟩
  | deleteWallet id =>
      rw [apply]
      split
      · refine ⟨fun other there => ?_, fun e member => h.entries e (List.mem_of_mem_filter member)⟩
        obtain ⟨w, member, rfl⟩ := List.mem_map.1 there
        exact h.wallets _ (List.mem_map_of_mem (List.mem_of_mem_filter member))
      · exact h
  | deleteProduct id =>
      rw [apply]
      split
      · exact ⟨h.wallets, known_released h id⟩
      · exact h

theorem known_applyAll (h : book.Known ids) {writes : List Write}
    (names : ∀ write ∈ writes, write.Names ids) : (book.applyAll writes).Known ids := by
  -- Each write meets a book of which all wallets are known.
  induction writes generalizing book with
  | nil => exact h
  | cons write writes ih =>
      obtain ⟨first, rest⟩ := List.forall_mem_cons.1 names
      exact ih (known_apply h first) rest

theorem paired_createWallet (paired : book.Paired) (known : book.Known ids) {wallet : Wallet}
    (new : wallet.id ∉ ids) : (book.apply (.createWallet wallet)).Paired := by
  intro a ha b hb different
  have split : (book.apply (.createWallet wallet)).walletIds = book.walletIds ++ [wallet.id] :=
    List.map_append
  have same : (book.apply (.createWallet wallet)).entries = book.entries := rfl
  rw [split, List.mem_append, List.mem_singleton] at ha hb
  rw [same]
  -- Of the new wallet there is no leg on either side.
  rcases ha with ha | rfl
  · rcases hb with hb | rfl
    · exact paired a ha b hb different
    · rw [legsOf_eq_nil_of_unknown known (.inr new), legsOf_eq_nil_of_unknown known (.inl new)]
  · rw [legsOf_eq_nil_of_unknown known (.inl new), legsOf_eq_nil_of_unknown known (.inr new)]

theorem paired_updateWallet (paired : book.Paired) (wallet : Wallet) :
    (book.apply (.updateWallet wallet)).Paired := by
  intro a ha b hb
  rw [walletIds_updateWallet] at ha hb
  exact paired a ha b hb

theorem paired_deleteWallet (paired : book.Paired) (id : Ident) :
    (book.apply (.deleteWallet id)).Paired := by
  rw [apply]
  split
  · intro a ha b hb different
    -- The wallets that stay are other ones than the one that goes.
    have stays : ∀ c ∈ (book.withoutWallet id).walletIds, c ∈ book.walletIds ∧ c ≠ id := by
      intro c hc
      obtain ⟨w, member, rfl⟩ := List.mem_map.1 hc
      obtain ⟨member, other⟩ := List.mem_filter.1 member
      exact ⟨List.mem_map_of_mem member, of_decide_eq_true other⟩
    obtain ⟨ha, hne⟩ := stays a ha
    obtain ⟨hb, hne'⟩ := stays b hb
    simp only [withoutWallet]
    rw [legsOf_filter_ne hne, legsOf_filter_ne hne']
    exact paired a ha b hb different
  · exact paired

theorem paired_deleteProduct (paired : book.Paired) (id : Ident) :
    (book.apply (.deleteProduct id)).Paired := by
  rw [apply]
  split
  · intro a ha b hb different
    simp only [withoutProduct, legsOf_released]
    exact paired a ha b hb different
  · exact paired

/-- An entry that is no side of a transfer changes nothing between wallets. -/
theorem paired_createEntry (paired : book.Paired) {entry : Entry} (kind : entry.kind ≠ .transfer) :
    (book.apply (.createEntry entry)).Paired := by
  intro a ha b hb different
  have none (direction : Direction) (wallet other : Ident) :
      legsOf direction wallet other [entry] = [] :=
    legsOf_of_forall_not fun e member => by
      rw [List.mem_singleton.1 member]
      simp [Entry.isLeg, kind]
  simp only [apply, legsOf_append, none, List.append_nil]
  exact paired a ha b hb different

end Book

/-! ## Calls -/

/-- The two sides of a transfer: the leg out on the sender stands for the same two wallets as the
    leg in on the receiver. -/
theorem legsOf_sides (first second senderId receiverId : Ident) (senderName receiverName : String)
    (amount : Cents) (now : Instant) (a b : Ident) :
    let sides := [sentEntry first senderId receiverId receiverName amount now,
      receivedEntry second receiverId senderId senderName amount now]
    legsOf .outward a b sides = legsOf .inward b a sides := by
  by_cases here : senderId = a ∧ receiverId = b
  · obtain ⟨rfl, rfl⟩ := here
    simp [legsOf, Entry.isLeg, sentEntry, receivedEntry]
  · have there : ¬ (receiverId = b ∧ senderId = a) := fun h => here h.symm
    simp [legsOf, Entry.isLeg, sentEntry, receivedEntry, here, there]

theorem paired_of_granted {moment : Moment} {book : Book} {call : Call} {answer : Answer}
    {writes : List Write} {ids : List Ident} (paired : book.Paired) (known : book.Known ids)
    (new : moment.ids 0 ∉ ids) (granted : Granted moment book call answer writes) :
    (book.applyAll writes).Paired := by
  cases granted with
  | createWallet named opened =>
      subst opened
      exact Book.paired_createWallet paired known new
  | renameWallet named member read => exact Book.paired_updateWallet paired _
  | deleteWallet member read => exact Book.paired_deleteWallet paired _
  | createProduct named priced => exact paired
  | updateProduct named priced member read => exact paired
  | deleteProduct member => exact Book.paired_deleteProduct paired _
  | credit positive member read room made =>
      subst made
      exact Book.paired_updateWallet (Book.paired_createEntry paired (by simp [incomeEntry])) _
  | @transfer storedSender sender storedReceiver receiver amount sent received positive different
      senderMember senderRead receiverMember receiverRead funds room madeSent madeReceived =>
      let left := sender.decrease amount moment.now
      let gained := receiver.increase amount moment.now
      intro a ha b hb other
      -- Both wallets are replaced, so the same ones are stored as before.
      have stored : (book.applyAll [.createEntry sent, .updateWallet left, .createEntry received,
          .updateWallet gained]).walletIds = book.walletIds :=
        (ident_putRecord gained _).trans (ident_putRecord left _)
      have entered : (book.applyAll [.createEntry sent, .updateWallet left, .createEntry received,
          .updateWallet gained]).entries = book.entries ++ [sent, received] :=
        List.append_assoc book.entries [sent] [received]
      rw [stored] at ha hb
      rw [entered, legsOf_append, legsOf_append, paired a ha b hb other]
      subst madeSent madeReceived
      exact congrArg _ (legsOf_sides _ _ _ _ _ _ _ _ a b)
  | purchase positive walletMember walletRead productMember productRead supplied priced worth funds
      made =>
      subst made
      exact Book.paired_createEntry (Book.paired_updateWallet paired _) (by simp [expenseEntry])

/-- A call that succeeds names only wallets that it found and the one that it opens. -/
theorem names_of_granted {moment : Moment} {book : Book} {call : Call} {answer : Answer}
    {writes : List Write} {ids : List Ident} (known : book.Known ids)
    (granted : Granted moment book call answer writes) :
    ∀ write ∈ writes, write.Names (ids ++ [moment.ids 0, moment.ids 1]) := by
  have stored {wallet read : Wallet} (member : wallet ∈ book.wallets)
      (readsAs : ReadsAs wallet read) : read.id ∈ ids ++ [moment.ids 0, moment.ids 1] := by
    rw [readsAs.wallet.1]
    exact List.mem_append_left _ (known.wallets _ (List.mem_map_of_mem member))
  cases granted with
  | createWallet named opened =>
      subst opened
      exact List.forall_mem_singleton.2 (List.mem_append_right _ List.mem_cons_self)
  | renameWallet named member read => exact List.forall_mem_singleton.2 trivial
  | deleteWallet member read => exact List.forall_mem_singleton.2 trivial
  | createProduct named priced => exact List.forall_mem_singleton.2 trivial
  | updateProduct named priced member read => exact List.forall_mem_singleton.2 trivial
  | deleteProduct member => exact List.forall_mem_singleton.2 trivial
  | credit positive member read room made =>
      subst made
      exact List.forall_mem_cons.2 ⟨⟨stored member read, by simp [incomeEntry]⟩,
        List.forall_mem_singleton.2 trivial⟩
  | transfer positive different senderMember senderRead receiverMember receiverRead funds room
      madeSent madeReceived =>
      subst madeSent madeReceived
      have sender := stored senderMember senderRead
      have receiver := stored receiverMember receiverRead
      exact List.forall_mem_cons.2 ⟨⟨sender, fun id named => Option.some.inj named ▸ receiver⟩,
        List.forall_mem_cons.2 ⟨trivial, List.forall_mem_cons.2
          ⟨⟨receiver, fun id named => Option.some.inj named ▸ sender⟩,
            List.forall_mem_singleton.2 trivial⟩⟩⟩
  | purchase positive walletMember walletRead productMember productRead supplied priced worth funds
      made =>
      subst made
      exact List.forall_mem_cons.2 ⟨trivial, List.forall_mem_cons.2 ⟨trivial,
        List.forall_mem_singleton.2 ⟨stored walletMember walletRead, by simp [expenseEntry]⟩⟩⟩

/-! ## Runs -/

/-- In a run that draws no identifier twice, the transfers between any two wallets have both their
    sides. -/
theorem exists_paired_book {calls : List (Call × Moment)}
    (idents : (calls.flatMap fun c => [c.2.ids 0, c.2.ids 1]).Nodup) :
    ∃ book : Book, book.KeptIn (runCalls calls Database.fresh) ∧ book.Paired := by
  obtain ⟨book, kept, -, held⟩ := exists_book_of_run
    (fun events book => (identsOf events).Nodup → book.Paired ∧ book.Known (identsOf events))
    (fun _ => True)
    (fun _ => ⟨Book.paired_blank, Book.known_blank⟩)
    (fun _ held distinct => by
      rw [identsOf_append] at distinct ⊢
      obtain ⟨paired, known⟩ := held (List.nodup_append.1 distinct).1
      exact ⟨paired, known.mono⟩)
    (fun _ _ _ _ granted _ held distinct => by
      rw [identsOf_append] at distinct ⊢
      obtain ⟨before, -, apart⟩ := List.nodup_append.1 distinct
      obtain ⟨paired, known⟩ := held before
      have new := fun drawn => apart _ drawn _ List.mem_cons_self rfl
      exact ⟨paired_of_granted paired known new granted,
        Book.known_applyAll known.mono (names_of_granted known granted)⟩)
    (fun c (_ : c ∈ calls) => trivial)
  have distinct : (identsOf (history calls Database.fresh)).Nodup := by
    rw [identsOf_history]
    exact idents
  exact ⟨book, kept, (held distinct).1⟩

/-- The amounts and times of the transfers between two wallets in one direction, as the rows on
    the first one show them. -/
def transfersOf (db : Database) (direction : Direction) (wallet other : String) :
    List (Cell × String) :=
  (db.entries.filter fun row => row.kind = EntryKind.transfer.word ∧
    row.direction = direction.word ∧ row.walletId = wallet ∧
      row.counterpartyId = some other).map fun row => (row.amount, row.createdAt)

theorem transfersOf_text {book : Book} {db : Database} (kept : book.KeptIn db)
    (direction : Direction) (wallet other : Ident) :
    transfersOf db direction wallet.text other.text =
      (legsOf direction wallet other book.entries).map fun leg => (.integer leg.1, leg.2.text) := by
  have kind (k : EntryKind) : k.word = EntryKind.transfer.word ↔ k = .transfer := by
    cases k <;> decide
  have side (d : Direction) : d.word = direction.word ↔ d = direction := by
    cases d <;> cases direction <;> decide
  simp only [transfersOf, legsOf, kept.entries, List.filter_map, List.map_map, Function.comp_def,
    Record.toRow, Entry.isLeg, kind, side, Ident.text_inj, Option.map_eq_some_iff,
    exists_eq_right]

/-- After calls that draw no identifier twice, whatever their clocks show, each of two stored
    wallets shows for every transfer that it sent to the other one what the other one shows as
    received from it: the same amount at the same time, in the same order. -/
theorem paired_of_run {calls : List (Call × Moment)}
    (idents : (calls.flatMap fun c => [c.2.ids 0, c.2.ids 1]).Nodup) :
    let db := runCalls calls Database.fresh
    ∀ a ∈ db.wallets, ∀ b ∈ db.wallets, a.id ≠ b.id →
      transfersOf db .outward a.id b.id = transfersOf db .inward b.id a.id := by
  obtain ⟨book, kept, paired⟩ := exists_paired_book idents
  intro db a ha b hb different
  rw [kept.wallets] at ha hb
  obtain ⟨sender, senderMember, rfl⟩ := List.mem_map.1 ha
  obtain ⟨receiver, receiverMember, rfl⟩ := List.mem_map.1 hb
  have other : sender.id ≠ receiver.id := fun same => different (congrArg Ident.text same)
  have legs := paired sender.id (List.mem_map_of_mem senderMember) receiver.id
    (List.mem_map_of_mem receiverMember) other
  exact (transfersOf_text kept _ _ _).trans
    ((congrArg _ legs).trans (transfersOf_text kept _ _ _).symm)

/-- Two wallets are opened, one of them is credited, and it sends something to the other one. -/
def firstTransfer : List (Call × Moment) :=
  let moment (second : Int) (first : Nat) : Moment := ⟨⟨second, 0⟩, fun n => .ofBits (first + n)⟩
  [(.createWallet default "Main", moment 0 2), (.createWallet default "Savings", moment 1 4),
    (.credit ⟨.ofBits 2, 500⟩, moment 2 6), (.transfer ⟨.ofBits 2, .ofBits 4, 200⟩, moment 60 8)]

/-- What the first wallet shows as sent to the second one, that one shows as received. -/
theorem paired_of_first_transfer :
    ((runCalls firstTransfer Database.fresh).wallets.map (·.id) =
        [(Ident.ofBits 2).text, (Ident.ofBits 4).text] ∧
      transfersOf (runCalls firstTransfer Database.fresh) .outward (Ident.ofBits 2).text
        (Ident.ofBits 4).text = [(.integer 200, "1970-01-01T00:01:00Z")]) ∧
    ∀ a ∈ (runCalls firstTransfer Database.fresh).wallets,
      ∀ b ∈ (runCalls firstTransfer Database.fresh).wallets, a.id ≠ b.id →
        transfersOf (runCalls firstTransfer Database.fresh) .outward a.id b.id =
          transfersOf (runCalls firstTransfer Database.fresh) .inward b.id a.id := by
  have idents : (firstTransfer.flatMap fun c => [c.2.ids 0, c.2.ids 1]).Nodup := by
    decide +kernel
  exact ⟨by decide +kernel, paired_of_run idents⟩

end Service

end Purse
