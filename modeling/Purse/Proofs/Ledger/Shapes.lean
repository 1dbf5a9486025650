/-
  Purse.Proofs.Ledger.Shapes

  What stored entries look like.  Every entry was added by some call, which fixed all of it but its
  reference to a product (`Recorded`), and the calls after that took away this reference or nothing
  (`eq_of_leftOf`).  So a stored entry has the shape of an income, of one side of a transfer between
  two wallets, or of an expense for a product that is stored as long as nobody removed it
  (`shaped_of_run`).
-/
import Purse.Proofs.Ledger.AppendOnly
import Purse.Proofs.Service.Writers

namespace Purse.Service

open Store

/-! ## Where entries come from -/

/-- An entry that a call adds, by what it asks for. -/
inductive Recorded : Call → Entry → Prop
  | income {request : CreditRequest} {id : Ident} {now : Instant} :
      Recorded (.credit request) (incomeEntry id request.walletId request.amount now)
  | sent {request : TransferRequest} {id : Ident} {name : String} {now : Instant}
      (different : request.senderId ≠ request.receiverId) :
      Recorded (.transfer request)
        (sentEntry id request.senderId request.receiverId name request.amount now)
  | received {request : TransferRequest} {id : Ident} {name : String} {now : Instant}
      (different : request.senderId ≠ request.receiverId) :
      Recorded (.transfer request)
        (receivedEntry id request.receiverId request.senderId name request.amount now)
  | expense {request : PurchaseRequest} {id : Ident} {name : String} {total : Cents}
      {now : Instant} :
      Recorded (.purchase request)
        (expenseEntry id request.walletId request.productId name request.quantity total now)

theorem recorded_of_granted {moment : Moment} {book : Book} {call : Call} {answer : Answer}
    {writes : List Write} (granted : Granted moment book call answer writes) :
    ∀ made ∈ answer.entries, Recorded call made := by
  -- Only the calls that move money answer with entries; the records that they read have the
  -- identifiers that were asked for.
  cases granted with
  | createWallet named opened => exact List.forall_mem_nil _
  | renameWallet named member read => exact List.forall_mem_nil _
  | deleteWallet member read => exact List.forall_mem_nil _
  | createProduct named priced => exact List.forall_mem_nil _
  | updateProduct named priced member read => exact List.forall_mem_nil _
  | deleteProduct member => exact List.forall_mem_nil _
  | credit positive member read room made =>
      rw [made, read.wallet.1]
      exact List.forall_mem_singleton.2 .income
  | transfer positive different senderMember senderRead receiverMember receiverRead funds room
      madeSent madeReceived =>
      rw [madeSent, madeReceived, senderRead.wallet.1, receiverRead.wallet.1]
      exact List.forall_mem_cons.2 ⟨.sent different, List.forall_mem_singleton.2
        (.received different)⟩
  | purchase positive walletMember walletRead productMember productRead supplied priced worth funds
      made =>
      rw [made, walletRead.wallet.1, productRead.product.1]
      exact List.forall_mem_singleton.2 .expense

/-- A stored entry was added by a call, and is what the later calls left of it. -/
theorem exists_made_of_mem {events : List Event} {row : EntryRow} (member : row ∈ ledgerOf events) :
    ∃ (earlier later : List Event) (event : Event) (made : Entry),
      events = earlier ++ event :: later ∧ made ∈ event.added ∧
      leftOf later (Record.toRow made) = some row := by
  -- It was added by the first call and left by all the others, or it was added by one of those.
  induction events with
  | nil => cases member
  | cons event later ih =>
      rcases List.mem_append.1 member with member | member
      · obtain ⟨added, there, left⟩ := List.mem_filterMap.1 member
        obtain ⟨made, answered, rfl⟩ := List.mem_map.1 there
        exact ⟨[], later, event, made, rfl, answered, left⟩
      · obtain ⟨earlier, rest, maker, made, rfl, answered, left⟩ := ih member
        exact ⟨event :: earlier, rest, maker, made, rfl, answered, left⟩

/-- Calls leave an entry as it is, but for its reference to a product that one of them removed. -/
theorem eq_of_leftOf {events : List Event} {row left : EntryRow}
    (h : leftOf events row = some left) :
    left = { row with
      productId := row.productId.filter fun key => !events.any (·.removesProduct key) } := by
  unfold leftOf at h
  split at h
  · cases h
  -- The wallet is still there, so the product decides what is left.
  · cases hproduct : row.productId with
    | none =>
        simp only [hproduct, Option.any_none, Bool.false_eq_true, if_false,
          Option.some.injEq] at h
        rw [← h, Option.filter_none, ← hproduct]
    | some key =>
        simp only [hproduct, Option.any_some] at h
        rw [Option.filter_some]
        split at h
        · next lost => simp [← Option.some.inj h, lost]
        · next stays => simp [← Option.some.inj h, stays, ← hproduct]

/-! ## Shapes -/

/-- True of a row from a purchase, if it refers to the product that was bought or, once that was
    removed, to none. -/
def BoughtIn (events : List Event) (row : EntryRow) : Prop :=
  ∃ (earlier later : List Event) (event : Event) (request : PurchaseRequest) (bought : Entry),
    events = earlier ++ event :: later ∧ event.call = .purchase request ∧
    bought ∈ event.added ∧ bought.id.text = row.id ∧
    row.productId = if later.any (·.removesProduct request.productId.text) then none
      else some request.productId.text

/-- The shapes of stored entries after what happened. -/
inductive Shaped (events : List Event) (row : EntryRow) : Prop
  | income (kind : row.kind = EntryKind.income.word)
      (direction : row.direction = Direction.inward.word) (product : row.productId = none)
      (counterparty : row.counterpartyId = none)
  | transfer (kind : row.kind = EntryKind.transfer.word) (product : row.productId = none)
      (counterparty : ∃ other, row.counterpartyId = some other ∧ other ≠ row.walletId)
  | expense (kind : row.kind = EntryKind.expense.word)
      (direction : row.direction = Direction.outward.word)
      (counterparty : row.counterpartyId = none) (product : BoughtIn events row)

theorem shaped_of_recorded {earlier later : List Event} {event : Event} {made : Entry}
    {row : EntryRow} (added : made ∈ event.added) (recorded : Recorded event.call made)
    (left : leftOf later (Record.toRow made) = some row) :
    Shaped (earlier ++ event :: later) row := by
  obtain rfl := eq_of_leftOf left
  generalize asked : event.call = call at recorded
  cases recorded with
  | income => exact .income rfl rfl rfl rfl
  | sent different =>
      exact .transfer rfl rfl ⟨_, rfl, fun same => different (Ident.text_inj.1 same).symm⟩
  | received different =>
      exact .transfer rfl rfl ⟨_, rfl, fun same => different (Ident.text_inj.1 same)⟩
  | @expense request id name total now =>
      refine .expense rfl rfl rfl ⟨earlier, later, event, request, _, rfl, asked, added, rfl, ?_⟩
      cases lost : later.any (·.removesProduct request.productId.text) <;>
        simp [Record.toRow, expenseEntry, Option.filter_some, lost]

/-! ## Runs -/

/-- Every entry that a call of a run answered with is one that it asked for, and what the run
    leaves is intact. -/
theorem exists_recorded_of_run (calls : List (Call × Moment)) :
    ∃ book : Book, book.KeptIn (runCalls calls Database.fresh) ∧ book.Intact ∧
      ∀ event ∈ history calls Database.fresh, ∀ made ∈ event.added, Recorded event.call made := by
  obtain ⟨book, kept, -, intact, recorded⟩ := exists_book_of_run
    (fun events book => book.Intact ∧
      ∀ event ∈ events, ∀ made ∈ event.added, Recorded event.call made)
    (fun _ => True) ⟨Book.intact_blank, List.forall_mem_nil _⟩
    (fun failed ⟨intact, recorded⟩ => by
      refine ⟨intact, List.forall_mem_append.2 ⟨recorded, List.forall_mem_singleton.2 ?_⟩⟩
      rw [Event.added_of_error failed]
      exact List.forall_mem_nil _)
    (fun _ _ _ ok granted admitted ⟨intact, recorded⟩ => by
      refine ⟨Book.intact_applyAll intact admitted,
        List.forall_mem_append.2 ⟨recorded, List.forall_mem_singleton.2 ?_⟩⟩
      rw [Event.added_of_ok ok]
      exact recorded_of_granted granted)
    (fun c (_ : c ∈ calls) => trivial)
  exact ⟨book, kept, intact, recorded⟩

theorem shaped_of_mem {calls : List (Call × Moment)} {row : EntryRow}
    (recorded : ∀ event ∈ history calls Database.fresh, ∀ made ∈ event.added,
      Recorded event.call made) (stored : row ∈ (runCalls calls Database.fresh).entries) :
    Shaped (history calls Database.fresh) row := by
  rw [ledger_runCalls Book.keptIn_fresh calls] at stored
  obtain ⟨earlier, later, event, made, whole, added, left⟩ := exists_made_of_mem stored
  have happened : event ∈ history calls Database.fresh := by
    rw [whole]
    exact List.mem_append_right _ (List.mem_cons_self ..)
  rw [whole]
  exact shaped_of_recorded added (recorded event happened made added) left

/-- After every run of calls, whether they succeeded or failed, every stored entry has a positive
    amount and a stored wallet, refers to no product that is not stored, and has one of the three
    shapes. -/
theorem shaped_of_run (calls : List (Call × Moment)) :
    let db := runCalls calls Database.fresh
    ∀ row ∈ db.entries,
      (∃ amount : Cents, 0 < amount ∧ row.amount = .integer amount) ∧
      (∃ wallet ∈ db.wallets, wallet.id = row.walletId) ∧
      (∀ key ∈ row.productId, ∃ product ∈ db.products, product.id = key) ∧
      Shaped (history calls Database.fresh) row := by
  intro db row stored
  obtain ⟨book, kept, intact, recorded⟩ := exists_recorded_of_run calls
  have shaped := shaped_of_mem recorded stored
  obtain ⟨entry, member, rfl⟩ := List.mem_map.1 (kept.entries ▸ stored)
  obtain ⟨positive, ⟨wallet, owns, same⟩, product⟩ := intact.anchored entry member
  refine ⟨⟨entry.amount, positive, rfl⟩, ⟨Record.toRow wallet, ?_, congrArg Ident.text same⟩, ?_,
    shaped⟩
  · exact kept.wallets ▸ List.mem_map_of_mem owns
  · intro key reference
    obtain ⟨id, bought, rfl⟩ := Option.mem_map.1 reference
    obtain ⟨p, sold, rfl⟩ := product id bought
    exact ⟨Record.toRow p, kept.products ▸ List.mem_map_of_mem sold, rfl⟩

end Purse.Service
