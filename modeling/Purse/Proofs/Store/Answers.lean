/-
  Purse.Proofs.Store.Answers

  What a listing answers.  From rows that were written as records a query brings exactly the
  records that meet all its conditions, each as often as it is stored, in the order of its sort
  rule (`findAll_answers`).  Conditions and sort rules are understood as in
  `Purse.Proofs.Query.Meaning`: by the values of the records, not by the cells of the rows.
-/
import Purse.Proofs.Query.Meaning

namespace Purse

/-! ## Times to the whole second -/

/-- The wallet with its times to the whole second. -/
def Wallet.truncate (wallet : Wallet) : Wallet :=
  { wallet with
    lastMovedAt := wallet.lastMovedAt.map Instant.truncate
    createdAt := wallet.createdAt.truncate }

/-- The product with its times to the whole second. -/
def Product.truncate (product : Product) : Product :=
  { product with
    createdAt := product.createdAt.truncate, updatedAt := product.updatedAt.truncate }

/-- The entry with its time to the whole second. -/
def Entry.truncate (entry : Entry) : Entry :=
  { entry with createdAt := entry.createdAt.truncate }

namespace Store

open Query

/-! ## Records by their values -/

/-- A record described by the values of its fields. -/
class Described (α : Type) where
  /-- The times that the record holds. -/
  times : α → List Instant
  /-- The value of a field, when the record has one there. -/
  value : α → String → Option FieldValue

instance : Described Wallet where
  times wallet := wallet.createdAt :: wallet.lastMovedAt.toList
  value wallet
    | "id" => some (.ident wallet.id)
    | "name" => some (.text wallet.name)
    | "owner_id" => some (.ident wallet.ownerId)
    | "balance" => some (.number wallet.balance)
    | "last_transaction_at" => wallet.lastMovedAt.map .instant
    | "created_at" => some (.instant wallet.createdAt)
    | _ => none

instance : Described Product where
  times product := [product.createdAt, product.updatedAt]
  value product
    | "id" => some (.ident product.id)
    | "name" => some (.text product.name)
    | "description" => product.description.map .text
    | "price" => some (.number product.price)
    | "quantity" => some (.number product.quantity.toNat)
    | "available" => some (.flag product.available)
    | "created_at" => some (.instant product.createdAt)
    | "updated_at" => some (.instant product.updatedAt)
    | _ => none

instance : Described Entry where
  times entry := [entry.createdAt]
  value entry
    | "id" => some (.ident entry.id)
    | "kind" => some (.text entry.kind.word)
    | "direction" => some (.text entry.direction.word)
    | "amount" => some (.number entry.amount)
    | "description" => some (.text entry.description)
    | "wallet_id" => some (.ident entry.walletId)
    | "product_id" => entry.productId.map .ident
    | "counterparty_wallet_id" => entry.counterpartyId.map .ident
    | "created_at" => some (.instant entry.createdAt)
    | _ => none

/-- Records whose times can be cut to the whole second. Their rows show nothing below it. -/
class Truncates (α : Type) {ρ : outParam Type} [Table ρ] [Record α ρ] [Described α] where
  truncate : α → α
  toRow_truncate (a : α) : Record.toRow (truncate a) = Record.toRow a
  times_truncate (a : α) :
    Described.times (truncate a) = (Described.times a).map Instant.truncate

instance : Truncates Wallet where
  truncate := Wallet.truncate
  toRow_truncate wallet := by
    simp only [Record.toRow, Wallet.truncate, Instant.text_truncate, Option.map_map,
      Function.comp_def]
  times_truncate wallet := by
    simp only [Described.times, Wallet.truncate, List.map_cons, Option.toList_map]

instance : Truncates Product where
  truncate := Product.truncate
  toRow_truncate product := by simp only [Record.toRow, Product.truncate, Instant.text_truncate]
  times_truncate _ := rfl

instance : Truncates Entry where
  truncate := Entry.truncate
  toRow_truncate entry := by simp only [Record.toRow, Entry.truncate, Instant.text_truncate]
  times_truncate _ := rfl

/-- To the whole second every record with plain years has times that can be stored. -/
theorem storable_truncate {α ρ : Type} [Table ρ] [Record α ρ] [Described α] [Truncates α] {a : α}
    (plain : ∀ t ∈ Described.times a, t.WellFormed ∧ t.InPlainYear) :
    ∀ t ∈ Described.times (Truncates.truncate a), t.Storable := by
  rw [Truncates.times_truncate]
  exact List.forall_mem_map.2 fun t member =>
    Instant.storable_truncate (plain t member).1 (plain t member).2

/-- The laws of a described record: the row of any record is that of one with whole times, which
    is read back from it and whose values the row shows. -/
class LawfulDescribed (α : Type) {ρ : outParam Type} [Table ρ] [Record α ρ] [Described α] :
    Prop where
  exists_storable (a : α) (plain : ∀ t ∈ Described.times a, t.WellFormed ∧ t.InPlainYear) :
    ∃ b : α, (∀ t ∈ Described.times b, t.Storable) ∧ Record.toRow b = Record.toRow a
  ofRow_toRow (a : α) (storable : ∀ t ∈ Described.times a, t.Storable) :
    Record.ofRow (Record.toRow a) = .ok a
  shows (a : α) (storable : ∀ t ∈ Described.times a, t.Storable) :
    Shows (Record.fields α) (Table.cell (Record.toRow a)) (Described.value a)

theorem shows_ofText? {β : Type} {kind : FieldKind} {text : β → String} {make : β → FieldValue}
    {value : Option β} (same : ∀ b, (make b).cell = .text (text b))
    (has : ∀ b ∈ value, kind.Has (make b)) :
    kind.Shows (.ofText? (value.map text)) (value.map make) := by
  cases value with
  | none => exact .null
  | some b =>
      rw [Option.map_some, Option.map_some, Cell.ofText?, ← same b]
      exact .value (has b rfl)

instance : LawfulDescribed Wallet where
  exists_storable wallet plain :=
    ⟨wallet.truncate, storable_truncate plain, Truncates.toRow_truncate wallet⟩
  ofRow_toRow wallet storable := by
    obtain ⟨created, moved⟩ := List.forall_mem_cons.1 storable
    exact ofRow_toRow_wallet ⟨fun t member => moved t (Option.mem_toList.2 member), created⟩
  shows wallet storable := by
    obtain ⟨created, moved⟩ := List.forall_mem_cons.1 storable
    simp only [Shows, Record.fields, List.forall_mem_cons]
    refine ⟨.value (.ident wallet.id), .value (.text wallet.name), .value (.ident wallet.ownerId),
      .value (.money wallet.balance), ?_, .value (.instant created), List.forall_mem_nil _⟩
    exact shows_ofText? (fun _ => rfl) fun t stored =>
      .instant (moved t (Option.mem_toList.2 stored))

instance : LawfulDescribed Product where
  exists_storable product plain :=
    ⟨product.truncate, storable_truncate plain, Truncates.toRow_truncate product⟩
  ofRow_toRow product storable := by
    obtain ⟨created, updated⟩ := List.forall_mem_cons.1 storable
    exact ofRow_toRow_product ⟨created, List.forall_mem_singleton.1 updated⟩
  shows product storable := by
    obtain ⟨created, updated⟩ := List.forall_mem_cons.1 storable
    have description : FieldKind.text.Shows (.ofText? product.description)
        (product.description.map .text) := by
      cases product.description with
      | none => exact .null
      | some s => exact .value (.text s)
    simp only [Shows, Record.fields, List.forall_mem_cons]
    exact ⟨.value (.ident product.id), .value (.text product.name), description,
      .value (.money product.price), .value (.integer product.quantity.toNat),
      .value (.bool product.available), .value (.instant created),
      .value (.instant (List.forall_mem_singleton.1 updated)), List.forall_mem_nil _⟩

instance : LawfulDescribed Entry where
  exists_storable entry plain :=
    ⟨entry.truncate, storable_truncate plain, Truncates.toRow_truncate entry⟩
  ofRow_toRow entry storable := ofRow_toRow_entry ⟨List.forall_mem_singleton.1 storable⟩
  shows entry storable := by
    have created := List.forall_mem_singleton.1 storable
    simp only [Shows, Record.fields, List.forall_mem_cons]
    refine ⟨.value (.ident entry.id), .value (.text entry.kind.word),
      .value (.text entry.direction.word), .value (.money entry.amount),
      .value (.text entry.description), .value (.ident entry.walletId), ?_, ?_,
      .value (.instant created), List.forall_mem_nil _⟩
    · exact shows_ofText? (fun _ => rfl) fun id _ => .ident id
    · exact shows_ofText? (fun _ => rfl) fun id _ => .ident id

/-! ## Listings -/

/-- From rows that were written as records with plain years, a query whose times are whole brings
    the records that meet all its conditions, each as often as it is stored, in the order of its
    sort rule. The records are those that the rows are read as. Only a statement that is too large
    for the engine is refused, which one with a few comparisons never is
    (`statementRuns_of_compares`). -/
theorem findAll_answers {α ρ : Type} [Table ρ] [Record α ρ] [Described α] [LawfulDescribed α]
    {db : Database} {filter : Filter} {sort : Option SortRule} {plan : Plan}
    (written : ∀ row ∈ Table.rows (ρ := ρ) db, ∃ a : α,
      (∀ t ∈ Described.times a, t.WellFormed ∧ t.InPlainYear) ∧ Record.toRow a = row)
    (planned : planFor α filter sort = .ok plan)
    (whole : ∀ condition ∈ filter, ∀ t, .instant t ∈ condition.operands (Record.fields α) →
      t.truncate = t ∧ t.InPlainYear) :
    ∃ stored found : List α,
      (Table.rows (ρ := ρ) db).mapM readRow = .ok stored ∧
      (findAll α filter sort db =
        if plan.runsOn (Table.layout ρ) .all Table.cell (Table.rows (ρ := ρ) db) then .ok found
        else .error (.store (.unavailable (.list (Table.name ρ))))) ∧
      found.Perm (stored.filter fun a =>
        filter.all fun condition => condition.holds (Record.fields α) (Described.value a)) ∧
      ∀ rule ∈ sort, found.Pairwise fun a b =>
        rule.admits (Described.value a) (Described.value b) = true := by
  -- The rows are those of records with whole times, which are read back from them.
  have whole' : ∀ row ∈ Table.rows (ρ := ρ) db, ∃ a : α,
      (∀ t ∈ Described.times a, t.Storable) ∧ Record.toRow a = row := by
    intro row member
    obtain ⟨a, plain, rfl⟩ := written row member
    exact LawfulDescribed.exists_storable a plain
  obtain ⟨stored, rows, storable⟩ := exists_map_toRow whole'
  have legible : ∀ a ∈ stored, Record.ofRow (Record.toRow a) = .ok a := fun a member =>
    LawfulDescribed.ofRow_toRow a (storable a member)
  have shows : ∀ a ∈ stored,
      Shows (Record.fields α) (Table.cell (Record.toRow a)) (Described.value a) :=
    fun a member => LawfulDescribed.shows a (storable a member)
  obtain ⟨found, selected, members, perm⟩ := exists_selected legible plan .all
  have built := planFor_eq_ok.1 planned
  refine ⟨stored, found, ?_, ?_, ?_, ?_⟩
  · rw [rows, mapM_readRow_toRow legible]
  · rw [findAll, planned, ok_bind, selectRows]
    split
    · rw [ok_bind, rows, selected,
        mapM_readRow_toRow fun a member => legible a (members a member)]
      rfl
    · rfl
  · rw [List.filter_congr fun a member => (Plan.accepts_eq built (shows a member) whole).symm]
    exact perm
  · intro rule ruled
    cases ruled
    -- The rows stand in the order of the sort cells, and these in the order of the values.
    obtain ⟨-, sorted⟩ := Plan.build_eq_ok.1 built
    obtain ⟨⟨column, order⟩, ordered, same⟩ := map_eq_ok.1 sorted
    have arranged := Plan.select_pairwise same.symm (Table.layout ρ) .all Table.cell
      (stored.map (Record.toRow : α → ρ))
    rw [selected, List.pairwise_map] at arranged
    refine arranged.imp_of_mem fun {a b} ha hb admitted => ?_
    rwa [SortRule.admits_plan ordered (shows a (members a ha)) (shows b (members b hb))] at admitted

/-- A query that runs brings the records of a table that meet all its conditions, in the order of
    its sort rule. -/
theorem findAll_of_records {α ρ : Type} [Table ρ] [Record α ρ] [Described α] [LawfulDescribed α]
    {as : List α} {db : Database} {filter : Filter} {sort : Option SortRule} {plan : Plan}
    (h : Table.rows db = as.map Record.toRow)
    (storable : ∀ a ∈ as, ∀ t ∈ Described.times a, t.Storable)
    (planned : planFor α filter sort = .ok plan) (runs : StatementRuns α filter sort .all db)
    (whole : ∀ condition ∈ filter, ∀ t, .instant t ∈ condition.operands (Record.fields α) →
      t.truncate = t ∧ t.InPlainYear) :
    ∃ found, findAll α filter sort db = .ok found ∧
      found.Perm (as.filter fun a =>
        filter.all fun condition => condition.holds (Record.fields α) (Described.value a)) ∧
      ∀ rule ∈ sort, found.Pairwise fun a b =>
        rule.admits (Described.value a) (Described.value b) = true := by
  have written : ∀ row ∈ Table.rows (ρ := ρ) db, ∃ a : α,
      (∀ t ∈ Described.times a, t.WellFormed ∧ t.InPlainYear) ∧ Record.toRow a = row := by
    rw [h]
    refine List.forall_mem_map.2 fun a member => ⟨a, fun t time => ?_, rfl⟩
    have whole := storable a member t time
    exact ⟨whole.wellFormed, whole.inPlainYear⟩
  obtain ⟨stored, found, read, listed, perm, sorted⟩ := findAll_answers written planned whole
  have records : (Table.rows (ρ := ρ) db).mapM readRow = .ok as := by
    rw [h]
    exact mapM_readRow_toRow fun a member => LawfulDescribed.ofRow_toRow a (storable a member)
  obtain rfl : stored = as := Except.ok.inj (read.symm.trans records)
  exact ⟨found, listed.trans (if_pos (runs plan planned)), perm, sorted⟩

/-- An account that has never been used, and one that has. -/
def twoWallets : List Wallet :=
  let unused := Wallet.opened (.ofBits 1) "Main" default ⟨60, 0⟩
  [unused, { unused with id := .ofBits 2, name := "Savings" }.increase 500 ⟨90, 0⟩]

/-- Both are brought, the one without a last movement behind the other one. -/
theorem findAll_answers_twoWallets :
    let db : Database := { Database.fresh with wallets := twoWallets.map Record.toRow }
    let filter : Filter := [⟨" created_at", .comparison .gte, "1970-01-01T01:01:00+01:00"⟩]
    let rule : SortRule := ⟨"last_transaction_at", .descending⟩
    ∃ found, findAll Wallet filter (some rule) db = .ok found ∧ found.Perm twoWallets ∧
      found.Pairwise fun a b => rule.admits (Described.value a) (Described.value b) = true := by
  intro db filter rule
  have storable : ∀ w ∈ twoWallets, ∀ t ∈ Described.times w, t.WellFormed ∧ t.InPlainYear := by
    simp only [twoWallets, List.forall_mem_cons]
    refine ⟨?_, ?_, List.forall_mem_nil _⟩
    · exact List.forall_mem_singleton.2 ⟨.inl (by decide), by decide, by decide⟩
    · refine List.forall_mem_cons.2 ⟨⟨.inl (by decide), by decide, by decide⟩, ?_⟩
      exact List.forall_mem_singleton.2 ⟨.inl (by decide), by decide, by decide⟩
  have written : ∀ row ∈ Table.rows (ρ := WalletRow) db, ∃ w : Wallet,
      (∀ t ∈ Described.times w, t.WellFormed ∧ t.InPlainYear) ∧ Record.toRow w = row :=
    List.forall_mem_map.2 fun w member => ⟨w, storable w member, rfl⟩
  have planned : planFor Wallet filter (some rule) =
      .ok ⟨[.compare "created_at" .gte (.text "1970-01-01T00:01:00Z")],
        some ("last_transaction_at", .descending)⟩ := by
    decide +kernel
  have operands : ∀ condition ∈ filter,
      condition.operands (Record.fields Wallet) = [.instant ⟨60, 0⟩] :=
    List.forall_mem_singleton.2 (by decide +kernel)
  have whole : ∀ condition ∈ filter, ∀ t, .instant t ∈ condition.operands (Record.fields Wallet) →
      t.truncate = t ∧ t.InPlainYear := by
    intro condition member t operand
    rw [operands condition member] at operand
    cases List.mem_singleton.1 operand
    exact ⟨rfl, by decide, by decide⟩
  obtain ⟨stored, found, read, listed, perm, sorted⟩ := findAll_answers written planned whole
  have both : (Table.rows (ρ := WalletRow) db).mapM readRow = .ok twoWallets := by
    decide +kernel
  obtain rfl : stored = twoWallets := Except.ok.inj (read.symm.trans both)
  refine ⟨found, listed.trans (if_pos (by decide +kernel)), ?_, sorted rule rfl⟩
  have all : (twoWallets.filter fun w => filter.all fun condition =>
      condition.holds (Record.fields Wallet) (Described.value w)) = twoWallets := by
    decide +kernel
  rwa [all] at perm

end Store

end Purse
