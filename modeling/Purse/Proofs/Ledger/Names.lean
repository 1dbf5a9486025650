/-
  Purse.Proofs.Ledger.Names

  Names that stand once.  The constraints of the tables keep the wallets of an owner apart by
  their names, and the products by theirs (`Named`).  On a book that can be read back, the search
  for a name finds the record that has it (`exists_walletNamed`, `exists_productNamed`), so a name
  that the search leaves to a record is one that the constraints leave to it as well.
-/
import Purse.Proofs.Ledger.Legible
import Purse.Proofs.Store.Access
import Purse.Proofs.Text.Trim

namespace Purse

namespace Store

/-! ## Records with names -/

section

variable {α ρ β : Type} [Table ρ] [Record α ρ] {name : α → β} {as : List α} {a : α}

/-- No two records share a name. -/
def NamedApart (name : α → β) (as : List α) : Prop :=
  ∀ a ∈ as, ∀ b ∈ as, name a = name b → Record.ident a = Record.ident b

theorem namedApart_append (h : NamedApart name as) (new : ∀ b ∈ as, name b ≠ name a) :
    NamedApart name (as ++ [a]) := by
  intro b hb c hc same
  rcases List.mem_append.1 hb with hb | hb
  · rcases List.mem_append.1 hc with hc | hc
    · exact h b hb c hc same
    · exact absurd (List.mem_singleton.1 hc ▸ same) (new b hb)
  · rcases List.mem_append.1 hc with hc | hc
    · exact absurd (List.mem_singleton.1 hb ▸ same).symm (new c hc)
    · rw [List.mem_singleton.1 hb, List.mem_singleton.1 hc]

theorem namedApart_putRecord (h : NamedApart name as)
    (free : ∀ b ∈ as, Record.ident b ≠ Record.ident a → name b ≠ name a) :
    NamedApart name (putRecord a as) := by
  intro b hb c hc same
  rcases mem_of_mem_putRecord hb with ⟨storedB, otherB⟩ | ⟨rfl, -⟩
  · rcases mem_of_mem_putRecord hc with ⟨storedC, -⟩ | ⟨rfl, -⟩
    · exact h b storedB c storedC same
    · exact absurd same (free b storedB otherB)
  · rcases mem_of_mem_putRecord hc with ⟨storedC, otherC⟩ | ⟨rfl, -⟩
    · exact absurd same.symm (free c storedC otherC)
    · rfl

/-- A search for a name finds a record just if one has the name. -/
theorem isSome_search_iff {value : β} {found : Option α}
    (some : ∀ a ∈ found, a ∈ as ∧ name a = value)
    (none : found = none → ∀ a ∈ as, name a ≠ value) :
    found.isSome = true ↔ ∃ a ∈ as, name a = value := by
  cases found with
  | none =>
      refine ⟨nofun, ?_⟩
      rintro ⟨a, member, same⟩
      exact absurd same (none rfl a member)
  | some b => exact ⟨fun _ => ⟨b, some b rfl⟩, fun _ => rfl⟩

/-- A search for a name finds another record than a given one just if another one has the name. -/
theorem any_search_iff (h : NamedApart name as) {value : β} {found : Option α} {id : Ident}
    (some : ∀ a ∈ found, a ∈ as ∧ name a = value)
    (none : found = none → ∀ a ∈ as, name a ≠ value) :
    found.any (Record.ident · ≠ id) = true ↔ ∃ a ∈ as, Record.ident a ≠ id ∧ name a = value := by
  cases found with
  | none =>
      refine ⟨nofun, ?_⟩
      rintro ⟨a, member, -, same⟩
      exact absurd same (none rfl a member)
  | some b =>
      obtain ⟨stands, title⟩ := some b rfl
      simp only [Option.any_some, decide_eq_true_eq]
      refine ⟨fun other => ⟨b, stands, other, title⟩, ?_⟩
      -- What has the name is the record that was found, as the name stands once.
      rintro ⟨a, member, other, same⟩
      rwa [h a member b stands (same.trans title.symm)] at other

/-- A name that a search leaves to one record is borne by no other one. -/
theorem ne_of_search (h : NamedApart name as) {value : β} {found : Option α} {id : Ident}
    (some : ∀ a ∈ found, a ∈ as ∧ name a = value) (none : found = none → ∀ a ∈ as, name a ≠ value)
    (own : ¬ found.any (Record.ident · ≠ id) = true) :
    ∀ a ∈ as, Record.ident a ≠ id → name a ≠ value := fun a member other same =>
  own ((any_search_iff h some none).2 ⟨a, member, other, same⟩)

theorem namedApart_filter (h : NamedApart name as) (p : α → Bool) :
    NamedApart name (as.filter p) := fun b hb c hc =>
  h b (List.mem_of_mem_filter hb) c (List.mem_of_mem_filter hc)

end

end Store

/-- What a wallet is told by among the wallets of its owner. -/
def Wallet.fullName (wallet : Wallet) : Ident × String := (wallet.ownerId, wallet.name)

namespace Service

open Store Query Text

namespace Book

/-! ## The invariant -/

/-- True when names stand once. -/
structure Named (book : Book) : Prop where
  wallets : NamedApart Wallet.fullName book.wallets
  products : NamedApart Product.name book.products

theorem named_blank : blank.Named := ⟨List.forall_mem_nil _, List.forall_mem_nil _⟩

variable {book : Book}

theorem fullName_ne {w wallet : Wallet}
    (h : ¬ (w.ownerId = wallet.ownerId ∧ w.name = wallet.name)) : w.fullName ≠ wallet.fullName :=
  fun same => h (Prod.mk.inj same)

/-- The constraints keep names apart, whatever is written. -/
theorem named_apply (h : book.Named) {write : Write} (admitted : book.Admits write) :
    (book.apply write).Named := by
  cases write with
  | createWallet wallet =>
      exact ⟨namedApart_append h.wallets fun w member => fullName_ne (admitted.2 w member).2,
        h.products⟩
  | updateWallet wallet =>
      refine ⟨?_, h.products⟩
      by_cases present : ∃ w ∈ book.wallets, w.id = wallet.id
      · exact namedApart_putRecord h.wallets fun w member other =>
          fullName_ne ((admitted present).2 w member other)
      · have absent : ∀ w ∈ book.wallets, w.id ≠ wallet.id := fun w member same =>
          present ⟨w, member, same⟩
        rw [apply, putRecord_of_absent absent]
        exact h.wallets
  | createProduct product =>
      exact ⟨h.wallets, namedApart_append h.products fun p member => (admitted.2 p member).2⟩
  | updateProduct product =>
      refine ⟨h.wallets, ?_⟩
      by_cases present : ∃ p ∈ book.products, p.id = product.id
      · exact namedApart_putRecord h.products (admitted present).2
      · have absent : ∀ p ∈ book.products, p.id ≠ product.id := fun p member same =>
          present ⟨p, member, same⟩
        rw [apply, putRecord_of_absent absent]
        exact h.products
  | createEntry entry => exact ⟨h.wallets, h.products⟩
  | deleteWallet id =>
      rw [apply]
      split
      · exact ⟨namedApart_filter h.wallets _, h.products⟩
      · exact h
  | deleteProduct id =>
      rw [apply]
      split
      · exact ⟨h.wallets, namedApart_filter h.products _⟩
      · exact h

theorem named_applyAll (h : book.Named) {writes : List Write} (admitted : book.AdmitsAll writes) :
    (book.applyAll writes).Named := by
  induction writes generalizing book with
  | nil => exact h
  | cons write writes ih => exact ih (named_apply h admitted.1) admitted.2

end Book

/-- A name of which something is left without its blanks is cleaned. -/
theorem cleanName_of_named {name : String} (named : trimmed name ≠ "") :
    cleanName name = .ok (trimmed name) :=
  cleanName_eq_ok.2 ⟨fun blank => named (trimmed_eq_empty.2 blank), rfl⟩

/-! ## Searches by name -/

variable {book : Book} {db : Database}

theorem Book.Legible.walletRecords (legible : book.Legible) :
    ∀ w ∈ book.wallets, Record.ofRow (Record.toRow w) = .ok w :=
  fun w member => ofRow_toRow_wallet (legible.wallets w member)

theorem Book.Legible.productRecords (legible : book.Legible) :
    ∀ p ∈ book.products, Record.ofRow (Record.toRow p) = .ok p :=
  fun p member => ofRow_toRow_product (legible.products p member)

theorem Book.Legible.entryRecords (legible : book.Legible) :
    ∀ e ∈ book.entries, Record.ofRow (Record.toRow e) = .ok e :=
  fun e member => ofRow_toRow_entry (legible.entries e member)

theorem compares_equals (field value : String) : (equals field value).Compares := ⟨.eq, rfl⟩

/-- A condition on a field that takes the value is an equality of its column. -/
theorem plan_equals {entity : String} {fields : List Field} (field : Field) {name value : String}
    {cell : Cell} (known : lookupField entity fields (trimmed name) = .ok field)
    (read : field.kind.parse (trimmed value) = .ok cell) :
    (equals name value).plan entity fields = .ok (.compare field.name .eq cell) := by
  simp only [Condition.plan, equals, known, ok_bind, Field.predicate, Field.parse, read]
  rfl

theorem parse_ident (id : Ident) :
    FieldKind.ident.parse (trimmed id.text) = .ok (.text id.text) := by
  simp only [FieldKind.parse, Ident.trimmed_text, Ident.ofText?_text]

theorem parse_name (name : String) :
    FieldKind.text.parse (trimmed (trimmed name)) = .ok (.text (trimmed name)) := by
  rw [trimmed_trimmed, FieldKind.parse]

section

variable {α ρ β : Type} [Table ρ] [Record α ρ] {as : List α}

/-- A search by conditions that say what the name is finds the record with that name. -/
theorem exists_named (h : Table.rows db = as.map Record.toRow)
    (records : ∀ a ∈ as, Record.ofRow (Record.toRow a) = .ok a) {filter : Filter} {plan : Plan}
    (planned : planFor α filter none = .ok plan) (compares : ∀ c ∈ filter, c.Compares)
    (few : filter.length < deepestConditions) {name : α → β} {value : β}
    (accepts : ∀ a, plan.accepts (Table.cell (Record.toRow a)) = true ↔ name a = value) :
    ∃ found, ofLookup (findFirst α filter none db) = .ok found ∧
      (∀ a ∈ found, a ∈ as ∧ name a = value) ∧ (found = none → ∀ a ∈ as, name a ≠ value) := by
  have runs := statementRuns_of_compares α compares few none .first db
  obtain ⟨found, searched, some, none⟩ := exists_findFirst α h records planned runs
  refine ⟨found, ?_, ?_, ?_⟩
  · rw [searched]
    rfl
  · intro a member
    exact ⟨(some a member).1, (accepts a).1 (some a member).2⟩
  · intro absent a member same
    exact Bool.eq_false_iff.1 (none absent a member) ((accepts a).2 same)

end

/-- The search for a wallet by its name finds the wallet of the owner with that name. -/
theorem exists_walletNamed (kept : book.KeptIn db) (legible : book.Legible) (ownerId : Ident)
    (name : String) :
    ∃ found, walletNamed ownerId (trimmed name) db = .ok found ∧
      (∀ w ∈ found, w ∈ book.wallets ∧ w.fullName = (ownerId, trimmed name)) ∧
      (found = none → ∀ w ∈ book.wallets, w.fullName ≠ (ownerId, trimmed name)) := by
  let plan : Plan := ⟨[.compare "owner_id" .eq (.text ownerId.text),
    .compare "name" .eq (.text (trimmed name))], none⟩
  have owner : (equals "owner_id" ownerId.text).plan (Record.entity Wallet) (Record.fields Wallet) =
      .ok (.compare "owner_id" .eq (.text ownerId.text)) :=
    plan_equals ⟨"owner_id", .ident⟩ (by decide) (parse_ident ownerId)
  have title : (equals "name" (trimmed name)).plan (Record.entity Wallet) (Record.fields Wallet) =
      .ok (.compare "name" .eq (.text (trimmed name))) :=
    plan_equals ⟨"name", .text⟩ (by decide) (parse_name name)
  have planned : planFor Wallet [equals "owner_id" ownerId.text, equals "name" (trimmed name)]
      none = .ok plan := planFor_eq_ok.2 (Plan.build_eq_ok.2 ⟨.cons owner (.cons title .nil), rfl⟩)
  refine exists_named kept.walletRows legible.walletRecords planned ?_
    (by simp [deepestConditions]) fun w => ?_
  · exact List.forall_mem_cons.2 ⟨compares_equals _ _,
      List.forall_mem_singleton.2 (compares_equals _ _)⟩
  · simp [plan, Plan.accepts, Predicate.holds, Comparison.holds, Table.cell, Table.cells,
      Table.columns, Table.values, Record.toRow, List.lookup_cons, Wallet.fullName]

/-- The search for a product by its name finds the product with that name. -/
theorem exists_productNamed (kept : book.KeptIn db) (legible : book.Legible) (name : String) :
    ∃ found, productNamed (trimmed name) db = .ok found ∧
      (∀ p ∈ found, p ∈ book.products ∧ p.name = trimmed name) ∧
      (found = none → ∀ p ∈ book.products, p.name ≠ trimmed name) := by
  let plan : Plan := ⟨[.compare "name" .eq (.text (trimmed name))], none⟩
  have title : (equals "name" (trimmed name)).plan (Record.entity Product) (Record.fields Product) =
      .ok (.compare "name" .eq (.text (trimmed name))) :=
    plan_equals ⟨"name", .text⟩ (by decide) (parse_name name)
  have planned : planFor Product [equals "name" (trimmed name)] none = .ok plan :=
    planFor_eq_ok.2 (Plan.build_eq_ok.2 ⟨.cons title .nil, rfl⟩)
  refine exists_named kept.productRows legible.productRecords planned ?_
    (by simp [deepestConditions]) fun p => ?_
  · exact List.forall_mem_singleton.2 (compares_equals _ _)
  · simp [plan, Plan.accepts, Predicate.holds, Comparison.holds, Table.cell, Table.cells,
      Table.columns, Table.values, Record.toRow, List.lookup_cons]

end Service

end Purse
