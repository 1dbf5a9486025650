/-
  Purse.Proofs.Store.Links

  Links of records.  A write of a record replaces the links that it owns, link table by link
  table: what the owner had there goes, and what the record names stands there instead
  (`linksOf_replaceLinks_self`).  Links of other owners and those in other tables stay, however
  it ends (`linksOf_replaceLinks_of_other`).  A table takes its targets just if none of them is
  named twice and one statement can name them all (`exists_replaceAllLinks_iff`); else the write
  fails, when some tables may have been replaced already, and is undone with its scope
  (`links_replaced`).
-/
import Mathlib.Data.List.Nodup
import Purse.Proofs.Store.Table
import Purse.Store.Scope

namespace Purse.Store

open Query

/-- The links of an owner in a link table. -/
def linksOf (table owner : String) (db : Database) : List Link :=
  db.links.filter fun l => l.table = table ∧ l.owner = owner

namespace LinkSet

/-- The links that a set asks for. -/
def linksOn (set : LinkSet) (owner : String) : List Link :=
  set.targets.map fun t => ⟨set.table, owner, t.text⟩

/-- True of a set that its table takes. -/
structure Accepted (set : LinkSet) : Prop where
  nodup : set.targets.Nodup
  short : 2 * set.targets.length ≤ mostParameters

end LinkSet

/-! ## Replacing links -/

section

variable {owner : String} {set : LinkSet} {sets : List LinkSet} {db after : Database}

theorem nodup_texts {targets : List Ident} : (targets.map Ident.text).Nodup ↔ targets.Nodup :=
  ⟨List.Nodup.of_map _, List.Nodup.map fun _ _ => Ident.text_inj.1⟩

/-- The table is first rid of the owner's links, and then takes the new ones or refuses them all. -/
theorem replaceLinks_cases (owner : String) (set : LinkSet) (db : Database) :
    let cleared := db.links.filter fun l => ¬ (l.table = set.table ∧ l.owner = owner)
    (set.Accepted ∧ replaceLinks owner set db =
      (.ok (), { db with links := cleared ++ set.linksOn owner })) ∨
    (¬ set.Accepted ∧
      ∃ e, replaceLinks owner set db = (.error e, { db with links := cleared })) := by
  intro cleared
  unfold replaceLinks
  dsimp only
  rw [List.length_map, List.map_map]
  split
  · next long => exact .inr ⟨fun accepted => Nat.not_lt.2 accepted.short long, _, rfl⟩
  · next short =>
      split
      · next nodup => exact .inl ⟨⟨nodup_texts.1 nodup, Nat.not_lt.1 short⟩, rfl⟩
      · next twice => exact .inr ⟨fun accepted => twice (nodup_texts.2 accepted.nodup), _, rfl⟩

theorem exists_replaceLinks_iff (owner : String) (set : LinkSet) (db : Database) :
    (∃ after, replaceLinks owner set db = (.ok (), after)) ↔ set.Accepted := by
  rcases replaceLinks_cases owner set db with ⟨accepted, done⟩ | ⟨refused, e, failed⟩
  · simp [done, accepted]
  · simp [failed, refused]

/-- Where the links were replaced, the owner has just the new ones. -/
theorem linksOf_replaceLinks_self (done : replaceLinks owner set db = (.ok (), after)) :
    linksOf set.table owner after = set.linksOn owner := by
  rcases replaceLinks_cases owner set db with ⟨-, left⟩ | ⟨-, e, failed⟩
  · obtain rfl := (Prod.mk.inj (done.symm.trans left)).2
    have gone : (db.links.filter fun l => ¬ (l.table = set.table ∧ l.owner = owner)).filter
        (fun l => decide (l.table = set.table ∧ l.owner = owner)) = [] := by
      simp [List.filter_filter]
    have all : (set.linksOn owner).filter
        (fun l => decide (l.table = set.table ∧ l.owner = owner)) = set.linksOn owner := by
      simp [LinkSet.linksOn, List.filter_eq_self]
    rw [linksOf, List.filter_append, gone, all, List.nil_append]
  · rw [failed] at done
    cases done

/-- Links of another owner and those in another table stay, however it ends. -/
theorem linksOf_replaceLinks_of_other (db : Database) {table other : String}
    (apart : other = owner → table ≠ set.table) :
    linksOf table other (replaceLinks owner set db).2 = linksOf table other db := by
  have stay : (db.links.filter fun l => ¬ (l.table = set.table ∧ l.owner = owner)).filter
      (fun l => decide (l.table = table ∧ l.owner = other)) = linksOf table other db := by
    rw [List.filter_filter, linksOf]
    refine List.filter_congr fun l _ => Bool.and_eq_left_iff_imp.2 ?_
    simp only [decide_eq_true_eq]
    rintro ⟨rfl, rfl⟩ ⟨same, own⟩
    exact apart own same
  have none : (set.linksOn owner).filter
      (fun l => decide (l.table = table ∧ l.owner = other)) = [] := by
    refine List.filter_eq_nil_iff.2 (List.forall_mem_map.2 fun t _ => ?_)
    simp only [decide_eq_true_eq]
    rintro ⟨same, own⟩
    exact apart own.symm same.symm
  rcases replaceLinks_cases owner set db with ⟨-, left⟩ | ⟨-, e, failed⟩
  · rw [left, linksOf, List.filter_append, stay, none, List.append_nil]
  · rw [failed, linksOf, stay]

/-! ### Table by table -/

/-- The tables after one are looked at only when its links were replaced. -/
theorem replaceAllLinks_cons (owner : String) (set : LinkSet) (sets : List LinkSet)
    (db : Database) :
    (∃ middle, replaceLinks owner set db = (.ok (), middle) ∧
      replaceAllLinks owner (set :: sets) db = replaceAllLinks owner sets middle) ∨
    (∃ e middle, replaceLinks owner set db = (.error e, middle) ∧
      replaceAllLinks owner (set :: sets) db = (.error e, middle)) := by
  rw [replaceAllLinks]
  rcases replaceLinks owner set db with ⟨_ | _, middle⟩
  · exact .inr ⟨_, middle, rfl, rfl⟩
  · exact .inl ⟨middle, rfl, rfl⟩

/-- All links are replaced just if every table takes its set, whatever is stored. -/
theorem exists_replaceAllLinks_iff (owner : String) (sets : List LinkSet) (db : Database) :
    (∃ after, replaceAllLinks owner sets db = (.ok (), after)) ↔
      ∀ set ∈ sets, set.Accepted := by
  induction sets generalizing db with
  | nil => simp [replaceAllLinks]
  | cons set sets ih =>
      rw [List.forall_mem_cons, ← exists_replaceLinks_iff owner set db]
      rcases replaceAllLinks_cons owner set sets db with
        ⟨middle, done, rest⟩ | ⟨e, middle, failed, rest⟩
      · simp [done, rest, ih]
      · simp [failed, rest]

theorem linksOf_replaceAllLinks_of_other (db : Database) {table other : String}
    (apart : other = owner → ∀ set ∈ sets, table ≠ set.table) :
    linksOf table other (replaceAllLinks owner sets db).2 = linksOf table other db := by
  induction sets generalizing db with
  | nil => rfl
  | cons set sets ih =>
      have first := linksOf_replaceLinks_of_other db fun same =>
        (List.forall_mem_cons.1 (apart same)).1
      rcases replaceAllLinks_cons owner set sets db with
        ⟨middle, done, rest⟩ | ⟨e, middle, failed, rest⟩
      · rw [done] at first
        rw [rest, ih middle fun same => (List.forall_mem_cons.1 (apart same)).2, first]
      · rw [failed] at first
        rw [rest, first]

/-- Where all links were replaced, the owner has just the new ones in each of the tables. -/
theorem linksOf_replaceAllLinks_of_mem (tables : (sets.map (·.table)).Nodup)
    (done : replaceAllLinks owner sets db = (.ok (), after)) (member : set ∈ sets) :
    linksOf set.table owner after = set.linksOn owner := by
  induction sets generalizing db with
  | nil => cases member
  | cons first sets ih =>
      obtain ⟨once, tables⟩ := List.nodup_cons.1 tables
      rcases replaceAllLinks_cons owner first sets db with
        ⟨middle, replaced, rest⟩ | ⟨e, middle, failed, rest⟩
      · rw [rest] at done
        rcases List.mem_cons.1 member with rfl | member
        -- No later set is one for the same table.
        · have apart : ∀ other ∈ sets, set.table ≠ other.table := fun other there same =>
            once (List.mem_map.2 ⟨other, there, same.symm⟩)
          have later : linksOf set.table owner (replaceAllLinks owner sets middle).2 =
              linksOf set.table owner middle :=
            linksOf_replaceAllLinks_of_other middle fun _ => apart
          rw [done] at later
          exact later.trans (linksOf_replaceLinks_self replaced)
        · exact ih tables done member
      · rw [rest] at done
        cases done

end

/-! ## Writes of records -/

/-- The laws of a kind of record that stands in its table under the text of its identifier, beside
    the link tables. -/
class LinkedRecord (α : Type) {ρ : outParam Type} [Table ρ] [Record α ρ] : Prop where
  key_toRow (a : α) : Table.key (Record.toRow a) = some (Record.ident a).text
  links_withRows (db : Database) (rows : List ρ) : (Table.withRows db rows).links = db.links

instance : LinkedRecord Wallet := ⟨fun _ => rfl, fun _ _ => rfl⟩

instance : LinkedRecord Product := ⟨fun _ => rfl, fun _ _ => rfl⟩

instance : LinkedRecord Entry := ⟨fun _ => rfl, fun _ _ => rfl⟩

instance : LinkedRecord Group := ⟨fun _ => rfl, fun _ _ => rfl⟩

section

variable {α ρ : Type} [Table ρ] [Record α ρ] {a : α} {db after : Database}

theorem exists_create_iff :
    (∃ after, create a db = (.ok (), after)) ↔
      (∃ stored, Table.insert (Record.toRow a) db = .ok stored) ∧
        ∀ set ∈ Record.links a, set.Accepted := by
  constructor
  · rintro ⟨after, done⟩
    obtain ⟨stored, inserted, links⟩ := create_eq_ok_iff.1 done
    exact ⟨⟨stored, inserted⟩, (exists_replaceAllLinks_iff _ _ _).1 ⟨after, links⟩⟩
  · rintro ⟨⟨stored, inserted⟩, accepted⟩
    obtain ⟨after, links⟩ := (exists_replaceAllLinks_iff _ _ stored).2 accepted
    exact ⟨after, create_eq_ok_iff.2 ⟨stored, inserted, links⟩⟩

theorem exists_update_iff :
    (∃ after, update a db = (.ok true, after)) ↔
      (∃ stored, Table.replace? (Record.toRow a) db = .ok (some stored)) ∧
        ∀ set ∈ Record.links a, set.Accepted := by
  constructor
  · rintro ⟨after, done⟩
    rcases update_eq_ok_iff.1 done with ⟨⟨⟩, -⟩ | ⟨-, stored, replaced, links⟩
    exact ⟨⟨stored, replaced⟩, (exists_replaceAllLinks_iff _ _ _).1 ⟨after, links⟩⟩
  · rintro ⟨⟨stored, replaced⟩, accepted⟩
    obtain ⟨after, links⟩ := (exists_replaceAllLinks_iff _ _ stored).2 accepted
    exact ⟨after, update_eq_ok_iff.2 (.inr ⟨rfl, stored, replaced, links⟩)⟩

variable [LinkedRecord α]

theorem links_insert (done : Table.insert (Record.toRow a) db = .ok after) :
    after.links = db.links := by
  obtain ⟨-, rfl⟩ := Table.insert_eq_ok.1 done
  exact LinkedRecord.links_withRows α db _

theorem links_replace? (done : Table.replace? (Record.toRow a) db = .ok (some after)) :
    after.links = db.links := by
  rcases (Table.replace?_eq_ok (LinkedRecord.key_toRow a)).1 done with ⟨-, ⟨⟩⟩ | ⟨-, -, left⟩
  obtain rfl := Option.some.inj left
  exact LinkedRecord.links_withRows α db _

/-- There is nothing to replace just if the identifier is not stored. -/
theorem update_eq_ok_false_iff :
    update a db = (.ok false, after) ↔
      after = db ∧ Table.find? (ρ := ρ) db (Record.ident a).text = none := by
  rw [update_eq_ok_iff, Table.replace?_eq_ok (LinkedRecord.key_toRow a)]
  simp

theorem linksOf_create_of_other {table other : String}
    (apart : other = (Record.ident a).text → ∀ set ∈ Record.links a, table ≠ set.table) :
    linksOf table other (create a db).2 = linksOf table other db := by
  rw [create]
  cases inserted : Table.insert (Record.toRow a) db with
  | error v => rfl
  | ok stored =>
      have kept := linksOf_replaceAllLinks_of_other stored apart
      rw [kept, linksOf, links_insert inserted, linksOf]

theorem linksOf_update_of_other {table other : String}
    (apart : other = (Record.ident a).text → ∀ set ∈ Record.links a, table ≠ set.table) :
    linksOf table other (update a db).2 = linksOf table other db := by
  rw [update]
  cases replaced : Table.replace? (Record.toRow a) db with
  | error v => rfl
  | ok stored? =>
      cases stored? with
      | none => rfl
      | some stored =>
          have kept := linksOf_replaceAllLinks_of_other stored apart
          have same : linksOf table other stored = linksOf table other db := by
            rw [linksOf, links_replace? replaced, linksOf]
          -- The write leaves what its links left, whichever way they ended.
          dsimp only
          rw [← same, ← kept]
          split <;> next done => rw [done]

end

/-! ## Scopes -/

/-- A write in a scope of its own, which is undone when the write fails. -/
def alone {β : Type} (write : Database → Except StoreError β × Database) (db : Database) :
    Except StoreError β × Database :=
  match write db with
  | (.ok answer, after) => (.ok answer, after)
  | (.error e, _) => (.error e, db)

theorem exists_error_of_alone {β : Type} {write : Database → Except StoreError β × Database}
    {db : Database} (fails : ∀ answer after, write db ≠ (.ok answer, after)) :
    ∃ e, alone write db = (.error e, db) := by
  rw [alone]
  split
  · next answer after done => exact absurd done (fails answer after)
  · next e after failed => exact ⟨e, rfl⟩

/-- The scope of a step is that of its write. -/
theorem runAlone_eq_alone {β : Type} {step : Step} {db : Database} {answer : β → StepAnswer}
    {write : Database → Except StoreError β × Database}
    (same : step.run db = writeResult answer (write db)) :
    step.runAlone db = writeResult answer (alone write db) := by
  rw [Step.runAlone, same, alone]
  rcases write db with ⟨_ | _, after⟩ <;> rfl

/-! ## Whole writes -/

section

variable {α ρ : Type} [Table ρ] [Record α ρ] [LinkedRecord α]

/-- Links are replaced as a whole. In every database, a write of a record whose sets of links are in
    different tables takes effect just if its own table takes the row and every link table its set.
    It then leaves the record with just the links that it names; the links of all others stay as
    they were, however it ends. There is nothing to replace, and no link is touched, where the
    identifier is not stored. A target that is named twice lets no write of the record take effect,
    and after it, in a scope of its own, everything is as it was. -/
theorem links_replaced (a : α) (db : Database)
    (tables : ((Record.links a).map (·.table)).Nodup) :
    let owner := (Record.ident a).text
    ((∃ after, create a db = (.ok (), after)) ↔
      (∃ stored, Table.insert (Record.toRow a) db = .ok stored) ∧
        ∀ set ∈ Record.links a, set.Accepted) ∧
    ((∃ after, update a db = (.ok true, after)) ↔
      (∃ stored, Table.replace? (Record.toRow a) db = .ok (some stored)) ∧
        ∀ set ∈ Record.links a, set.Accepted) ∧
    (∀ after, create a db = (.ok (), after) ∨ update a db = (.ok true, after) →
      ∀ set ∈ Record.links a, linksOf set.table owner after =
        set.targets.map fun t => ⟨set.table, owner, t.text⟩) ∧
    (∀ table other, (other = owner → ∀ set ∈ Record.links a, table ≠ set.table) →
      linksOf table other (create a db).2 = linksOf table other db ∧
      linksOf table other (update a db).2 = linksOf table other db) ∧
    (Table.find? (ρ := ρ) db owner = none → update a db = (.ok false, db)) ∧
    ((∃ set ∈ Record.links a, ¬ set.targets.Nodup) →
      (∃ e, alone (create a) db = (.error e, db)) ∧
      ((Table.find? (ρ := ρ) db owner).isSome →
        ∃ e, alone (update a) db = (.error e, db))) := by
  intro owner
  refine ⟨exists_create_iff, exists_update_iff, ?_, fun table other apart =>
    ⟨linksOf_create_of_other apart, linksOf_update_of_other apart⟩, fun absent =>
      update_eq_ok_false_iff.2 ⟨rfl, absent⟩, ?_⟩
  · rintro after (done | done) set member
    · obtain ⟨stored, -, links⟩ := create_eq_ok_iff.1 done
      exact linksOf_replaceAllLinks_of_mem tables links member
    · rcases update_eq_ok_iff.1 done with ⟨⟨⟩, -⟩ | ⟨-, stored, -, links⟩
      exact linksOf_replaceAllLinks_of_mem tables links member
  · rintro ⟨set, member, twice⟩
    refine ⟨exists_error_of_alone fun _ after done => ?_, fun present =>
      exists_error_of_alone fun changed after done => ?_⟩
    · exact twice ((exists_create_iff.1 ⟨after, done⟩).2 set member).nodup
    · cases changed with
      | true => exact twice ((exists_update_iff.1 ⟨after, done⟩).2 set member).nodup
      | false =>
          obtain ⟨-, absent⟩ := update_eq_ok_false_iff.1 done
          simp [owner, absent] at present

end

/-! ### Two groups -/

/-- A group of two wallets. -/
def familyGroup : Group := ⟨.ofBits 2, "family", [.ofBits 16, .ofBits 17]⟩

/-- A group of one of them. -/
def workGroup : Group := ⟨.ofBits 3, "work", [.ofBits 17]⟩

/-- One member of a group changes; a group that is not stored, and a member that is named twice,
    change nothing. -/
theorem links_replaced_of_groups :
    let db := (create workGroup (create familyGroup Database.fresh).2).2
    let table := "wallet_group_members"
    let owner := familyGroup.id.text
    let moved := { familyGroup with members := [.ofBits 17, .ofBits 18] }
    let doubled := { familyGroup with members := [.ofBits 16, .ofBits 16] }
    (∃ after, update moved db = (.ok true, after) ∧
      linksOf table owner db =
        [⟨table, owner, (Ident.ofBits 16).text⟩, ⟨table, owner, (Ident.ofBits 17).text⟩] ∧
      linksOf table owner after =
        [⟨table, owner, (Ident.ofBits 17).text⟩, ⟨table, owner, (Ident.ofBits 18).text⟩] ∧
      linksOf table workGroup.id.text after =
        [⟨table, workGroup.id.text, (Ident.ofBits 17).text⟩]) ∧
    update { familyGroup with id := .ofBits 4 } db = (.ok false, db) ∧
    ∃ e, (Step.update (.group doubled)).runAlone db = (.error e, db) := by
  intro db table owner moved doubled
  have one (group : Group) : ((Record.links group).map (·.table)).Nodup := List.nodup_singleton _
  have moves : (update moved db).1 = .ok true := by decide +kernel
  have before : linksOf table owner db =
      [⟨table, owner, (Ident.ofBits 16).text⟩, ⟨table, owner, (Ident.ofBits 17).text⟩] := by
    decide +kernel
  have beside : linksOf table workGroup.id.text db =
      [⟨table, workGroup.id.text, (Ident.ofBits 17).text⟩] := by decide +kernel
  obtain ⟨-, -, replaced, others, -⟩ := links_replaced moved db (one moved)
  obtain ⟨-, -, -, -, absent, -⟩ := links_replaced { familyGroup with id := .ofBits 4 } db (one _)
  obtain ⟨-, -, -, -, -, refused⟩ := links_replaced doubled db (one doubled)
  have apart : workGroup.id.text ≠ moved.id.text := by decide +kernel
  obtain ⟨e, undone⟩ :=
    (refused ⟨_, List.mem_singleton_self _, by decide⟩).2 (by decide +kernel)
  have step : (Step.update (.group doubled)).run db =
      writeResult .changed (update doubled db) := rfl
  rcases done : update moved db with ⟨result, after⟩
  rw [done] at moves others
  obtain rfl : result = .ok true := moves
  have own := replaced after (.inr done) ⟨table, moved.members⟩ (List.mem_singleton_self _)
  have kept := (others table workGroup.id.text fun same => absurd same apart).2.trans beside
  refine ⟨⟨after, rfl, before, own, kept⟩, absent (by decide +kernel), .store e, ?_⟩
  rw [runAlone_eq_alone step, undone]
  rfl

end Purse.Store
