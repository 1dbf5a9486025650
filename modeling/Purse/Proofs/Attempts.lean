/-
  Purse.Proofs.Attempts

  Taking apart computations that may fail: what it means that a chain of steps ended well, and
  that two chains agree step by step.
-/
import Mathlib.Data.List.Forall2

namespace Purse

variable {ε α β : Type}

/-- A chain ends well when its first step does and the rest does on what that step yields. -/
theorem bind_eq_ok {x : Except ε α} {f : α → Except ε β} {b : β} :
    (x >>= f) = .ok b ↔ ∃ a, x = .ok a ∧ f a = .ok b := by
  cases x with
  | error e => simp [bind, Except.bind]
  | ok a => simp [bind, Except.bind]

theorem ok_bind (a : α) (f : α → Except ε β) : (Except.ok a >>= f) = f a := by
  simp only [bind, Except.bind]

theorem error_bind (e : ε) (f : α → Except ε β) : (Except.error e >>= f) = .error e := rfl

theorem map_eq_ok {x : Except ε α} {f : α → β} {b : β} :
    x.map f = .ok b ↔ ∃ a, x = .ok a ∧ f a = b := by
  cases x <;> simp [Except.map]

theorem pure_eq_ok {a b : α} : (pure a : Except ε α) = .ok b ↔ a = b := by
  simp [pure, Except.pure]

/-- A step that is taken for every member of a list ends well when it does for each of them. -/
theorem mapM_eq_ok {f : α → Except ε β} {as : List α} {bs : List β} :
    as.mapM f = .ok bs ↔ List.Forall₂ (fun a b => f a = .ok b) as bs := by
  induction as generalizing bs with
  | nil =>
      rw [List.mapM_nil, pure_eq_ok, List.forall₂_nil_left_iff]
      exact eq_comm
  | cons a as ih =>
      simp only [List.mapM_cons, bind_eq_ok, pure_eq_ok, ih, List.forall₂_cons_left_iff]
      constructor
      · rintro ⟨b, first, rest, others, rfl⟩
        exact ⟨b, rest, first, others, rfl⟩
      · rintro ⟨b, rest, first, others, rfl⟩
        exact ⟨b, first, rest, others, rfl⟩

/-- The first step that fails decides. -/
theorem mapM_eq_error {f : α → Except ε β} {before after : List α} {a : α} {e : ε}
    (done : ∀ a ∈ before, ∃ b, f a = .ok b) (failed : f a = .error e) :
    (before ++ a :: after).mapM f = .error e := by
  induction before with
  | nil => rw [List.nil_append, List.mapM_cons, failed, error_bind]
  | cons _ before ih =>
      obtain ⟨⟨b, first⟩, rest⟩ := List.forall_mem_cons.1 done
      rw [List.cons_append, List.mapM_cons, first, ok_bind, ih rest, error_bind]

/-- What such steps yield comes from one of the members. -/
theorem exists_of_mem_mapM {f : α → Except ε β} {as : List α} {bs : List β}
    (done : as.mapM f = .ok bs) {b : β} (member : b ∈ bs) : ∃ a ∈ as, f a = .ok b := by
  have each := mapM_eq_ok.1 done
  obtain ⟨⟨i, below⟩, rfl⟩ := List.mem_iff_get.1 member
  have below' : i < as.length := each.length_eq ▸ below
  exact ⟨as.get ⟨i, below'⟩, List.get_mem _ _, each.get below' below⟩

/-! ## Computations that agree -/

/-- Two computations that fail with the same error, or both end well with related values. -/
inductive Agree (rel : α → β → Prop) : Except ε α → Except ε β → Prop
  | error (e : ε) : Agree rel (.error e) (.error e)
  | ok {a : α} {b : β} (h : rel a b) : Agree rel (.ok a) (.ok b)

namespace Agree

variable {γ δ ε' : Type} {rel : α → β → Prop} {x : Except ε α} {y : Except ε β}

theorem eq_error (h : Agree rel x y) {e : ε} (failed : x = .error e) : y = .error e := by
  cases h with
  | error e' =>
      cases failed
      rfl
  | ok h => cases failed

theorem mono {rel' : α → β → Prop} (h : Agree rel x y) (weaken : ∀ a b, rel a b → rel' a b) :
    Agree rel' x y := by
  cases h with
  | error e => exact .error e
  | ok h => exact .ok (weaken _ _ h)

/-- Chains agree when their first steps do and their rests do on related values. -/
theorem bind {rel' : γ → δ → Prop} {f : α → Except ε γ} {g : β → Except ε δ} (first : Agree rel x y)
    (rest : ∀ a b, rel a b → Agree rel' (f a) (g b)) : Agree rel' (x >>= f) (y >>= g) := by
  cases first with
  | error e => exact .error e
  | ok h => exact rest _ _ h

/-- Chains that start with the same step agree when their rests do on what that step yields. -/
theorem bind_same {rel' : γ → δ → Prop} {f : α → Except ε γ} {g : α → Except ε δ}
    (rest : ∀ a, x = .ok a → Agree rel' (f a) (g a)) : Agree rel' (x >>= f) (x >>= g) := by
  cases x with
  | error e => exact .error e
  | ok a => exact rest a rfl

theorem map {rel' : γ → δ → Prop} {f : α → γ} {g : β → δ} (h : Agree rel x y)
    (related : ∀ a b, rel a b → rel' (f a) (g b)) : Agree rel' (x.map f) (y.map g) := by
  cases h with
  | error e => exact .error e
  | ok h => exact .ok (related _ _ h)

theorem mapError (f : ε → ε') (h : Agree rel x y) : Agree rel (x.mapError f) (y.mapError f) := by
  cases h with
  | error e => exact .error (f e)
  | ok h => exact .ok h

end Agree

/-! ## Ways to fail -/

/-- True of a computation that fails in certain ways only. -/
def FailsBy (bad : ε → Prop) (x : Except ε α) : Prop := ∀ e, x = .error e → bad e

namespace FailsBy

variable {ε' : Type} {bad : ε → Prop} {x : Except ε α}

theorem ok (a : α) : FailsBy bad (.ok a : Except ε α) := nofun

theorem error {e : ε} (h : bad e) : FailsBy bad (.error e : Except ε α) :=
  fun _ same => Except.error.inj same ▸ h

theorem bind {f : α → Except ε β} (first : FailsBy bad x) (rest : ∀ a, FailsBy bad (f a)) :
    FailsBy bad (x >>= f) := by
  cases x with
  | error e => exact error (first e rfl)
  | ok a => exact rest a

theorem mapError {bad' : ε' → Prop} {f : ε → ε'} (h : FailsBy bad x)
    (worse : ∀ e, bad e → bad' (f e)) : FailsBy bad' (x.mapError f) := by
  cases x with
  | error e => exact error (worse e (h e rfl))
  | ok a => exact ok a

end FailsBy

end Purse
