/-
  Purse.Proofs.Text.Digits

  The value of a run of digits.  It is put together from the values of its parts
  (`numeralValue_append`) and stays below the power of ten that its length names, so that the digits
  behind a point stay below one unit (`fractionValue_lt`).
-/
import Mathlib.Algebra.Group.Nat.Defs
import Mathlib.Data.List.Induction
import Purse.Text.Digits

namespace Purse.Text

/-- The number in front of `ds` is moved up by as many places as `ds` has digits. -/
theorem numeralValue_append (cs ds : List Char) :
    numeralValue (cs ++ ds) = numeralValue cs * 10 ^ ds.length + numeralValue ds := by
  induction ds using List.reverseRecOn with
  | nil => simp [numeralValue]
  | append_singleton ds d ih =>
      rw [← List.append_assoc, numeralValue_append_singleton, ih, numeralValue_append_singleton,
        List.length_append, List.length_singleton, Nat.pow_succ]
      grind

@[simp] theorem numeralValue_zeros (n : Nat) : numeralValue (List.replicate n '0') = 0 := by
  induction n with
  | zero => rfl
  | succ n ih => rw [List.replicate_succ', numeralValue_append_singleton, ih]; rfl

theorem numeralValue_lt {cs : List Char} (h : ∀ c ∈ cs, isDigit c = true) :
    numeralValue cs < 10 ^ cs.length := by
  induction cs using List.reverseRecOn with
  | nil => exact Nat.one_pos
  | append_singleton cs c ih =>
      obtain ⟨front, last⟩ := List.forall_mem_append.1 h
      have digit : digitValue c ≤ 9 := by
        have bounds := List.forall_mem_singleton.1 last
        simp only [isDigit, Bool.and_eq_true, decide_eq_true_eq] at bounds
        have most : c.toNat ≤ '9'.toNat := bounds.2
        simp only [digitValue]
        exact Nat.sub_le_of_le_add most
      have before := ih front
      rw [numeralValue_append_singleton, List.length_append, List.length_singleton, Nat.pow_succ]
      omega

/-- Up to `places` digits are scaled to the last place. -/
theorem fractionValue_of_length_le {places : Nat} {cs : List Char} (h : cs.length ≤ places) :
    fractionValue places cs = numeralValue cs * 10 ^ (places - cs.length) := by
  rw [fractionValue, List.take_of_length_le h, numeralValue_append, numeralValue_zeros,
    List.length_replicate, Nat.add_zero]

theorem fractionValue_lt {places : Nat} {cs : List Char} (h : ∀ c ∈ cs, isDigit c = true) :
    fractionValue places cs < 10 ^ places := by
  have digits : ∀ c ∈ cs.take places ++ List.replicate (places - cs.length) '0',
      isDigit c = true := by
    refine List.forall_mem_append.2 ⟨fun c member => h c (List.mem_of_mem_take member), ?_⟩
    intro c member
    rw [List.eq_of_mem_replicate member]
    rfl
  have value := numeralValue_lt digits
  rw [List.length_append, List.length_take, List.length_replicate] at value
  have width : min places cs.length + (places - cs.length) = places := by omega
  rwa [width] at value

end Purse.Text
