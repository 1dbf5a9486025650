/-
  Purse.Proofs.Codec.Endings

  How the texts of instants end.  Whatever a caller writes for an instant has a digit behind its
  last colon: the second with its decimals and the mark of UTC, the minutes of an offset, or, in a
  bare date, the day (`endsInDigit_of_parse?`).  Each part that is read leaves a suffix of the text
  before it, so the last part decides.
-/
import Purse.Proofs.Codec.Years

namespace Purse.Instant

open Text

/-- True of a text that has a digit behind which no colon follows. -/
def EndsInDigit (cs : List Char) : Prop :=
  ∃ d zone, isDigit d = true ∧ ':' ∉ zone ∧ d :: zone <:+ cs

theorem EndsInDigit.of_suffix {cs whole : List Char} (h : EndsInDigit cs) (back : cs <:+ whole) :
    EndsInDigit whole := by
  obtain ⟨d, zone, digit, plain, last⟩ := h
  exact ⟨d, zone, digit, plain, last.trans back⟩

/-- The part behind a colon holds that digit. -/
theorem EndsInDigit.exists_mem {cs front segment : List Char} (h : EndsInDigit cs)
    (cut : cs = front ++ ':' :: segment) : ∃ d ∈ segment, isDigit d = true := by
  obtain ⟨d, zone, digit, plain, last⟩ := h
  have other : ':' ≠ d := by
    rintro rfl
    cases digit
  have behind : ':' :: segment <:+ cs := cut ▸ List.suffix_append front _
  -- Of two ends of a text one is an end of the other.
  rcases List.suffix_or_suffix_of_suffix last behind with short | long
  · rcases List.suffix_cons_iff.1 short with same | short
    · exact absurd (List.cons.inj same).1.symm other
    · exact ⟨d, short.subset List.mem_cons_self, digit⟩
  · rcases List.mem_cons.1 (long.subset List.mem_cons_self) with same | member
    · exact absurd same other
    · exact absurd member plain

/-! ## Parts of the long form -/

theorem exists_digits_of_takePair {n : Nat} {cs rest : List Char}
    (taken : takePair cs = some (n, rest)) :
    ∃ a b, isDigit b = true ∧ a :: b :: rest = cs := by
  unfold takePair at taken
  split at taken
  · next a b left =>
      split at taken
      · next digits =>
          obtain ⟨-, rfl⟩ := Prod.mk.inj (Option.some.inj taken)
          exact ⟨a, b, digits.2, rfl⟩
      · cases taken
  · cases taken

theorem suffix_of_takePair {n : Nat} {cs rest : List Char}
    (taken : takePair cs = some (n, rest)) : rest <:+ cs := by
  obtain ⟨a, b, -, rfl⟩ := exists_digits_of_takePair taken
  exact List.suffix_append [a, b] rest

theorem suffix_of_takeFour {n : Nat} {cs rest : List Char}
    (taken : takeFour cs = some (n, rest)) : rest <:+ cs := by
  simp only [takeFour, Option.bind_eq_bind, Option.bind_eq_some_iff, Prod.exists, Option.some.injEq,
    Prod.mk.injEq] at taken
  obtain ⟨_, _, high, _, _, low, -, rfl⟩ := taken
  exact (suffix_of_takePair low).trans (suffix_of_takePair high)

theorem suffix_of_takeSeparator {cs rest : List Char} (taken : takeSeparator cs = some rest) :
    rest <:+ cs := by
  cases cs with
  | nil => cases taken
  | cons c cs =>
      simp only [takeSeparator, Option.ite_none_right_eq_some, Option.some.injEq] at taken
      obtain ⟨-, rfl⟩ := taken
      exact List.suffix_cons c cs

/-- The decimals of a second end in a digit, or there are none. -/
theorem exists_digit_of_takeFraction {nano : Nat} {cs rest : List Char}
    (taken : takeFraction cs = some (nano, rest)) :
    rest = cs ∨ ∃ d, isDigit d = true ∧ d :: rest <:+ cs := by
  unfold takeFraction at taken
  split at taken
  · next decimals =>
      dsimp only at taken
      split at taken
      · cases taken
      · next filled =>
          obtain ⟨-, rfl⟩ := Prod.mk.inj (Option.some.inj taken)
          have parts : decimals.takeWhile isDigit ++
              decimals.drop (decimals.takeWhile isDigit).length = decimals :=
            List.prefix_iff_eq_append.1 (List.takeWhile_prefix isDigit)
          have last := List.dropLast_append_getLast filled
          refine .inr ⟨_, List.mem_takeWhile_imp (List.getLast_mem filled), ?_⟩
          refine List.IsSuffix.trans ⟨(decimals.takeWhile isDigit).dropLast, ?_⟩
            (List.suffix_cons '.' decimals)
          rw [← List.singleton_append, ← List.append_assoc, last, parts]
  · obtain ⟨-, rfl⟩ := Prod.mk.inj (Option.some.inj taken)
    exact .inl rfl

theorem suffix_of_takeOffsetSign {negative : Bool} {cs rest : List Char}
    (taken : takeOffsetSign cs = some (negative, rest)) : rest <:+ cs := by
  unfold takeOffsetSign at taken
  split at taken <;> cases taken <;> exact List.suffix_cons _ _

/-- An offset is the mark of UTC, or ends in a digit. -/
theorem exists_digit_of_takeOffset {offset : Int} {cs rest : List Char}
    (taken : takeOffset (takeMark ':') cs = some (offset, rest)) :
    (∃ mark, mark ≠ ':' ∧ mark :: rest = cs) ∨ ∃ d, isDigit d = true ∧ d :: rest <:+ cs := by
  unfold takeOffset at taken
  split at taken
  · cases taken
    exact .inl ⟨'Z', by decide, rfl⟩
  · cases taken
    exact .inl ⟨'z', by decide, rfl⟩
  · simp only [Option.bind_eq_bind, Option.bind_eq_some_iff, Prod.exists] at taken
    obtain ⟨_, behindSign, sign, _, _, hours, _, mark, _, behindMinutes, minutes, last⟩ := taken
    split at last
    · obtain ⟨-, rfl⟩ := Prod.mk.inj (Option.some.inj last)
      obtain ⟨a, b, digit, rfl⟩ := exists_digits_of_takePair minutes
      have inMark := (List.suffix_cons a (b :: behindMinutes)).trans (suffix_of_takeMark mark)
      have inSign := inMark.trans (suffix_of_takePair hours)
      exact .inr ⟨b, digit, inSign.trans (suffix_of_takeOffsetSign sign)⟩
    · cases last

/-- What is read of a second, its decimals and the zone ends in a digit, apart from the mark of
    UTC. -/
theorem endsInDigit_of_second {second nano : Nat} {offset : Int}
    {cs behindSecond behindFraction : List Char} (pair : takePair cs = some (second, behindSecond))
    (fraction : takeFraction behindSecond = some (nano, behindFraction))
    (zone : takeOffset (takeMark ':') behindFraction = some (offset, [])) : EndsInDigit cs := by
  obtain ⟨a, b, digit, rfl⟩ := exists_digits_of_takePair pair
  have inSecond : behindSecond <:+ a :: b :: behindSecond := List.suffix_append [a, b] _
  have decimals := exists_digit_of_takeFraction fraction
  rcases exists_digit_of_takeOffset zone with ⟨mark, other, rfl⟩ | ⟨d, digit, back⟩
  · -- The mark of UTC stands behind the second or behind its decimals.
    have plain : ':' ∉ [mark] := fun member => other (List.mem_singleton.1 member).symm
    rcases decimals with rfl | ⟨d, digit, back⟩
    · exact ⟨b, [mark], digit, plain, List.suffix_cons a _⟩
    · exact ⟨d, [mark], digit, plain, back.trans inSecond⟩
  · have inFraction : behindFraction <:+ behindSecond := by
      rcases decimals with rfl | ⟨d, -, back⟩
      · exact List.suffix_rfl
      · exact (List.suffix_cons d _).trans back
    exact ⟨d, [], digit, List.not_mem_nil, back.trans (inFraction.trans inSecond)⟩

/-- Whatever a caller writes for an instant ends in a digit, apart from the mark of UTC. -/
theorem endsInDigit_of_parse? {s : String} {t : Instant} (read : parse? s = some t) :
    EndsInDigit s.toList := by
  rcases Option.or_eq_some_iff.1 read with long | ⟨-, bare⟩
  · -- Part by part, from the year on.
    obtain ⟨⟨_, _⟩, year, long⟩ := Option.bind_eq_some_iff.1 long
    obtain ⟨_, mark, long⟩ := Option.bind_eq_some_iff.1 long
    obtain ⟨⟨_, _⟩, month, long⟩ := Option.bind_eq_some_iff.1 long
    obtain ⟨_, mark', long⟩ := Option.bind_eq_some_iff.1 long
    obtain ⟨⟨_, _⟩, day, long⟩ := Option.bind_eq_some_iff.1 long
    obtain ⟨_, separator, long⟩ := Option.bind_eq_some_iff.1 long
    obtain ⟨⟨_, _⟩, hour, long⟩ := Option.bind_eq_some_iff.1 long
    obtain ⟨_, colon, long⟩ := Option.bind_eq_some_iff.1 long
    obtain ⟨⟨_, _⟩, minute, long⟩ := Option.bind_eq_some_iff.1 long
    obtain ⟨_, colon', long⟩ := Option.bind_eq_some_iff.1 long
    obtain ⟨⟨_, _⟩, second, long⟩ := Option.bind_eq_some_iff.1 long
    obtain ⟨⟨_, _⟩, fraction, long⟩ := Option.bind_eq_some_iff.1 long
    obtain ⟨⟨_, _⟩, zone, last⟩ := Option.bind_eq_some_iff.1 long
    dsimp only at last
    split at last
    · next nothing =>
        subst nothing
        have inYear := (suffix_of_takeMark mark).trans (suffix_of_takeFour year)
        have inMonth := (suffix_of_takeMark mark').trans (suffix_of_takePair month)
        have inDay := (suffix_of_takeSeparator separator).trans (suffix_of_takePair day)
        have inHour := (suffix_of_takeMark colon).trans (suffix_of_takePair hour)
        have inMinute := (suffix_of_takeMark colon').trans (suffix_of_takePair minute)
        exact (endsInDigit_of_second second fraction zone).of_suffix
          (inMinute.trans (inHour.trans (inDay.trans (inMonth.trans inYear))))
    · cases last
  · obtain ⟨digits, filled, all, back⟩ := exists_digits_of_ofBareDate? bare
    have last : [digits.getLast filled] <:+ digits :=
      ⟨digits.dropLast, List.dropLast_append_getLast filled⟩
    exact ⟨digits.getLast filled, [], all _ (List.getLast_mem filled), List.not_mem_nil,
      last.trans back⟩

end Purse.Instant
