/-
  Purse.Query.Estimate

  Rough numbers.  An estimate stands for a count: it is ten times the binary logarithm of the
  count, rounded, so that products of counts are sums of estimates.  Sums of counts are
  approximated: the larger estimate, and some more the closer the other one is.
-/

namespace Purse.Query.Estimate

/-- The tenths that eighths of a power of two add to its logarithm. -/
def eighths : List Int := [0, 2, 3, 5, 6, 7, 8, 9]

/-- The estimate of a count. -/
def ofCount (n : Nat) : Int :=
  let log := Nat.log2 n
  10 * log + eighths.getD (8 * n / Nat.pow 2 log % 8) 0

/-- The distances of two estimates up to which the smaller one adds one more to the larger. -/
def nearness : List Int := [1, 3, 5, 8, 11, 14, 18, 24, 31, 49]

/-- The estimate of the sum of two counts. -/
def add (a b : Int) : Int :=
  let apart := if a ≤ b then b - a else a - b
  max a b + (nearness.filter (apart ≤ ·)).length

/-- The estimate of the logarithm of a count, which is what a search among so many takes. -/
def steps (a : Int) : Int := if a ≤ 10 then 0 else ofCount a.toNat - 33

end Purse.Query.Estimate
