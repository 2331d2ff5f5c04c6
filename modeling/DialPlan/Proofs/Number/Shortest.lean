import DialPlan.Number.Shortest
import DialPlan.Proofs.Number.Rounding

/-!
# The shortest digits read back

Whatever grid the search ends on, the digits that it finds stand for the double they were searched
for (`shortestDigits_toBinary64`): a hit was checked, and the complete expansion is exact.  Dropping
zeros at the end changes nothing.
-/

namespace DialPlan

namespace DecimalDigits

/-- **The complete expansion is exact.** -/
theorem exact_toBinary64 (negative : Bool) {units : Nat} (h : Representable units) :
    (exact units).toBinary64 negative = Binary64.ofUnits negative units := by
  -- the exponent is a variable, lest the power be evaluated
  have hexact : ∀ n e, n = 1074 → e = Int.negSucc 1073 →
      Binary64.nearest negative (units * Nat.pow 5 n) e = Binary64.ofUnits negative units := by
    intro n e hn he
    have hround := roundUnits_mul units 1 (tenTo_pos 1074)
    rw [Nat.one_mul, roundUnits_of_representable h] at hround
    rw [he, Binary64.nearest, Binary64.ofQuotient, Nat.mul_assoc, pow_five_mul_unitsPerOne hn, hn,
      hround]
  rw [toBinary64, exact, Binary64.ofDecimal_eq_nearest]
  exact hexact 1074 (-1074) rfl rfl

/-- A hit stands for the double that was searched for. -/
theorem toBinary64_of_mem_hits {units : Nat} {target : Binary64} {negative : Bool} {exponent : Int}
    {d : DecimalDigits} (h : d ∈ hits units target negative exponent) :
    d.toBinary64 negative = target := by
  unfold hits at h
  exact eq_of_beq (List.mem_filter.mp h).2

theorem search_toBinary64 {units : Nat} {target : Binary64} {negative : Bool} (lead : Int)
    (hexact : (exact units).toBinary64 negative = target) (counts : List Nat) :
    (search units target negative lead counts).toBinary64 negative = target := by
  induction counts with
  | nil => exact hexact
  | cons count more ih =>
    rw [search]
    cases hhits : hits units target negative (lead - Int.ofNat count) with
    | nil => exact ih
    | cons d ds =>
      have hmem : d ∈ hits units target negative (lead - Int.ofNat count) := by
        rw [hhits]
        exact List.mem_cons_self
      exact toBinary64_of_mem_hits hmem

/-- **Dropping zeros at the end** keeps the double. -/
theorem stripZeros_toBinary64 (negative : Bool) (fuel : Nat) (d : DecimalDigits) :
    (stripZeros fuel d).toBinary64 negative = d.toBinary64 negative := by
  induction fuel generalizing d with
  | zero => rfl
  | succ fuel ih =>
    rw [stripZeros]
    split
    · next hzeros =>
      simp only [Bool.and_eq_true, beq_iff_eq] at hzeros
      have hdigits : d.digits / 10 * 10 = d.digits :=
        Nat.div_mul_cancel (Nat.dvd_of_mod_eq_zero hzeros.2)
      have hmove := Binary64.ofDecimal_mul_tenTo negative (d.digits / 10) 1 (d.exponent + 1)
      rw [tenTo_succ, tenTo_zero, Nat.one_mul, hdigits, Int.natCast_one, Int.add_sub_cancel]
        at hmove
      rw [ih, toBinary64, toBinary64, hmove]
    · rfl

theorem stripZeros_digits_ne_zero (fuel : Nat) {d : DecimalDigits} (h : d.digits ≠ 0) :
    (stripZeros fuel d).digits ≠ 0 := by
  induction fuel generalizing d with
  | zero => exact h
  | succ fuel ih =>
    rw [stripZeros]
    split
    · next hzeros =>
      simp only [Bool.and_eq_true, beq_iff_eq] at hzeros
      refine ih ?_
      show d.digits / 10 ≠ 0
      omega
    · exact h

/-- Digits of a positive count are not all zero. -/
theorem digits_ne_zero {d : DecimalDigits} {negative : Bool} {units : Nat} (hunits : units ≠ 0)
    (h : Representable units)
    (hd : d.toBinary64 negative = Binary64.ofUnits negative units) : d.digits ≠ 0 := by
  intro hzero
  have hnone : Representable 0 := ⟨overflowUnits_pos, Or.inl (twoTo_pos 53)⟩
  rw [toBinary64, hzero, Binary64.ofDecimal_eq_nearest, Binary64.nearest_zero,
    Binary64.ofUnits_of_representable hnone, Binary64.ofUnits_of_representable h] at hd
  cases hd
  exact hunits rfl

end DecimalDigits

/-- **The shortest digits read back** as the double. -/
theorem shortestDigits_toBinary64 (negative : Bool) {units : Nat} (h : Representable units) :
    (shortestDigits negative units).toBinary64 negative = Binary64.ofUnits negative units :=
  DecimalDigits.search_toBinary64 _ (DecimalDigits.exact_toBinary64 negative h) _

end DialPlan
