import DialPlan.Number.Decimal
import Mathlib.Tactic.Ring

/-!
# Rounding of quotients and decimals

Rounding depends on the quotient and not on how it is written (`roundUnits_mul`).  A decimal is
rounded as the quotient that it is; the bounds beyond which its power is not computed only shorten
the way to the same answer (`Binary64.ofDecimal_eq_nearest`).  So zeros may move between the digits
and the exponent (`Binary64.ofDecimal_mul_tenTo`).
-/

namespace DialPlan

/-! ## Powers -/

theorem twoTo_add (m n : Nat) : twoTo (m + n) = twoTo m * twoTo n := Nat.pow_add 2 m n

theorem tenTo_add (m n : Nat) : tenTo (m + n) = tenTo m * tenTo n := Nat.pow_add 10 m n

theorem twoTo_le_tenTo (n : Nat) : twoTo n ≤ tenTo n :=
  Nat.pow_le_pow_left (by decide) n

/-- Four binary digits are more than a decimal one. -/
theorem tenTo_le_twoTo (n : Nat) : tenTo n ≤ twoTo (4 * n) := by
  have h : twoTo (4 * n) = 16 ^ n := Nat.pow_mul 2 4 n
  rw [h]
  exact Nat.pow_le_pow_left (by decide) n

theorem twoTo_log2_le {n : Nat} (h : n ≠ 0) : twoTo (Nat.log2 n) ≤ n := Nat.log2_self_le h

theorem lt_twoTo_log2 (n : Nat) : n < twoTo (Nat.log2 n + 1) := Nat.lt_log2_self

theorem unitsPerOne_pos : 0 < unitsPerOne := twoTo_pos 1074

/-- As many fives as there are twos in a one. -/
theorem pow_five_mul_unitsPerOne {n : Nat} (h : n = 1074) :
    Nat.pow 5 n * unitsPerOne = tenTo n := by
  rw [unitsPerOne, ← h]
  exact (Nat.mul_pow 5 2 n).symm

/-! ## Quotients -/

theorem divideToEven_mul (num den : Nat) {k : Nat} (hk : 0 < k) :
    divideToEven (num * k) (den * k) = divideToEven num den := by
  have hrest : 2 * (num % den * k) = 2 * (num % den) * k := (Nat.mul_assoc ..).symm
  unfold divideToEven
  dsimp only
  rw [Nat.mul_div_mul_right _ _ hk, Nat.mul_mod_mul_right, hrest]
  simp only [Nat.mul_lt_mul_right hk]

/-- **Rounding depends on the quotient alone.** -/
theorem roundUnits_mul (num den : Nat) {k : Nat} (hk : 0 < k) :
    roundUnits (num * k) (den * k) = roundUnits num den := by
  unfold roundUnits
  dsimp only
  rw [Nat.mul_div_mul_right _ _ hk, Nat.mul_right_comm den k, divideToEven_mul _ _ hk]

theorem div_le_divideToEven (num den : Nat) : num / den ≤ divideToEven num den := by
  unfold divideToEven
  dsimp only
  split
  · exact Nat.le_refl _
  · split
    · exact Nat.le_succ _
    · exact Nat.le_add_right _ _

/-- Rounding does not fall below a power of two that has the 53 bits. -/
theorem twoTo_le_roundUnits {num den n : Nat} (hden : 0 < den) (hn : 52 ≤ n)
    (h : twoTo n * den ≤ num) : twoTo n ≤ roundUnits num den := by
  have hquotient : twoTo n ≤ num / den := (Nat.le_div_iff_mul_le hden).mpr h
  have hne : num / den ≠ 0 := by
    have hpos := twoTo_pos n
    omega
  have hlog : n ≤ Nat.log2 (num / den) := (Nat.le_log2 hne).mpr hquotient
  have hsplit : Nat.log2 (num / den) = 52 + lostBits (num / den) := by
    unfold lostBits
    omega
  have hkept : twoTo 52 ≤ num / (den * twoTo (lostBits (num / den))) := by
    rw [← Nat.div_div_eq_div_mul, Nat.le_div_iff_mul_le (twoTo_pos _), ← twoTo_add, ← hsplit]
    exact twoTo_log2_le hne
  calc twoTo n
      ≤ twoTo (Nat.log2 (num / den)) := twoTo_le_twoTo hlog
    _ = twoTo 52 * twoTo (lostBits (num / den)) := by rw [← twoTo_add, ← hsplit]
    _ ≤ roundUnits num den :=
        Nat.mul_le_mul_right _ (Nat.le_trans hkept (div_le_divideToEven _ _))

/-- Less than half of the smallest count is nothing. -/
theorem roundUnits_eq_zero {num den : Nat} (h : 2 * num < den) : roundUnits num den = 0 := by
  have hlt : num < den := by omega
  unfold roundUnits lostBits divideToEven
  rw [Nat.div_eq_of_lt hlt]
  simp [Nat.div_eq_of_lt hlt, Nat.mod_eq_of_lt hlt, h]

namespace Binary64

theorem ofUnits_of_overflow {negative : Bool} {units : Nat} (h : overflowUnits ≤ units) :
    ofUnits negative units = .infinite negative := by
  rw [ofUnits, dif_neg]
  intro hrepresentable
  exact absurd hrepresentable.1 (Nat.not_lt.mpr h)

theorem ofQuotient_mul (negative : Bool) (num den : Nat) {k : Nat} (hk : 0 < k) :
    ofQuotient negative (num * k) (den * k) = ofQuotient negative num den := by
  rw [ofQuotient, ofQuotient, Nat.mul_right_comm, roundUnits_mul _ _ hk]

/-- A quotient of four hundred digits or more overflows. -/
theorem ofQuotient_of_large {negative : Bool} {num den : Nat} (hden : 0 < den)
    (h : tenTo 401 * den ≤ num) : ofQuotient negative num den = .infinite negative := by
  have hbase : twoTo 1024 ≤ tenTo 401 := by decide +kernel
  have hunits : overflowUnits = twoTo 1024 * unitsPerOne := by
    rw [overflowUnits, unitsPerOne, ← twoTo_add]
  refine ofUnits_of_overflow (twoTo_le_roundUnits hden (by decide) ?_)
  calc overflowUnits * den
      = twoTo 1024 * den * unitsPerOne := by rw [hunits, Nat.mul_right_comm]
    _ ≤ num * unitsPerOne :=
        Nat.mul_le_mul_right _ (Nat.le_trans (Nat.mul_le_mul_right _ hbase) h)

/-- **An integer among the doubles has a numeral.** -/
theorem hasNumeral_of_isFinite {n : Int} (h : (ofInt n).isFinite = true) :
    hasNumeral n = true := by
  rw [hasNumeral_iff]
  by_contra hlarge
  have hdigits : tenTo 401 * 1 ≤ n.natAbs := by
    rw [Nat.mul_one]
    exact Nat.le_trans (tenTo_le_tenTo (by decide)) (Nat.not_lt.mp hlarge)
  rw [ofInt, ofQuotient_of_large Nat.one_pos hdigits] at h
  cases h

/-! ## Decimals -/

/-- The double nearest to `digits · 10^exponent`, without shortcuts. -/
def nearest (negative : Bool) (digits : Nat) (exponent : Int) : Binary64 :=
  match exponent with
  | .ofNat e => ofQuotient negative (digits * tenTo e) 1
  | .negSucc e => ofQuotient negative digits (tenTo (e + 1))

theorem nearest_zero (negative : Bool) (exponent : Int) :
    nearest negative 0 exponent = ofUnits negative 0 := by
  cases exponent with
  | ofNat e =>
    rw [nearest, ofQuotient, Nat.zero_mul, Nat.zero_mul, roundUnits_eq_zero Nat.one_pos]
  | negSucc e =>
    rw [nearest, ofQuotient, Nat.zero_mul, roundUnits_eq_zero (tenTo_pos _)]

/-- A large decimal overflows. -/
theorem nearest_of_large {negative : Bool} {digits : Nat} {exponent : Int} (hdigits : digits ≠ 0)
    (h : 400 < exponent + Int.ofNat (Nat.log2 digits) / 4) :
    nearest negative digits exponent = .infinite negative := by
  have hlog : tenTo (Nat.log2 digits / 4) ≤ digits :=
    Nat.le_trans (tenTo_le_twoTo _) (Nat.le_trans (twoTo_le_twoTo (by omega))
      (twoTo_log2_le hdigits))
  cases exponent with
  | ofNat e =>
    refine ofQuotient_of_large Nat.one_pos ?_
    calc tenTo 401 * 1
        ≤ tenTo (Nat.log2 digits / 4 + e) := by
          rw [Nat.mul_one]
          refine tenTo_le_tenTo ?_
          simp only [Int.ofNat_eq_natCast] at h
          omega
      _ = tenTo (Nat.log2 digits / 4) * tenTo e := tenTo_add _ _
      _ ≤ digits * tenTo e := Nat.mul_le_mul_right _ hlog
  | negSucc e =>
    refine ofQuotient_of_large (tenTo_pos _) ?_
    calc tenTo 401 * tenTo (e + 1)
        = tenTo (401 + (e + 1)) := (tenTo_add _ _).symm
      _ ≤ tenTo (Nat.log2 digits / 4) := by
          refine tenTo_le_tenTo ?_
          simp only [Int.ofNat_eq_natCast] at h
          omega
      _ ≤ digits := hlog

/-- A small one vanishes. -/
theorem nearest_of_small {negative : Bool} {digits : Nat} {exponent : Int}
    (h : exponent + Int.ofNat (Nat.log2 digits) < -400) :
    nearest negative digits exponent = ofUnits negative 0 := by
  have hbase : twoTo 1076 ≤ tenTo 401 := by decide +kernel
  cases exponent with
  | ofNat e =>
    simp only [Int.ofNat_eq_natCast] at h
    omega
  | negSucc e =>
    have hexponent : 401 + Nat.log2 digits ≤ e + 1 := by
      simp only [Int.ofNat_eq_natCast] at h
      omega
    rw [nearest, ofQuotient, roundUnits_eq_zero]
    calc 2 * (digits * unitsPerOne)
        < 2 * (twoTo (Nat.log2 digits + 1) * unitsPerOne) :=
          Nat.mul_lt_mul_of_pos_left
            (Nat.mul_lt_mul_of_pos_right (lt_twoTo_log2 digits) unitsPerOne_pos) Nat.two_pos
      _ = unitsPerOne * 2 * 2 * twoTo (Nat.log2 digits) := by
          rw [twoTo_succ]
          ring
      _ = twoTo 1076 * twoTo (Nat.log2 digits) := by rw [unitsPerOne, ← twoTo_succ, ← twoTo_succ]
      _ ≤ tenTo 401 * tenTo (Nat.log2 digits) := Nat.mul_le_mul hbase (twoTo_le_tenTo _)
      _ = tenTo (401 + Nat.log2 digits) := (tenTo_add _ _).symm
      _ ≤ tenTo (e + 1) := tenTo_le_tenTo hexponent

/-- **The shortcuts lead to the same double.** -/
theorem ofDecimal_eq_nearest (negative : Bool) (digits : Nat) (exponent : Int) :
    ofDecimal negative digits exponent = nearest negative digits exponent := by
  unfold ofDecimal
  split
  · next hzero => rw [hzero, nearest_zero]
  · next hdigits =>
    dsimp only
    split
    · next hlarge => rw [nearest_of_large hdigits hlarge]
    · split
      · next hsmall => rw [nearest_of_small hsmall]
      · cases exponent <;> rfl

/-! ## Zeros at the end -/

theorem nearest_mul_ten (negative : Bool) (digits : Nat) (exponent : Int) :
    nearest negative (digits * 10) (exponent - 1) = nearest negative digits exponent := by
  cases exponent with
  | ofNat e =>
    cases e with
    | zero =>
      show ofQuotient negative (digits * 10) (1 * 10) = ofQuotient negative (digits * 1) 1
      rw [ofQuotient_mul _ _ _ (by decide), Nat.mul_one]
    | succ e =>
      have hexponent : Int.ofNat (e + 1) - 1 = Int.ofNat e := by
        simp only [Int.ofNat_eq_natCast]
        omega
      rw [hexponent, nearest, nearest, tenTo_succ, Nat.mul_right_comm, Nat.mul_assoc digits]
  | negSucc e =>
    have hexponent : Int.negSucc e - 1 = Int.negSucc (e + 1) := rfl
    rw [hexponent, nearest, nearest, tenTo_succ (e + 1), ofQuotient_mul _ _ _ (by decide)]

/-- **Zeros move between the digits and the exponent.** -/
theorem ofDecimal_mul_tenTo (negative : Bool) (digits k : Nat) (exponent : Int) :
    ofDecimal negative (digits * tenTo k) (exponent - k) = ofDecimal negative digits exponent := by
  rw [ofDecimal_eq_nearest, ofDecimal_eq_nearest]
  induction k with
  | zero => rw [tenTo_zero, Nat.mul_one, Int.natCast_zero, Int.sub_zero]
  | succ k ih =>
    have hexponent : exponent - ((k + 1 : Nat) : Int) = exponent - k - 1 := by omega
    rw [hexponent, tenTo_succ, ← Nat.mul_assoc, nearest_mul_ten, ih]

end Binary64

end DialPlan
