import DialPlan.Proofs.Number.Order
import DialPlan.Proofs.Number.Rounding

/-!
# Rounding keeps the order

A larger quotient is never rounded to less (`roundUnits_mono`): either both keep the same bits, or a
power of two stands between them, which rounding does not cross.  For integers this means that two
of them are in the order of their doubles unless they share one (`Binary64.unitsOf_lt_iff`), and up
to `2 ^ 53` no two do (`Binary64.apart_of_small`).
-/

namespace DialPlan

variable {m n num den : Nat}

/-! ## Quotients -/

theorem divideToEven_le (num den : Nat) : divideToEven num den ≤ num / den + 1 := by
  unfold divideToEven
  dsimp only
  have hodd : num / den % 2 < 2 := Nat.mod_lt _ Nat.two_pos
  repeat' split
  all_goals omega

theorem divideToEven_mono (den : Nat) (h : m ≤ n) : divideToEven m den ≤ divideToEven n den := by
  rcases Nat.lt_or_eq_of_le (Nat.div_le_div_right h : m / den ≤ n / den) with hlt | heq
  case inl =>
    calc divideToEven m den
        ≤ m / den + 1 := divideToEven_le m den
      _ ≤ n / den := hlt
      _ ≤ divideToEven n den := div_le_divideToEven n den
  case inr =>
    -- of the same whole part, the remainders decide
    have hrest : m % den ≤ n % den := by
      have hm := Nat.div_add_mod m den
      have hn := Nat.div_add_mod n den
      rw [heq] at hm
      omega
    have hodd : n / den % 2 < 2 := Nat.mod_lt _ Nat.two_pos
    unfold divideToEven
    dsimp only
    rw [heq]
    repeat' split
    all_goals omega

/-- Rounding does not rise above a power of two that has the bits that are kept. -/
theorem roundUnits_le_twoTo (hden : 0 < den) (hn : lostBits (num / den) ≤ n)
    (h : num ≤ twoTo n * den) : roundUnits num den ≤ twoTo n := by
  have hsplit : twoTo n = twoTo (n - lostBits (num / den)) * twoTo (lostBits (num / den)) := by
    rw [← twoTo_add, Nat.sub_add_cancel hn]
  have hscale : 0 < den * twoTo (lostBits (num / den)) := Nat.mul_pos hden (twoTo_pos _)
  rw [roundUnits, hsplit]
  refine Nat.mul_le_mul_right _ ?_
  rw [hsplit, Nat.mul_right_comm, Nat.mul_assoc] at h
  rw [← divideToEven_mul_self (twoTo (n - lostBits (num / den))) _ hscale]
  exact divideToEven_mono _ h

theorem lostBits_mono (h : m ≤ n) : lostBits m ≤ lostBits n := by
  unfold lostBits
  by_cases hm : m = 0
  · subst hm
    simp
  · have hlog : Nat.log2 m ≤ Nat.log2 n :=
      (Nat.le_log2 (by omega)).mpr (Nat.le_trans (twoTo_log2_le hm) h)
    omega

/-- **A larger quotient is never rounded to less.** -/
theorem roundUnits_mono (hden : 0 < den) (h : m ≤ n) : roundUnits m den ≤ roundUnits n den := by
  have hquotient : m / den ≤ n / den := Nat.div_le_div_right h
  rcases Nat.lt_or_eq_of_le (lostBits_mono hquotient) with hlost | hlost
  case inl =>
    -- more bits are lost of `n`, so the leading one of its quotient stands between
    have hlog : Nat.log2 (m / den) + 1 ≤ Nat.log2 (n / den) := by
      unfold lostBits at hlost
      omega
    have hkept : 52 ≤ Nat.log2 (n / den) := by
      unfold lostBits at hlost
      omega
    have hbelow : m / den < twoTo (Nat.log2 (n / den)) :=
      Nat.lt_of_lt_of_le (lt_twoTo_log2 _) (twoTo_le_twoTo hlog)
    have habove : twoTo (Nat.log2 (n / den)) ≤ n / den := by
      refine twoTo_log2_le fun hzero => ?_
      rw [hzero] at hkept
      simp at hkept
    calc roundUnits m den
        ≤ twoTo (Nat.log2 (n / den)) := by
          refine roundUnits_le_twoTo hden ?_ (Nat.le_of_lt ((Nat.div_lt_iff_lt_mul hden).mp hbelow))
          unfold lostBits
          omega
      _ ≤ roundUnits n den :=
          twoTo_le_roundUnits hden hkept ((Nat.le_div_iff_mul_le hden).mp habove)
  case inr =>
    unfold roundUnits
    rw [hlost]
    exact Nat.mul_le_mul_right _ (divideToEven_mono _ h)

/-! ## Integers -/

theorem twoTo_lt_twoTo (h : m < n) : twoTo m < twoTo n := Nat.pow_lt_pow_right Nat.one_lt_two h

theorem twoTo_dvd_twoTo (h : m ≤ n) : twoTo m ∣ twoTo n := Nat.pow_dvd_pow 2 h

theorem log2_lt_of_lt_twoTo (hm : m ≠ 0) (h : m < twoTo n) : Nat.log2 m < n :=
  (Nat.log2_lt hm).mpr h

theorem log2_twoTo (n : Nat) : Nat.log2 (twoTo n) = n := Nat.log2_two_pow

/-- Whole numbers up to `2 ^ 53` are counted without loss. -/
theorem representable_of_small (h : n ≤ twoTo 53) : Representable (n * unitsPerOne) := by
  have hscale : twoTo 53 * unitsPerOne = twoTo 1127 := by rw [unitsPerOne, ← twoTo_add]
  have hbound : n * unitsPerOne ≤ twoTo 1127 := hscale ▸ Nat.mul_le_mul_right _ h
  refine ⟨Nat.lt_of_le_of_lt hbound (twoTo_lt_twoTo (by decide)), ?_⟩
  rcases Nat.eq_zero_or_pos n with rfl | hpos
  · exact Or.inl (by rw [Nat.zero_mul]; exact twoTo_pos 53)
  · refine Or.inr (Nat.mod_eq_zero_of_dvd ?_)
    rcases Nat.lt_or_eq_of_le h with hlt | rfl
    case inl =>
      have hlt' : n * unitsPerOne < twoTo 1127 :=
        hscale ▸ Nat.mul_lt_mul_of_pos_right hlt unitsPerOne_pos
      have hlog : Nat.log2 (n * unitsPerOne) < 1127 :=
        log2_lt_of_lt_twoTo (Nat.mul_pos hpos unitsPerOne_pos).ne' hlt'
      exact Dvd.dvd.mul_left (twoTo_dvd_twoTo (by omega)) n
    case inr =>
      rw [hscale, log2_twoTo]
      exact twoTo_dvd_twoTo (by decide)

namespace Binary64

variable {a b : Int}

/-- **The count of the double nearest to an integer**, overflow left aside. -/
def unitsOf (a : Int) : Int := signed (a < 0) (roundUnits (a.natAbs * unitsPerOne) 1)

theorem scaled?_ofInt (h : (ofInt a).isFinite = true) : (ofInt a).scaled? = some (unitsOf a) := by
  unfold ofInt ofQuotient ofUnits at h ⊢
  unfold unitsOf
  split
  · rfl
  · next hnot =>
    rw [dif_neg hnot] at h
    cases h

theorem signed_le_signed {s t : Bool} {x y : Nat} (hs : s = true → t = true → y ≤ x)
    (ht : s = false → t = false → x ≤ y) (h : t = true → s = true) : signed s x ≤ signed t y := by
  unfold signed
  cases s <;> cases t <;> simp_all

/-- **A larger integer never has the smaller count.** -/
theorem unitsOf_mono (h : a ≤ b) : unitsOf a ≤ unitsOf b := by
  have hround : ∀ {m n : Nat}, m ≤ n →
      roundUnits (m * unitsPerOne) 1 ≤ roundUnits (n * unitsPerOne) 1 := fun hmn =>
    roundUnits_mono Nat.one_pos (Nat.mul_le_mul_right _ hmn)
  refine signed_le_signed (fun ha hb => hround ?_) (fun ha hb => hround ?_) fun hb => ?_ <;>
    simp only [decide_eq_true_eq, decide_eq_false_iff_not] at * <;> omega

section Finite

variable (ha : (ofInt a).isFinite = true) (hb : (ofInt b).isFinite = true)

include ha hb

theorem same_ofInt : (ofInt a).same (ofInt b) = decide (unitsOf a = unitsOf b) := by
  rw [same, scaled?_ofInt ha, scaled?_ofInt hb]
  rfl

theorem lt_ofInt : (ofInt a).lt (ofInt b) = decide (unitsOf a < unitsOf b) := by
  rw [lt, scaled?_ofInt ha, scaled?_ofInt hb]

theorem le_ofInt : (ofInt a).le (ofInt b) = decide (unitsOf a ≤ unitsOf b) := by
  rw [le, scaled?_ofInt ha, scaled?_ofInt hb]

end Finite

/-- A product with one is exact. -/
theorem mul_one (x : Binary64) : x.mul (.ofInt 1) = x := by
  have hone : Representable (1 * unitsPerOne) := representable_of_small (twoTo_pos 53)
  have hofInt : ofInt 1 = .finite false (1 * unitsPerOne) hone := by
    rw [ofInt, ofQuotient, Int.natAbs_one, roundUnits_of_representable hone,
      ofUnits_of_representable hone]
    rfl
  rw [hofInt]
  cases x with
  | finite negative units h =>
    have hround : roundUnits (units * unitsPerOne) (1 * unitsPerOne) = roundUnits units 1 :=
      roundUnits_mul units 1 unitsPerOne_pos
    rw [Nat.one_mul, roundUnits_of_representable h] at hround
    rw [mul, Nat.one_mul, hround, ofUnits_of_representable (by simpa using h)]
    simp
  | infinite negative =>
    rw [mul, if_neg (by rw [Nat.one_mul]; exact unitsPerOne_pos.ne')]
    simp
  | nan => rfl

/-! ## Integers that share a double -/

/-- **Two integers are told apart** when they are nearest to different doubles; an integer is no
other than itself. -/
def Apart (a b : Int) : Prop := a = b ∨ (ofInt a).same (ofInt b) = false

instance (a b : Int) : Decidable (Apart a b) := inferInstanceAs (Decidable (_ ∨ _))

theorem apart_iff (ha : (ofInt a).isFinite = true) (hb : (ofInt b).isFinite = true) :
    Apart a b ↔ (unitsOf a = unitsOf b ↔ a = b) := by
  rw [Apart, same_ofInt ha hb, decide_eq_false_iff_not]
  constructor
  · rintro (rfl | hne)
    · simp
    · exact ⟨fun h => absurd h hne, fun h => absurd (h ▸ rfl) hne⟩
  · intro h
    by_cases hab : a = b
    · exact Or.inl hab
    · exact Or.inr fun heq => hab (h.mp heq)

theorem unitsOf_eq_of_not_apart (ha : (ofInt a).isFinite = true) (hb : (ofInt b).isFinite = true)
    (h : ¬ Apart a b) : unitsOf a = unitsOf b := by
  rw [Apart, same_ofInt ha hb, decide_eq_false_iff_not, not_or, not_not] at h
  exact h.2

/-- **Integers that are told apart are in the order of their counts.** -/
theorem unitsOf_lt_iff (h : unitsOf a = unitsOf b ↔ a = b) : unitsOf a < unitsOf b ↔ a < b := by
  constructor
  · intro hlt
    by_contra hge
    exact absurd (unitsOf_mono (Int.not_lt.mp hge)) (Int.not_le.mpr hlt)
  · intro hlt
    have hle : unitsOf a ≤ unitsOf b := unitsOf_mono (Int.le_of_lt hlt)
    exact lt_of_le_of_ne hle fun heq => Int.ne_of_lt hlt (h.mp heq)

theorem isFinite_of_small (h : a.natAbs ≤ twoTo 53) : (ofInt a).isFinite = true := by
  rw [ofInt, ofQuotient, roundUnits_of_representable (representable_of_small h),
    ofUnits_of_representable (representable_of_small h)]
  rfl

theorem unitsOf_of_small (h : a.natAbs ≤ twoTo 53) : unitsOf a = a * unitsPerOne := by
  rw [unitsOf, roundUnits_of_representable (representable_of_small h), signed]
  split
  case isTrue hneg =>
    have habs : (a.natAbs : Int) = -a := by
      rw [decide_eq_true_eq] at hneg
      omega
    rw [Int.ofNat_eq_natCast, Int.natCast_mul, habs, Int.neg_mul, Int.neg_neg]
  case isFalse hneg =>
    have habs : (a.natAbs : Int) = a := by
      rw [decide_eq_true_eq] at hneg
      omega
    rw [Int.ofNat_eq_natCast, Int.natCast_mul, habs]

/-- **Up to `2 ^ 53` all integers are told apart.** -/
theorem apart_of_small (ha : a.natAbs ≤ twoTo 53) (hb : b.natAbs ≤ twoTo 53) : Apart a b := by
  rw [apart_iff (isFinite_of_small ha) (isFinite_of_small hb), unitsOf_of_small ha,
    unitsOf_of_small hb]
  have hpos : (unitsPerOne : Int) ≠ 0 := Int.natCast_ne_zero.mpr unitsPerOne_pos.ne'
  exact Int.mul_eq_mul_right_iff hpos

end Binary64

end DialPlan
