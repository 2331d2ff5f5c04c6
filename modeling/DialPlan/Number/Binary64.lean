import DialPlan.Number.Power

/-!
# Double-precision numbers

A finite double is a sign and a count of the smallest positive double, 2^-1074.  Every finite
double is such a count, no count has two spellings, and order, equality and rounding are exact
statements about natural numbers.

Design decisions:

* The two zeros differ as values of the type and are equal as numbers (`Binary64.same`).
* There is one not-a-number; no operation of this library can tell two of them apart.
* A count is a double exactly when it is below 2^2098 and its bits beyond the first 53 are zero;
  the proof is a field of the constructor.

Main statement: `roundUnits_of_representable`, rounding leaves a representable count alone.
-/

namespace DialPlan

/-- The count at which doubles overflow: 2^1024. -/
def overflowUnits : Nat := twoTo 2098

theorem overflowUnits_pos : 0 < overflowUnits := by
  exact twoTo_pos 2098

/-- **Counts of 2^-1074 that are doubles**: at most 53 significant bits, below the overflow
threshold. -/
def Representable (units : Nat) : Prop :=
  units < overflowUnits ∧ (units < twoTo 53 ∨ units % twoTo (Nat.log2 units - 52) = 0)

instance (units : Nat) : Decidable (Representable units) := by
  unfold Representable; infer_instance

/-- **A double-precision number.** -/
inductive Binary64
  | nan
  | infinite (negative : Bool)
  | finite (negative : Bool) (units : Nat) (exact : Representable units)
  deriving DecidableEq

/-- The units in one: 2^1074. -/
def unitsPerOne : Nat := twoTo 1074

/-- How many low bits of a count are lost when 53 significant bits are kept. -/
def lostBits (units : Nat) : Nat := Nat.log2 units - 52

/-- A quotient rounded to the nearest natural number, a tie going to the even one. -/
def divideToEven (num den : Nat) : Nat :=
  let k := num / den
  let r := num % den
  if 2 * r < den then k else if den < 2 * r then k + 1 else k + k % 2

/-- **The count nearest to a quotient** that has at most 53 significant bits; a tie goes to the
count with the even significand.  Overflow is left to the caller. -/
def roundUnits (num den : Nat) : Nat :=
  let lost := lostBits (num / den)
  divideToEven num (den * twoTo lost) * twoTo lost

namespace Binary64

/-- Positive zero. -/
def zero : Binary64 :=
  .finite false 0 ⟨overflowUnits_pos, Or.inl (twoTo_pos 53)⟩

instance : Inhabited Binary64 := ⟨zero⟩

/-- The double with the given sign and count, infinite when the count is too large. -/
def ofUnits (negative : Bool) (units : Nat) : Binary64 :=
  if h : Representable units then .finite negative units h else .infinite negative

/-- The double nearest to `num / den`. -/
def ofQuotient (negative : Bool) (num den : Nat) : Binary64 :=
  ofUnits negative (roundUnits (num * unitsPerOne) den)

/-- **The double nearest to `digits · 10^exponent`.**  Far outside the range the answer is known
without computing the power. -/
def ofDecimal (negative : Bool) (digits : Nat) (exponent : Int) : Binary64 :=
  if digits = 0 then ofUnits negative 0
  else
    let magnitude := exponent + Int.ofNat (Nat.log2 digits) / 4
    if 400 < magnitude then .infinite negative
    else if exponent + Int.ofNat (Nat.log2 digits) < -400 then ofUnits negative 0
    else match exponent with
      | .ofNat e => ofQuotient negative (digits * tenTo e) 1
      | .negSucc e => ofQuotient negative digits (tenTo (e + 1))

/-- The double nearest to an integer, infinite when the integer is too large. -/
def ofInt (n : Int) : Binary64 :=
  ofQuotient (n < 0) n.natAbs 1

/-- Neither infinite nor not-a-number. -/
def isFinite : Binary64 → Bool
  | .finite .. => true
  | _ => false

/-- Finite and without fraction. -/
def isIntegral : Binary64 → Bool
  | .finite _ units _ => units % unitsPerOne == 0
  | _ => false

/-- The integer part of a finite double, toward zero; 0 for all others. -/
def truncate : Binary64 → Int
  | .finite negative units _ =>
    let n := Int.ofNat (units / unitsPerOne)
    if negative then -n else n
  | _ => 0

/-- A count with a sign. -/
def signed (negative : Bool) (units : Nat) : Int :=
  if negative then -Int.ofNat units else Int.ofNat units

/-- The signed count of a finite double, and a bound beyond all of them for the infinities. -/
def scaled? : Binary64 → Option Int
  | .nan => none
  | .infinite negative => some (signed negative overflowUnits)
  | .finite negative units _ => some (signed negative units)

/-- **Equality as numbers**: zeros are equal, and not-a-number equals nothing. -/
def same (x y : Binary64) : Bool :=
  match x.scaled?, y.scaled? with
  | some a, some b => a == b
  | _, _ => false

/-- **Strictly below**; false when either side is not a number. -/
def lt (x y : Binary64) : Bool :=
  match x.scaled?, y.scaled? with
  | some a, some b => a < b
  | _, _ => false

/-- **At most**; false when either side is not a number. -/
def le (x y : Binary64) : Bool :=
  match x.scaled?, y.scaled? with
  | some a, some b => a ≤ b
  | _, _ => false

/-- Zero, of either sign. -/
def isZero : Binary64 → Bool
  | .finite _ units _ => units == 0
  | _ => false

/-- **The rounded sum.** -/
def add : Binary64 → Binary64 → Binary64
  | .finite s a _, .finite t b _ =>
    let sum := signed s a + signed t b
    if sum = 0 then ofUnits (s && t) 0 else ofUnits (sum < 0) (roundUnits sum.natAbs 1)
  | .finite .., .infinite t => .infinite t
  | .infinite s, .finite .. => .infinite s
  | .infinite s, .infinite t => if s = t then .infinite s else .nan
  | .nan, _ | _, .nan => .nan

/-- **The rounded product.** -/
def mul : Binary64 → Binary64 → Binary64
  | .finite s a _, .finite t b _ => ofUnits (s != t) (roundUnits (a * b) unitsPerOne)
  | .finite s a _, .infinite t | .infinite t, .finite s a _ =>
    if a = 0 then .nan else .infinite (s != t)
  | .infinite s, .infinite t => .infinite (s != t)
  | .nan, _ | _, .nan => .nan

end Binary64

/-! ## Rounding keeps what is exact -/

@[simp] theorem divideToEven_mul_self (k den : Nat) (h : 0 < den) :
    divideToEven (k * den) den = k := by
  simp [divideToEven, Nat.mul_div_cancel k h, h]

/-- **Rounding leaves a representable count alone.** -/
theorem roundUnits_of_representable {units : Nat} (h : Representable units) :
    roundUnits units 1 = units := by
  have hpos : 0 < twoTo (lostBits units) := twoTo_pos _
  have hdvd : twoTo (lostBits units) ∣ units := by
    rcases h.2 with hlt | hmod
    · have : lostBits units = 0 := by
        unfold lostBits
        by_cases h0 : units = 0
        · subst h0; simp
        · have := (Nat.log2_lt h0).2 hlt
          omega
      simp [this]
    · exact Nat.dvd_of_mod_eq_zero hmod
  obtain ⟨k, hk⟩ := hdvd
  have : roundUnits units 1 =
      divideToEven units (twoTo (lostBits units)) * twoTo (lostBits units) := by
    simp [roundUnits]
  rw [this]
  generalize twoTo (lostBits units) = d at hk hpos ⊢
  rw [hk, Nat.mul_comm d k, divideToEven_mul_self k d hpos]

/-- A double is rebuilt from its sign and count. -/
theorem Binary64.ofUnits_of_representable {negative : Bool} {units : Nat}
    (h : Representable units) : Binary64.ofUnits negative units = .finite negative units h := by
  simp [Binary64.ofUnits, h]

end DialPlan
