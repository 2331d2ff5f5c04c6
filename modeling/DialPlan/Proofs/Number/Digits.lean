import DialPlan.Number.Decimal
import Mathlib.Data.Nat.Digits.Defs

/-!
# Digit strings

The decimal digits of a natural number are digits, start with a zero only for zero itself, and have
the number for their value.  Zeros in front do not count, and digits that are written behind others
move them up by their number.  So an integer has a numeral exactly when its digits are not too many,
and digits that are not too many are the digits of such an integer.
-/

namespace DialPlan

/-- An integer is its magnitude with its sign. -/
theorem signed_natAbs (n : Int) :
    (if decide (n < 0) then -Int.ofNat n.natAbs else Int.ofNat n.natAbs) = n := by
  simp only [decide_eq_true_eq, Int.ofNat_eq_natCast]
  split <;> omega

/-! ## Values -/

theorem digitsValue_eq_ofDigitChars (cs : List Char) : digitsValue cs = Nat.ofDigitChars 10 cs 0 :=
  rfl

/-- **Digits behind others** move them up. -/
theorem digitsValue_append (cs ds : List Char) :
    digitsValue (cs ++ ds) = digitsValue cs * tenTo ds.length + digitsValue ds := by
  rw [digitsValue_eq_ofDigitChars, Nat.ofDigitChars_append, Nat.ofDigitChars_eq_ofDigitChars_zero,
    Nat.mul_comm]
  rfl

@[simp] theorem digitsValue_zeros (n : Nat) : digitsValue (List.replicate n '0') = 0 := by
  rw [digitsValue_eq_ofDigitChars, Nat.ofDigitChars_replicate_zero, Nat.mul_zero]

/-- Zeros in front do not count. -/
theorem digitsValue_zeros_append (n : Nat) (ds : List Char) :
    digitsValue (List.replicate n '0' ++ ds) = digitsValue ds := by
  rw [digitsValue_append, digitsValue_zeros, Nat.zero_mul, Nat.zero_add]

theorem digitsValue_zero_cons (ds : List Char) : digitsValue ('0' :: ds) = digitsValue ds :=
  digitsValue_zeros_append 1 ds

theorem digitsValue_append_zeros (cs : List Char) (n : Nat) :
    digitsValue (cs ++ List.replicate n '0') = digitsValue cs * tenTo n := by
  rw [digitsValue_append, digitsValue_zeros, List.length_replicate, Nat.add_zero]

/-- **The digits of a number have its value.** -/
@[simp] theorem digitsValue_decimalDigits (n : Nat) : digitsValue (decimalDigits n) = n :=
  Nat.ofDigitChars_ten_toDigits

/-- Different numbers have different digits. -/
theorem decimalDigits_injective {m n : Nat} (h : decimalDigits m = decimalDigits n) : m = n := by
  rw [← digitsValue_decimalDigits m, h, digitsValue_decimalDigits]

/-! ## Digits -/

/-- Digits alone. -/
def AllDigits (cs : List Char) : Prop := ∀ c ∈ cs, c.isDigit = true

/-- Nothing, or something that starts with no digit. -/
def NoDigitNext (cs : List Char) : Prop := ∀ c ∈ cs.head?, c.isDigit = false

theorem noDigitNext_cons {c : Char} {cs : List Char} (h : c.isDigit = false) :
    NoDigitNext (c :: cs) := by
  intro c' hc
  cases hc
  exact h

theorem AllDigits.append {cs ds : List Char} (hcs : AllDigits cs) (hds : AllDigits ds) :
    AllDigits (cs ++ ds) := fun c hc =>
  (List.mem_append.mp hc).elim (hcs c) (hds c)

theorem allDigits_zeros (n : Nat) : AllDigits (List.replicate n '0') := by
  intro c hc
  rw [List.eq_of_mem_replicate hc]
  rfl

theorem allDigits_decimalDigits (n : Nat) : AllDigits (decimalDigits n) := fun _ hc =>
  Nat.isDigit_of_mem_toDigits (by decide) (by decide) hc

theorem decimalDigits_ne_nil (n : Nat) : decimalDigits n ≠ [] := Nat.toDigits_ne_nil

theorem length_decimalDigits_le {n k : Nat} (hk : 0 < k) (h : n < tenTo k) :
    (decimalDigits n).length ≤ k :=
  Nat.toDigits_length 10 n k hk h

/-- So many digits have a value below the power of ten. -/
theorem digitsValue_lt {ds : List Char} (h : AllDigits ds) : digitsValue ds < tenTo ds.length := by
  induction ds with
  | nil => exact tenTo_pos 0
  | cons c ds ih =>
    have hrest := ih fun d hd => h d (List.mem_cons_of_mem c hd)
    have hdigit : digitsValue [c] < 10 := by
      have hc : 48 ≤ c.toNat ∧ c.toNat ≤ 57 := Char.isDigit_iff_toNat.mp (h c List.mem_cons_self)
      show 10 * 0 + (c.toNat - 48) < 10
      omega
    rw [← List.singleton_append, digitsValue_append, List.length_append, List.length_singleton,
      Nat.add_comm 1, tenTo_succ]
    calc digitsValue [c] * tenTo ds.length + digitsValue ds
        < digitsValue [c] * tenTo ds.length + tenTo ds.length := Nat.add_lt_add_left hrest _
      _ = (digitsValue [c] + 1) * tenTo ds.length := (Nat.succ_mul _ _).symm
      _ ≤ 10 * tenTo ds.length := Nat.mul_le_mul_right _ hdigit
      _ = tenTo ds.length * 10 := Nat.mul_comm _ _

/-- The digits of an integer that has a numeral are not too many. -/
theorem length_decimalDigits_le_digitLimit {n : Int} (h : hasNumeral n = true) :
    (decimalDigits n.natAbs).length ≤ digitLimit :=
  length_decimalDigits_le (by decide) (hasNumeral_iff.mp h)

/-- **Digits that are not too many make an integer that has a numeral.** -/
theorem hasNumeral_signedValue (negative : Bool) {ds : List Char} (hds : AllDigits ds)
    (hlength : ds.length ≤ digitLimit) : hasNumeral (signedValue negative ds) = true := by
  have hvalue : (signedValue negative ds).natAbs = digitsValue ds := by
    cases negative <;> simp [signedValue]
  rw [hasNumeral_iff, hvalue]
  exact Nat.lt_of_lt_of_le (digitsValue_lt hds) (tenTo_le_tenTo hlength)

/-- A written integer is not the empty text. -/
theorem isEmpty_toString_int (n : Int) : (toString n).isEmpty = false := by
  have hne : toString n ≠ "" := by
    intro hempty
    have hchars : (toString n).toList = [] := by rw [hempty, String.toList_empty]
    cases n with
    | ofNat m =>
      change m.repr.toList = [] at hchars
      rw [Nat.toList_repr] at hchars
      exact Nat.toDigits_ne_nil hchars
    | negSucc m =>
      change ("-" ++ (m + 1).repr).toList = [] at hchars
      rw [String.toList_append] at hchars
      cases hchars
  rw [← Bool.not_eq_true, String.isEmpty_iff]
  exact hne

/-- **Only zero starts with a zero.** -/
theorem head?_decimalDigits {n : Nat} (h : n ≠ 0) : (decimalDigits n).head? ≠ some '0' := by
  induction n using Nat.strongRecOn with
  | ind n ih =>
    unfold decimalDigits at ih ⊢
    rw [Nat.toDigits_eq_if (by decide)]
    split
    · next hlt =>
      rw [List.head?_cons, ne_eq, Option.some.injEq]
      intro hdigit
      have hvalue := congrArg (Char.toNat · - 48) hdigit
      simp only [Nat.toNat_digitChar_sub_48_of_lt_ten hlt] at hvalue
      exact h hvalue
    · next hge =>
      have hfirst := ih (n / 10) (by omega) (by omega)
      cases hds : Nat.toDigits 10 (n / 10) with
      | nil => exact absurd hds Nat.toDigits_ne_nil
      | cons c cs =>
        rw [hds] at hfirst
        exact hfirst

/-- Reading digits up to where they end. -/
theorem takeWhile_digits {ds rest : List Char} (hds : AllDigits ds) (hrest : NoDigitNext rest) :
    (ds ++ rest).takeWhile Char.isDigit = ds := by
  rw [List.takeWhile_append_of_pos hds]
  cases rest with
  | nil => rw [List.takeWhile_nil, List.append_nil]
  | cons c cs =>
    rw [List.takeWhile_cons_of_neg (by simp [hrest c rfl]), List.append_nil]

theorem dropWhile_digits {ds rest : List Char} (hds : AllDigits ds) (hrest : NoDigitNext rest) :
    (ds ++ rest).dropWhile Char.isDigit = rest := by
  rw [List.dropWhile_append_of_pos hds]
  cases rest with
  | nil => rfl
  | cons c cs => rw [List.dropWhile_cons_of_neg (by simp [hrest c rfl])]

end DialPlan
