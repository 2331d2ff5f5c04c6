import DialPlan.Json.Reader
import DialPlan.Json.Writer
import DialPlan.Proofs.Number.Digits
import DialPlan.Proofs.Number.Shortest
import DialPlan.Proofs.Outcome

/-!
# Written numbers read back

An integer is written with its digits, which may not be too many, a double with its shortest ones in
one of four layouts.  Each is read back as the number it was, when what follows is nothing that
could belong to a number: the end of the text, or a mark that ends an item (`Closes`).
-/

namespace DialPlan.Json

/-- **What may follow a written value**: nothing, a comma or a closing mark. -/
def Closes (rest : List Char) : Prop :=
  ∀ c ∈ rest.head?, c = ',' ∨ c = ']' ∨ c = '\x7d'

theorem closes_nil : Closes [] := by
  intro c hc
  cases hc

theorem closes_cons {c : Char} {rest : List Char} (h : c = ',' ∨ c = ']' ∨ c = '\x7d') :
    Closes (c :: rest) := by
  intro c' hc
  cases hc
  exact h

theorem orMalformed_eq_ok_iff {α : Type} {o : Option α} {a : α} :
    orMalformed o = .ok a ↔ o = some a := by
  cases o <;> simp

theorem Closes.noDigitNext {rest : List Char} (h : Closes rest) : NoDigitNext rest := by
  intro c hc
  rcases h c hc with rfl | rfl | rfl <;> rfl

/-! ## The parts of a number -/

/-- A number behind its sign. -/
def readUnsigned (negative : Bool) (body : List Char) : Except Flaw (Value × List Char) := do
  let (whole, rest) ← orMalformed (readWhole body)
  let (fraction, rest) := readFraction rest
  let (exponent, rest) := readExponent rest
  if fraction.isEmpty && exponent.isNone then
    if digitLimit < whole.length then .error (.tooManyDigits whole.length)
    else .ok (.int (signedValue negative whole), rest)
  else
    let digits := digitsValue (whole ++ fraction)
    let scale := exponent.getD 0 - Int.ofNat fraction.length
    .ok (.float (.ofDecimal negative digits scale), rest)

/-- A number without its sign starts with a digit. -/
theorem exists_digit_of_readUnsigned {negative : Bool} {body : List Char} {r : Value × List Char}
    (h : readUnsigned negative body = .ok r) : ∃ c cs, body = c :: cs ∧ c.isDigit = true := by
  obtain ⟨⟨whole, rest⟩, hread, -⟩ := bind_eq_ok_iff.mp h
  have hwhole := orMalformed_eq_ok_iff.mp hread
  unfold readWhole at hwhole
  split at hwhole
  · exact ⟨'0', _, rfl, rfl⟩
  · next c cs _ =>
    split at hwhole
    · next hdigit => exact ⟨c, cs, rfl, hdigit⟩
    · cases hwhole
  · cases hwhole

/-- A minus, or nothing. -/
def signMark (negative : Bool) : List Char := if negative then ['-'] else []

theorem readNumber_of_readUnsigned {negative : Bool} {body : List Char} {r : Value × List Char}
    (h : readUnsigned negative body = .ok r) :
    readNumber (signMark negative ++ body) = .ok r := by
  cases negative with
  | true => exact h
  | false =>
    obtain ⟨c, cs, rfl, hdigit⟩ := exists_digit_of_readUnsigned h
    have hc : c ≠ '-' := by
      rintro rfl
      cases hdigit
    rw [← h]
    show readNumber (c :: cs) = _
    unfold readNumber readUnsigned
    split
    next negative body hsign =>
      split at hsign
      · next heq =>
        cases heq
        exact absurd rfl hc
      · cases hsign
        rfl

/-- Digits that may stand in front of a point: more than one do not start with a zero. -/
def Whole (ds : List Char) : Prop :=
  ds ≠ [] ∧ AllDigits ds ∧ (ds = ['0'] ∨ ds.head? ≠ some '0')

theorem whole_decimalDigits (n : Nat) : Whole (decimalDigits n) := by
  refine ⟨decimalDigits_ne_nil n, allDigits_decimalDigits n, ?_⟩
  by_cases h : n = 0
  · rw [h]
    exact Or.inl rfl
  · exact Or.inr (head?_decimalDigits h)

theorem readWhole_of_whole {ds rest : List Char} (h : Whole ds) (hrest : NoDigitNext rest) :
    readWhole (ds ++ rest) = some (ds, rest) := by
  obtain ⟨hne, hdigits, hzero⟩ := h
  cases ds with
  | nil => exact absurd rfl hne
  | cons c ds =>
    rcases hzero with hzero | hzero
    · cases hzero
      rfl
    · have hc : c ≠ '0' := fun heq => hzero (congrArg some heq)
      have hfirst : readWhole (c :: (ds ++ rest)) =
          if c.isDigit then some ((c :: (ds ++ rest)).takeWhile Char.isDigit,
            (c :: (ds ++ rest)).dropWhile Char.isDigit) else none := by
        unfold readWhole
        split
        · next heq =>
          cases heq
          exact absurd rfl hc
        · next heq =>
          cases heq
          rfl
        · next heq => cases heq
      rw [List.cons_append, hfirst, if_pos (hdigits c List.mem_cons_self), ← List.cons_append,
        takeWhile_digits hdigits hrest, dropWhile_digits hdigits hrest]

theorem readFraction_of_point {ds rest : List Char} (hne : ds ≠ []) (hds : AllDigits ds)
    (hrest : NoDigitNext rest) : readFraction ('.' :: (ds ++ rest)) = (ds, rest) := by
  rw [readFraction, takeWhile_digits hds hrest, dropWhile_digits hds hrest]
  simp [hne]

/-- Without a point there is no fraction. -/
theorem readFraction_of_ne {rest : List Char} (h : ∀ c ∈ rest.head?, c ≠ '.') :
    readFraction rest = ([], rest) := by
  unfold readFraction
  split
  · exact absurd rfl (h '.' rfl)
  · rfl

/-- Without its mark there is no exponent. -/
theorem readExponent_of_closes {rest : List Char} (h : Closes rest) :
    readExponent rest = (none, rest) := by
  unfold readExponent
  split
  · next mark more =>
    rcases h mark rfl with rfl | rfl | rfl <;> rfl
  · rfl

/-- The digits of an exponent, at least two. -/
def exponentDigits (n : Nat) : List Char :=
  if (decimalDigits n).length < 2 then '0' :: decimalDigits n else decimalDigits n

theorem allDigits_exponentDigits (n : Nat) : AllDigits (exponentDigits n) := by
  unfold exponentDigits
  split
  · exact (allDigits_zeros 1).append (allDigits_decimalDigits n)
  · exact allDigits_decimalDigits n

theorem exponentDigits_ne_nil (n : Nat) : exponentDigits n ≠ [] := by
  unfold exponentDigits
  split
  · exact List.cons_ne_nil _ _
  · exact decimalDigits_ne_nil n

theorem digitsValue_exponentDigits (n : Nat) : digitsValue (exponentDigits n) = n := by
  unfold exponentDigits
  split
  · rw [digitsValue_zero_cons, digitsValue_decimalDigits]
  · exact digitsValue_decimalDigits n

theorem exponentText_eq (e : Int) :
    exponentText e = (if e < 0 then '-' else '+') :: exponentDigits e.natAbs := rfl

/-- **A written exponent is read back.** -/
theorem readExponent_exponentText (e : Int) {rest : List Char} (hrest : NoDigitNext rest) :
    readExponent ('e' :: (exponentText e ++ rest)) = (some e, rest) := by
  have hdigits := allDigits_exponentDigits e.natAbs
  have hsign : splitSign (exponentText e ++ rest) =
      (decide (e < 0), exponentDigits e.natAbs ++ rest) := by
    rw [exponentText_eq, List.cons_append]
    by_cases he : e < 0
    · rw [if_pos he, decide_eq_true he]
      rfl
    · rw [if_neg he, decide_eq_false he]
      rfl
  rw [readExponent, if_pos (show ('e' == 'e' || 'e' == 'E') = true from rfl), hsign]
  dsimp only
  rw [takeWhile_digits hdigits hrest, dropWhile_digits hdigits hrest,
    if_neg (by simp [exponentDigits_ne_nil]), digitsValue_exponentDigits]
  rw [signed_natAbs]

/-! ## Integers -/

theorem toList_toString_int (n : Int) :
    (toString n).toList = signMark (n < 0) ++ decimalDigits n.natAbs := by
  cases n with
  | ofNat m =>
    have hsign : decide (Int.ofNat m < 0) = false :=
      decide_eq_false (Int.not_lt.mpr (Int.natCast_nonneg m))
    rw [hsign]
    exact Nat.toList_repr
  | negSucc m =>
    have hsign : decide (Int.negSucc m < 0) = true := decide_eq_true (Int.negSucc_lt_zero m)
    rw [hsign]
    show ("-" ++ (m + 1).repr).toList = _
    rw [String.toList_append, Nat.toList_repr]
    rfl

theorem readUnsigned_whole (negative : Bool) {whole rest : List Char} (hwhole : Whole whole)
    (hlength : whole.length ≤ digitLimit) (hrest : Closes rest) :
    readUnsigned negative (whole ++ rest) = .ok (.int (signedValue negative whole), rest) := by
  have hpoint : ∀ c ∈ rest.head?, c ≠ '.' := by
    intro c hc
    rcases hrest c hc with rfl | rfl | rfl <;> decide
  simp only [readUnsigned, readWhole_of_whole hwhole hrest.noDigitNext, orMalformed_some, ok_bind,
    readFraction_of_ne hpoint, readExponent_of_closes hrest, List.isEmpty_nil, Option.isNone_none,
    Bool.and_self, if_true, if_neg (Nat.not_lt.mpr hlength)]

/-- **A written integer is read back.** -/
theorem readNumber_int {n : Int} (hn : hasNumeral n = true) {rest : List Char}
    (hrest : Closes rest) : readNumber ((toString n).toList ++ rest) = .ok (.int n, rest) := by
  have hread := readUnsigned_whole (n < 0) (whole_decimalDigits n.natAbs)
    (length_decimalDigits_le_digitLimit hn) hrest
  rw [signedValue, digitsValue_decimalDigits, signed_natAbs] at hread
  rw [toList_toString_int, List.append_assoc, readNumber_of_readUnsigned hread]

/-! ## Doubles -/

/-- A number with a fraction and no exponent. -/
theorem readUnsigned_fraction (negative : Bool) {whole fraction rest : List Char}
    (hwhole : Whole whole) (hne : fraction ≠ []) (hfraction : AllDigits fraction)
    (hrest : Closes rest) :
    readUnsigned negative (whole ++ '.' :: (fraction ++ rest)) =
      .ok (.float (.ofDecimal negative (digitsValue (whole ++ fraction))
        (0 - Int.ofNat fraction.length)), rest) := by
  have hempty : fraction.isEmpty = false := by simpa using hne
  have hpoint : NoDigitNext ('.' :: (fraction ++ rest)) := noDigitNext_cons rfl
  simp only [readUnsigned, readWhole_of_whole hwhole hpoint, orMalformed_some,
    ok_bind, readFraction_of_point hne hfraction hrest.noDigitNext,
    readExponent_of_closes hrest, hempty, Bool.false_and]
  rfl

/-- A number with an exponent, with a fraction or without. -/
theorem readUnsigned_exponent (negative : Bool) {whole fraction rest : List Char} (e : Int)
    (hwhole : Whole whole) (hfraction : AllDigits fraction) (hrest : Closes rest) :
    readUnsigned negative (whole ++
        ((if fraction.isEmpty then [] else '.' :: fraction) ++ 'e' :: (exponentText e ++ rest))) =
      .ok (.float (.ofDecimal negative (digitsValue (whole ++ fraction))
        (e - Int.ofNat fraction.length)), rest) := by
  have hmark : NoDigitNext ('e' :: (exponentText e ++ rest)) := noDigitNext_cons rfl
  have hread : readFraction ((if fraction.isEmpty then [] else '.' :: fraction) ++
      'e' :: (exponentText e ++ rest)) = (fraction, 'e' :: (exponentText e ++ rest)) := by
    cases hempty : fraction.isEmpty with
    | true =>
      rw [List.isEmpty_iff.mp hempty]
      rfl
    | false => exact readFraction_of_point (by simpa using hempty) hfraction hmark
  have hnext : NoDigitNext ((if fraction.isEmpty then [] else '.' :: fraction) ++
      'e' :: (exponentText e ++ rest)) := by
    cases fraction with
    | nil => exact noDigitNext_cons rfl
    | cons c cs => exact noDigitNext_cons rfl
  simp only [readUnsigned, readWhole_of_whole hwhole hnext, orMalformed_some,
    ok_bind, hread, readExponent_exponentText e hrest.noDigitNext, Option.isNone_some,
    Bool.and_false]
  rfl

/-- Layout: a zero in front of the point, and more behind it. -/
theorem readUnsigned_behind_zeros (negative : Bool) (k : Nat) {ds rest : List Char} (hne : ds ≠ [])
    (hds : AllDigits ds) (hrest : Closes rest) :
    readUnsigned negative ('0' :: '.' :: List.replicate k '0' ++ ds ++ rest) =
      .ok (.float (.ofDecimal negative (digitsValue ds) (-k - ds.length)), rest) := by
  have hwhole : Whole ['0'] := whole_decimalDigits 0
  have hfraction : AllDigits (List.replicate k '0' ++ ds) := (allDigits_zeros k).append hds
  have hread := readUnsigned_fraction negative hwhole (by simp [hne]) hfraction hrest
  have hscale : 0 - Int.ofNat (List.replicate k '0' ++ ds).length = -(k : Int) - ds.length := by
    rw [List.length_append, List.length_replicate, Int.ofNat_eq_natCast]
    omega
  simp only [List.singleton_append, digitsValue_zero_cons, digitsValue_zeros_append, hscale]
    at hread
  rw [← hread]
  rfl

/-- Layout: a point between the digits. -/
theorem readUnsigned_split (negative : Bool) {p : Nat} {ds rest : List Char} (hp : p < ds.length)
    (hwhole : Whole (ds.take p)) (hds : AllDigits ds) (hrest : Closes rest) :
    readUnsigned negative (ds.take p ++ '.' :: ds.drop p ++ rest) =
      .ok (.float (.ofDecimal negative (digitsValue ds) (p - ds.length)), rest) := by
  have hne : ds.drop p ≠ [] := by
    rw [ne_eq, List.drop_eq_nil_iff]
    omega
  have hfraction : AllDigits (ds.drop p) := fun c hc => hds c (List.mem_of_mem_drop hc)
  have hread := readUnsigned_fraction negative hwhole hne hfraction hrest
  have hscale : 0 - Int.ofNat (ds.drop p).length = (p : Int) - ds.length := by
    rw [List.length_drop, Int.ofNat_eq_natCast]
    omega
  rw [List.take_append_drop, hscale] at hread
  rw [← hread, List.append_assoc]
  rfl

/-- Layout: zeros behind the digits. -/
theorem readUnsigned_before_zeros (negative : Bool) (k : Nat) {ds rest : List Char}
    (hwhole : Whole (ds ++ List.replicate k '0')) (hrest : Closes rest) :
    readUnsigned negative (ds ++ List.replicate k '0' ++ ['.', '0'] ++ rest) =
      .ok (.float (.ofDecimal negative (digitsValue ds) k), rest) := by
  have hread := readUnsigned_fraction negative hwhole (List.cons_ne_nil '0' []) (allDigits_zeros 1)
    hrest
  have hzeros : ds ++ List.replicate k '0' ++ ['0'] = ds ++ List.replicate (k + 1) '0' := by
    rw [List.append_assoc, List.replicate_succ']
  have hscale : 0 - Int.ofNat ['0'].length = (k : Int) - (k + 1 : Nat) := by
    rw [List.length_singleton, Int.ofNat_eq_natCast]
    omega
  rw [hzeros, digitsValue_append_zeros, hscale, Binary64.ofDecimal_mul_tenTo] at hread
  rw [← hread, List.append_assoc _ ['.', '0']]
  rfl

/-- Layout: one digit in front of the point, and an exponent. -/
theorem readUnsigned_scientific (negative : Bool) {first : Char} {more rest : List Char} (e : Int)
    (hwhole : Whole [first]) (hmore : AllDigits more) (hrest : Closes rest) :
    readUnsigned negative ((if more.isEmpty then [first] else first :: '.' :: more) ++
        'e' :: exponentText e ++ rest) =
      .ok (.float (.ofDecimal negative (digitsValue (first :: more)) (e - more.length)),
        rest) := by
  have hread := readUnsigned_exponent negative e hwhole hmore hrest
  simp only [List.singleton_append, Int.ofNat_eq_natCast] at hread
  rw [← hread]
  cases more.isEmpty <;> simp

/-- **Significant digits**: at least one, and no zero in front. -/
structure Significant (ds : List Char) : Prop where
  nonempty : ds ≠ []
  all : AllDigits ds
  head : ds.head? ≠ some '0'

theorem significant_decimalDigits {n : Nat} (h : n ≠ 0) : Significant (decimalDigits n) :=
  ⟨decimalDigits_ne_nil n, allDigits_decimalDigits n, head?_decimalDigits h⟩

namespace Significant

variable {ds : List Char} (h : Significant ds)
include h

theorem whole_take {p : Nat} (hp : 0 < p) : Whole (ds.take p) := by
  refine ⟨?_, fun c hc => h.all c (List.mem_of_mem_take hc), Or.inr ?_⟩
  · rw [ne_eq, List.take_eq_nil_iff]
    rintro (hzero | hnil)
    · omega
    · exact h.nonempty hnil
  · rw [List.head?_take, if_neg (by omega)]
    exact h.head

theorem whole_append_zeros (k : Nat) : Whole (ds ++ List.replicate k '0') := by
  refine ⟨by simp [h.nonempty], h.all.append (allDigits_zeros k), Or.inr ?_⟩
  obtain ⟨c, cs, rfl⟩ := List.exists_cons_of_ne_nil h.nonempty
  exact h.head

/-- Layout: the point stands behind the first `p` digits, or further right. -/
theorem readUnsigned_positional (negative : Bool) {p : Nat} (hp : 0 < p) {rest : List Char}
    (hrest : Closes rest) :
    readUnsigned negative
        ((if p < ds.length then ds.take p ++ '.' :: ds.drop p
          else ds ++ List.replicate (p - ds.length) '0' ++ ['.', '0']) ++ rest) =
      .ok (.float (.ofDecimal negative (digitsValue ds) (p - ds.length)), rest) := by
  split
  · next hinside =>
    rw [readUnsigned_split negative hinside (h.whole_take hp) h.all hrest]
  · next hbehind =>
    have hscale : ((p - ds.length : Nat) : Int) = p - ds.length := by omega
    rw [readUnsigned_before_zeros negative _ (h.whole_append_zeros _) hrest, hscale]

end Significant

/-- **Digits in their layout are read back** as the double that they stand for. -/
theorem readUnsigned_layoutDigits (negative : Bool) {d : DecimalDigits} (hdigits : d.digits ≠ 0)
    {rest : List Char} (hrest : Closes rest) :
    readUnsigned negative (layoutDigits d ++ rest) =
      .ok (.float (d.toBinary64 negative), rest) := by
  unfold layoutDigits
  have hstrip := DecimalDigits.stripZeros_toBinary64 negative (decimalDigits d.digits).length d
  have hne := DecimalDigits.stripZeros_digits_ne_zero (decimalDigits d.digits).length hdigits
  rw [← hstrip]
  generalize DecimalDigits.stripZeros (decimalDigits d.digits).length d = s at hne
  obtain ⟨digits, exponent⟩ := s
  dsimp only [DecimalDigits.toBinary64] at hne ⊢
  have hvalue := digitsValue_decimalDigits digits
  have hds := significant_decimalDigits hne
  generalize decimalDigits digits = ds at hvalue hds
  subst hvalue
  split
  · split
    · next hpoint =>
      rw [readUnsigned_behind_zeros negative _ hds.nonempty hds.all hrest]
      have hscale : -(((Int.ofNat ds.length + exponent).natAbs : Nat) : Int) - ds.length =
          exponent := by
        simp only [Int.ofNat_eq_natCast] at hpoint ⊢
        omega
      rw [hscale]
    · next hpoint =>
      obtain ⟨p, hp⟩ : ∃ p : Nat, Int.ofNat ds.length + exponent = p := by
        refine ⟨(Int.ofNat ds.length + exponent).toNat, ?_⟩
        omega
      have hexponent : exponent = p - ds.length := by
        simp only [Int.ofNat_eq_natCast] at hp
        omega
      rw [hp] at hpoint
      rw [hp, Int.natAbs_natCast, hds.readUnsigned_positional negative (by omega) hrest, hexponent]
  · split
    · exact absurd rfl hds.nonempty
    · next first more hrange =>
      have hmore : AllDigits more := fun c hc => hds.all c (List.mem_cons_of_mem _ hc)
      have hscale : Int.ofNat (more.length + 1) + exponent - 1 - more.length = exponent := by
        simp only [Int.ofNat_eq_natCast]
        omega
      rw [readUnsigned_scientific negative _ (hds.whole_take Nat.one_pos) hmore hrest,
        List.length_cons, hscale]

/-- **A written double is read back**, when it is finite. -/
theorem readNumber_float {x : Binary64} (hx : x.isFinite = true) {rest : List Char}
    (hrest : Closes rest) : readNumber (writeFloat x ++ rest) = .ok (.float x, rest) := by
  cases x with
  | nan => cases hx
  | infinite negative => cases hx
  | finite negative units exact =>
    have htext : writeFloat (.finite negative units exact) = signMark negative ++
        if units = 0 then ['0', '.', '0'] else layoutDigits (shortestDigits negative units) := by
      show (String.ofList _).toList = _
      rw [String.toList_ofList]
      cases negative <;> rfl
    rw [htext, List.append_assoc]
    refine readNumber_of_readUnsigned ?_
    have htarget := @Binary64.ofUnits_of_representable negative units exact
    split
    · next hzero =>
      have hread := readUnsigned_fraction negative (whole_decimalDigits 0) (List.cons_ne_nil '0' [])
        (allDigits_zeros 1) hrest
      subst hzero
      rw [show digitsValue (decimalDigits 0 ++ ['0']) = 0 from rfl, Binary64.ofDecimal_eq_nearest,
        Binary64.nearest_zero, htarget] at hread
      exact hread
    · next hunits =>
      have hshortest := shortestDigits_toBinary64 negative exact
      rw [readUnsigned_layoutDigits negative
        (DecimalDigits.digits_ne_zero hunits exact hshortest) hrest, hshortest, htarget]

/-! ## Numbers among words -/

theorem exists_signMark_of_readNumber {cs : List Char} {r : Value × List Char}
    (h : readNumber cs = .ok r) :
    ∃ negative body, cs = signMark negative ++ body ∧ readUnsigned negative body = .ok r := by
  unfold readNumber at h
  split at h
  next negative body hsign =>
    split at hsign
    · cases hsign
      exact ⟨true, _, rfl, h⟩
    · cases hsign
      exact ⟨false, _, rfl, h⟩

/-- A text with another first character does not start with the word. -/
theorem afterWord?_of_ne (word : String) {w : Char} {ws : List Char} (hword : word.toList = w :: ws)
    {c : Char} (hc : c ≠ w) (cs : List Char) : afterWord? word (c :: cs) = none := by
  simp [afterWord?, hword, hc]

/-- What starts like no word is read as a number. -/
theorem readScalar_eq_readNumber {c : Char} {cs : List Char}
    (hletters : c ∉ ['n', 't', 'f', 'N', 'I'])
    (hminus : afterWord? "-Infinity" (c :: cs) = none) :
    readScalar (c :: cs) = readNumber (c :: cs) := by
  simp only [List.mem_cons, List.not_mem_nil, or_false, not_or] at hletters
  obtain ⟨hn, ht, hf, hN, hI⟩ := hletters
  simp only [readScalar, hminus, afterWord?_of_ne "null" rfl hn, afterWord?_of_ne "true" rfl ht,
    afterWord?_of_ne "false" rfl hf, afterWord?_of_ne "NaN" rfl hN,
    afterWord?_of_ne "Infinity" rfl hI]

/-- A number starts with a digit, or with a minus and a digit. -/
theorem exists_start_of_readNumber {cs : List Char} {r : Value × List Char}
    (h : readNumber cs = .ok r) : ∃ c more, c.isDigit = true ∧ (cs = c :: more ∨
      cs = '-' :: c :: more) := by
  obtain ⟨negative, body, rfl, hbody⟩ := exists_signMark_of_readNumber h
  obtain ⟨c, more, rfl, hc⟩ := exists_digit_of_readUnsigned hbody
  refine ⟨c, more, hc, ?_⟩
  cases negative with
  | true => exact Or.inr rfl
  | false => exact Or.inl rfl

/-- **A number is no word.** -/
theorem readScalar_of_readNumber {cs : List Char} {r : Value × List Char}
    (h : readNumber cs = .ok r) : readScalar cs = .ok r := by
  obtain ⟨c, more, hc, hstart⟩ := exists_start_of_readNumber h
  have hne : ∀ w : Char, w.isDigit = false → c ≠ w := by
    rintro w hw rfl
    rw [hw] at hc
    cases hc
  rw [← h]
  rcases hstart with rfl | rfl
  · refine readScalar_eq_readNumber ?_ (afterWord?_of_ne "-Infinity" rfl (hne '-' rfl) more)
    simp only [List.mem_cons, List.not_mem_nil, or_false, not_or]
    exact ⟨hne 'n' rfl, hne 't' rfl, hne 'f' rfl, hne 'N' rfl, hne 'I' rfl⟩
  · refine readScalar_eq_readNumber (by decide) ?_
    simp [afterWord?, hne 'I' rfl]

end DialPlan.Json
