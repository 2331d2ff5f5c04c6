import DialPlan.Number.Decimal
import DialPlan.Proofs.Number.Digits
import Mathlib.Data.List.TakeWhile

/-!
# Plain numerals

What the plain grammar of doubles makes of a text.  A `Numeral` with nothing but blanks around it is
read as its value (`Numeral.ofText?_eq_value`); and a text with a digit in it and a character that
belongs to no numeral is not read at all (`ofText?_eq_none`).
-/

namespace DialPlan

/-! ## Digits of all kinds -/

theorem digitValueIn_lt {zeros : List Nat} {n d : Nat} (h : Text.digitValueIn zeros n = some d) :
    d < 10 := by
  induction zeros with
  | nil => cases h
  | cons first rest ih =>
    unfold Text.digitValueIn at h
    split at h
    · cases h
    · split at h
      · cases h
        omega
      · exact ih h

theorem asciiNumeral_of_isDigit {c : Char} (h : Text.isDigit c = true) :
    (asciiNumeral c).isDigit = true := by
  have hdigits : ∀ d < 10, (Char.ofNat (48 + d)).isDigit = true := by decide
  obtain ⟨d, hd⟩ := Option.isSome_iff_exists.mp h
  rw [asciiNumeral, hd]
  exact hdigits d (digitValueIn_lt hd)

/-- The digits of ASCII are digits. -/
theorem isDigit_of_isDigit {c : Char} (h : c.isDigit = true) : Text.isDigit c = true := by
  have hbounds : 48 ≤ c.toNat ∧ c.toNat < 58 := by
    simp only [Char.isDigit, Bool.and_eq_true, decide_eq_true_eq, ge_iff_le,
      UInt32.le_iff_toNat_le] at h
    have h0 : ('0' : Char).val.toNat = 48 := rfl
    have h9 : ('9' : Char).val.toNat = 57 := rfl
    unfold Char.toNat
    omega
  rw [Text.isDigit, Text.digitValue?, Text.digitZeros, Text.digitValueIn, if_neg (by omega),
    if_pos (by omega), Option.isSome_some]

theorem asciiNumeral_of_not_isDigit {c : Char} (h : Text.isDigit c = false) :
    asciiNumeral c = c := by
  have hnone : Text.digitValue? c = none := by simpa [Text.isDigit] using h
  rw [asciiNumeral, hnone]

theorem exists_span_of_inSpans {spans : List (Nat × Nat)} {n : Nat}
    (h : Text.inSpans spans n = true) : ∃ s ∈ spans, s.1 ≤ n ∧ n ≤ s.2 := by
  induction spans with
  | nil => cases h
  | cons s rest ih =>
    unfold Text.inSpans at h
    split at h
    · cases h
    · split at h
      · exact ⟨s, List.mem_cons_self, by omega, by omega⟩
      · obtain ⟨t, ht, hbounds⟩ := ih h
        exact ⟨t, List.mem_cons_of_mem s ht, hbounds⟩

/-- No blank is a digit. -/
theorem isDigit_of_isBlank {c : Char} (h : Text.isBlank c = true) : Text.isDigit c = false := by
  have hspans : ∀ s ∈ Text.blankSpans, ∀ k ≤ s.2 - s.1,
      Text.digitValueIn Text.digitZeros (s.1 + k) = none := by decide
  obtain ⟨s, hs, hlow, hhigh⟩ := exists_span_of_inSpans h
  have hnone := hspans s hs (c.toNat - s.1) (by omega)
  rw [Nat.add_sub_cancel' hlow] at hnone
  rw [Text.isDigit, Text.digitValue?, hnone, Option.isSome_none]

theorem isBlank_of_isNumeralBlank {c : Char} (h : isNumeralBlank c = true) :
    Text.isBlank c = true :=
  (Bool.and_eq_true_iff.mp h).1

/-! ## Numerals -/

/-- **A numeral without exponent**: a sign, digits, and digits behind a point. -/
structure Numeral where
  negative : Bool
  whole : List Char
  fraction : List Char
  wholeDigits : ∀ c ∈ whole, Text.isDigit c = true
  fractionDigits : ∀ c ∈ fraction, Text.isDigit c = true
  nonempty : whole ≠ []

namespace Numeral

variable (a : Numeral)

/-- The sign as it is written. -/
def sign : List Char := if a.negative then ['-'] else []

/-- The point with the digits behind it, if there are any. -/
def pointed : List Char := if a.fraction.isEmpty then [] else '.' :: a.fraction

/-- The numeral as it is written. -/
def chars : List Char := a.sign ++ (a.whole ++ a.pointed)

/-- The double nearest to the numeral. -/
def value : Binary64 :=
  .ofDecimal a.negative (digitsValue ((a.whole ++ a.fraction).map asciiNumeral))
    (-Int.ofNat a.fraction.length)

variable {a} {c : Char}

theorem mem_chars (h : c ∈ a.chars) : Text.isDigit c = true ∨ c = '-' ∨ c = '.' := by
  unfold chars sign pointed at h
  rcases List.mem_append.mp h with hsign | h
  · split at hsign
    · exact Or.inr (Or.inl (List.mem_singleton.mp hsign))
    · cases hsign
  · rcases List.mem_append.mp h with hwhole | hpoint
    · exact Or.inl (a.wholeDigits c hwhole)
    · split at hpoint
      · cases hpoint
      · rcases List.mem_cons.mp hpoint with rfl | hfraction
        · exact Or.inr (Or.inr rfl)
        · exact Or.inl (a.fractionDigits c hfraction)

/-- There is no blank in a numeral. -/
theorem isBlank_of_mem (h : c ∈ a.chars) : Text.isBlank c = false := by
  rcases mem_chars h with hdigit | rfl | rfl
  · refine Bool.eq_false_iff.mpr fun hblank => ?_
    rw [isDigit_of_isBlank hblank] at hdigit
    cases hdigit
  · decide
  · decide

theorem isNumeralBlank_of_mem (h : c ∈ a.chars) : isNumeralBlank c = false := by
  rw [isNumeralBlank, isBlank_of_mem h, Bool.false_and]

theorem exists_digit (a : Numeral) : ∃ c ∈ a.chars, Text.isDigit c = true := by
  obtain ⟨c, hc⟩ := List.exists_mem_of_ne_nil a.whole a.nonempty
  exact ⟨c, by simp [chars, hc], a.wholeDigits c hc⟩

/-- The digits as they are read, the point before the last ones. -/
theorem map_pointed : a.pointed.map asciiNumeral =
    if a.fraction.isEmpty then [] else '.' :: a.fraction.map asciiNumeral := by
  unfold pointed
  split <;> rfl

end Numeral

/-! ## What a numeral is made of -/

/-- A character that belongs to no plain numeral, at the ends or inside. -/
structure Foreign (c : Char) : Prop where
  notDigit : Text.isDigit c = false
  notBlank : isNumeralBlank c = false
  notMark : c ∉ ['.', 'e', 'E', '+', '-', '_']

variable {c : Char} {cs ds : List Char} {s : String}

theorem mem_dropWhile {p : Char → Bool} (hc : c ∈ cs) (hp : p c = false) : c ∈ cs.dropWhile p := by
  rw [← List.takeWhile_append_dropWhile (p := p) (l := cs), List.mem_append] at hc
  refine hc.resolve_left fun htaken => ?_
  rw [List.mem_takeWhile_imp htaken] at hp
  cases hp

theorem mem_dropGroupMarks {afterDigit : Bool} (h : dropGroupMarks afterDigit cs = some ds)
    (hc : c ∈ cs) (hmark : c ≠ '_') : c ∈ ds := by
  induction cs generalizing afterDigit ds with
  | nil => cases hc
  | cons d rest ih =>
    by_cases hd : d = '_'
    case pos =>
      subst hd
      cases rest with
      | nil => cases h
      | cons e rest =>
        rw [dropGroupMarks] at h
        split at h
        · exact ih h (List.mem_of_ne_of_mem hmark hc)
        · cases h
    case neg =>
      rw [dropGroupMarks] at h
      · obtain ⟨ds, hds, rfl⟩ := Option.map_eq_some_iff.mp h
        rcases List.mem_cons.mp hc with rfl | hc
        · exact List.mem_cons_self
        · exact List.mem_cons_of_mem d (ih hds hc)
      · exact hd

/-- What stands in a text and is trimmed and dropped by none is read. -/
theorem mem_plainNumeral (h : plainNumeral s = some cs) (hc : c ∈ s.toList)
    (hblank : isNumeralBlank c = false) (hmark : asciiNumeral c ≠ '_') : asciiNumeral c ∈ cs := by
  refine mem_dropGroupMarks h (List.mem_map_of_mem ?_) hmark
  rw [List.mem_reverse]
  exact mem_dropWhile (List.mem_reverse.mpr (mem_dropWhile hc hblank)) hblank

theorem mem_splitSign (hc : c ∈ cs) (hminus : c ≠ '-') (hplus : c ≠ '+') :
    c ∈ (splitSign cs).2 := by
  unfold splitSign
  split
  · exact List.mem_of_ne_of_mem hminus hc
  · exact List.mem_of_ne_of_mem hplus hc
  · exact hc

/-- A text with a digit is not a word. -/
theorem asciiLower_beq_of_digit {word : List Char} (hc : c ∈ cs) (hdigit : c.isDigit = true)
    (hword : word.any Char.isDigit = false) : (asciiLower cs == word) = false := by
  refine beq_false_of_ne fun heq => ?_
  have hlower : (if 'A' ≤ c ∧ c ≤ 'Z' then Char.ofNat (c.toNat + 32) else c) = c := by
    refine if_neg fun hletter => ?_
    simp only [Char.isDigit, Char.le_def, UInt32.le_iff_toNat_le, Bool.and_eq_true,
      decide_eq_true_eq] at hdigit hletter
    have hA : ('A' : Char).val.toNat = 65 := rfl
    have h9 : ('9' : Char).val.toNat = 57 := rfl
    omega
  have hmem : c ∈ asciiLower cs := List.mem_map.mpr ⟨c, hc, hlower⟩
  rw [heq] at hmem
  exact Bool.eq_false_iff.mp hword (List.any_eq_true.mpr ⟨c, hmem, hdigit⟩)

/-- Behind the digits in front. -/
theorem mem_dropWhile_isDigit (hc : c ∈ cs) :
    c.isDigit = true ∨ c ∈ cs.dropWhile Char.isDigit := by
  cases hdigit : c.isDigit with
  | true => exact Or.inl rfl
  | false => exact Or.inr (mem_dropWhile hc hdigit)

/-- What may follow the digits: nothing, or an exponent. -/
theorem mem_of_exponent {base r : Nat × Int} {f : List Char → Nat × Int}
    (h : (match cs with
      | [] => some base
      | mark :: rest =>
        if mark == 'e' || mark == 'E' then
          if (splitSign rest).2.isEmpty || !(splitSign rest).2.all Char.isDigit then none
          else some (f rest)
        else none) = some r) (hc : c ∈ cs) :
    c.isDigit = true ∨ c ∈ ['.', 'e', 'E', '+', '-'] := by
  cases cs with
  | nil => cases hc
  | cons mark rest =>
    dsimp only at h
    split at h
    case isFalse => cases h
    case isTrue hmark =>
      split at h
      case isTrue => cases h
      case isFalse hdigits =>
        simp only [Bool.or_eq_true, Bool.not_eq_true', not_or, Bool.not_eq_false,
          List.all_eq_true] at hdigits
        rcases List.mem_cons.mp hc with rfl | hc
        · simp only [Bool.or_eq_true, beq_iff_eq] at hmark
          rcases hmark with rfl | rfl <;> simp
        · by_cases hminus : c = '-'
          · simp [hminus]
          · by_cases hplus : c = '+'
            · simp [hplus]
            · exact Or.inl (hdigits.2 c (mem_splitSign hc hminus hplus))

/-- The characters of a scientific numeral. -/
theorem mem_of_readScientific {r : Nat × Int} (h : readScientific cs = some r) (hc : c ∈ cs) :
    c.isDigit = true ∨ c ∈ ['.', 'e', 'E', '+', '-'] := by
  unfold readScientific at h
  simp only [] at h
  rcases mem_dropWhile_isDigit hc with hdigit | hc
  · exact Or.inl hdigit
  split at h
  next rest hpoint =>
    dsimp only at h
    split at h
    · cases h
    · rw [hpoint] at hc
      rcases List.mem_cons.mp hc with rfl | hc
      · simp
      · rcases mem_dropWhile_isDigit hc with hdigit | hc
        · exact Or.inl hdigit
        · exact mem_of_exponent h hc
  next =>
    dsimp only at h
    split at h
    · cases h
    · exact mem_of_exponent h hc

/-! ## What is not read -/

/-- **A text with a digit and a foreign character is no numeral.** -/
theorem ofText?_eq_none {d : Char} (hc : c ∈ s.toList) (hforeign : Foreign c) (hd : d ∈ s.toList)
    (hdigit : Text.isDigit d = true) : Binary64.ofText? s = none := by
  have hnot := hforeign.notMark
  simp only [List.mem_cons, List.not_mem_nil, or_false, not_or] at hnot
  obtain ⟨hpoint, hsmall, hlarge, hplus, hminus, hunderscore⟩ := hnot
  have hmarked : ∀ e : Char, e.isDigit = true → e ≠ '-' ∧ e ≠ '+' ∧ e ≠ '_' := by
    intro e he
    refine ⟨?_, ?_, ?_⟩ <;> rintro rfl <;> cases he
  have hkept := asciiNumeral_of_not_isDigit hforeign.notDigit
  have hascii := asciiNumeral_of_isDigit hdigit
  have hdblank : isNumeralBlank d = false := by
    refine Bool.eq_false_iff.mpr fun hblank => ?_
    rw [isDigit_of_isBlank (isBlank_of_isNumeralBlank hblank)] at hdigit
    cases hdigit
  unfold Binary64.ofText?
  cases hcs : plainNumeral s with
  | none => rfl
  | some cs =>
    have hcmem : c ∈ (splitSign cs).2 :=
      mem_splitSign (hkept ▸ mem_plainNumeral hcs hc hforeign.notBlank (hkept.symm ▸ hunderscore))
        hminus hplus
    have hdmem : asciiNumeral d ∈ (splitSign cs).2 :=
      mem_splitSign (mem_plainNumeral hcs hd hdblank (hmarked _ hascii).2.2) (hmarked _ hascii).1
        (hmarked _ hascii).2.1
    have hword : ∀ word : List Char, word.any Char.isDigit = false →
        (asciiLower (splitSign cs).2 == word) = false := fun _ =>
      asciiLower_beq_of_digit hdmem hascii
    rw [Option.bind_eq_bind, Option.bind_some]
    dsimp only
    rw [hword _ (by decide), hword _ (by decide), hword _ (by decide)]
    cases hread : readScientific (splitSign cs).2 with
    | none => rfl
    | some r =>
      -- the foreign character would be one of the numeral's
      rcases mem_of_readScientific hread hcmem with hcdigit | hmark
      · exact absurd (isDigit_of_isDigit hcdigit) (Bool.eq_false_iff.mp hforeign.notDigit)
      · simp [hpoint, hsmall, hlarge, hplus, hminus] at hmark

/-! ## What is read -/

section Around

variable {p : Char → Bool} {before after : List Char}

/-- Trimming takes away what stands around. -/
theorem trim_around (hbefore : ∀ c ∈ before, p c = true) (hafter : ∀ c ∈ after, p c = true)
    (hcs : ∀ c ∈ cs, p c = false) (hne : cs ≠ []) :
    (((before ++ (cs ++ after)).dropWhile p).reverse.dropWhile p).reverse = cs := by
  have hstart : ∀ {ds : List Char}, ds ≠ [] → (∀ c ∈ ds, p c = false) → ∀ rest,
      (ds ++ rest).dropWhile p = ds ++ rest := by
    intro ds hds hall rest
    obtain ⟨d, ds, rfl⟩ := List.exists_cons_of_ne_nil hds
    rw [List.cons_append, List.dropWhile_cons_of_neg (by simp [hall d])]
  rw [List.dropWhile_append_of_pos hbefore, hstart hne hcs, List.reverse_append,
    List.dropWhile_append_of_pos (by simpa using hafter)]
  have hreverse := @hstart cs.reverse (by simpa using hne) (by simpa using hcs) []
  rw [List.append_nil] at hreverse
  rw [hreverse, List.reverse_reverse]

end Around

theorem dropGroupMarks_of_not_mem {afterDigit : Bool} (h : '_' ∉ cs) :
    dropGroupMarks afterDigit cs = some cs := by
  induction cs generalizing afterDigit with
  | nil => rfl
  | cons d rest ih =>
    rw [List.mem_cons, not_or] at h
    rw [dropGroupMarks, ih h.2, Option.map_some]
    exact fun hd => h.1 hd.symm

theorem splitSign_of_digit (h : c.isDigit = true) : splitSign (c :: cs) = (false, c :: cs) := by
  unfold splitSign
  split
  next heq =>
    cases heq
    cases h
  next heq =>
    cases heq
    cases h
  next => rfl

namespace Numeral

variable (a : Numeral)

theorem allDigits_map {ds : List Char} (h : ∀ c ∈ ds, Text.isDigit c = true) :
    AllDigits (ds.map asciiNumeral) := by
  intro c hc
  obtain ⟨d, hd, rfl⟩ := List.mem_map.mp hc
  exact asciiNumeral_of_isDigit (h d hd)

theorem map_chars : a.chars.map asciiNumeral =
    a.sign ++ (a.whole.map asciiNumeral ++ a.pointed.map asciiNumeral) := by
  rw [chars, List.map_append, List.map_append]
  congr 1
  unfold sign
  split <;> rfl

theorem underscore_not_mem : '_' ∉ a.chars.map asciiNumeral := by
  intro hmem
  obtain ⟨c, hc, hunderscore⟩ := List.mem_map.mp hmem
  rcases mem_chars hc with hdigit | rfl | rfl
  · have hascii := asciiNumeral_of_isDigit hdigit
    rw [hunderscore] at hascii
    cases hascii
  · cases hunderscore
  · cases hunderscore

theorem splitSign_chars : splitSign (a.chars.map asciiNumeral) =
    (a.negative, a.whole.map asciiNumeral ++ a.pointed.map asciiNumeral) := by
  rw [map_chars]
  obtain ⟨c, cs, hwhole⟩ := List.exists_cons_of_ne_nil a.nonempty
  have hdigit : (asciiNumeral c).isDigit = true :=
    asciiNumeral_of_isDigit (a.wholeDigits c (hwhole ▸ List.mem_cons_self))
  cases hsign : a.negative with
  | true => rw [sign, hsign]; rfl
  | false =>
    rw [sign, hsign, hwhole]
    exact splitSign_of_digit hdigit

theorem readScientific_chars :
    readScientific (a.whole.map asciiNumeral ++ a.pointed.map asciiNumeral) =
      some (digitsValue ((a.whole ++ a.fraction).map asciiNumeral),
        -Int.ofNat a.fraction.length) := by
  have hwhole := allDigits_map a.wholeDigits
  have hfraction := allDigits_map a.fractionDigits
  have hnext : NoDigitNext (a.pointed.map asciiNumeral) := by
    rw [map_pointed]
    split
    · exact nofun
    · exact noDigitNext_cons rfl
  unfold readScientific
  dsimp only
  rw [takeWhile_digits hwhole hnext, dropWhile_digits hwhole hnext, map_pointed]
  have hne : (a.whole.map asciiNumeral).isEmpty = false := by
    simpa using a.nonempty
  cases hempty : a.fraction with
  | nil => simp [hne]
  | cons c cs =>
    rw [hempty] at hfraction
    have htake := @takeWhile_digits _ [] hfraction nofun
    have hdrop := @dropWhile_digits _ [] hfraction nofun
    rw [List.append_nil] at htake hdrop
    simp only [List.isEmpty_cons, Bool.false_eq_true, if_false, htake, hdrop, hne, Bool.false_and,
      List.map_append, List.length_map]

section Blanks

variable {before after : List Char} (hbefore : ∀ c ∈ before, isNumeralBlank c = true)
  (hafter : ∀ c ∈ after, isNumeralBlank c = true) (hs : s.toList = before ++ (a.chars ++ after))

include hbefore hafter hs

theorem plainNumeral_eq : plainNumeral s = some (a.chars.map asciiNumeral) := by
  obtain ⟨d, hd, -⟩ := a.exists_digit
  have htrim := trim_around hbefore hafter (fun c => isNumeralBlank_of_mem)
    (List.ne_nil_of_mem hd)
  unfold plainNumeral
  dsimp only
  rw [hs, htrim, dropGroupMarks_of_not_mem a.underscore_not_mem]

/-- **A numeral with nothing but blanks around it is read as its value.** -/
theorem ofText?_eq_value : Binary64.ofText? s = some a.value := by
  obtain ⟨c, hc⟩ := List.exists_mem_of_ne_nil a.whole a.nonempty
  have hmem : asciiNumeral c ∈ a.whole.map asciiNumeral ++ a.pointed.map asciiNumeral :=
    List.mem_append_left _ (List.mem_map_of_mem hc)
  have hword : ∀ word : List Char, word.any Char.isDigit = false →
      (asciiLower (a.whole.map asciiNumeral ++ a.pointed.map asciiNumeral) == word) = false :=
    fun _ => asciiLower_beq_of_digit hmem (asciiNumeral_of_isDigit (a.wholeDigits c hc))
  unfold Binary64.ofText?
  rw [a.plainNumeral_eq hbefore hafter hs, Option.bind_eq_bind, Option.bind_some, splitSign_chars]
  dsimp only
  rw [hword _ (by decide), hword _ (by decide), hword _ (by decide), readScientific_chars]
  rfl

end Blanks

end Numeral

end DialPlan
