import DialPlan.Proofs.Chain.Fastest
import DialPlan.Proofs.Number.Monotone
import DialPlan.Proofs.Number.Numeral
import DialPlan.Proofs.Rule.ListExpansion

/-!
# Delays as conditions read them

Conditions read a delay as a duration, with a unit or without; the fastest pick reads it as a plain
number.  The two readings agree on every delay that is bare, that is on numbers and on texts without
a unit; any other duration counts as nothing for the pick (`delayOf_eq_of_lasts`).  So the pick is
the shortest candidate exactly when a bare one is as short as any, or no bare one takes any time and
the first happens to be shortest.
-/

namespace DialPlan

variable {s : String} {x : Binary64} {unit : Except Fault DurationUnit}

/-! ## The texts of durations -/

/-- **The parts of a duration**: a numeral and a unit mark, with blanks around them. -/
structure DurationParts (cs : List Char) (x : Binary64) (unit : Except Fault DurationUnit) where
  numeral : Numeral
  before : List Char
  between : List Char
  mark : List Char
  after : List Char
  written : cs = before ++ (numeral.chars ++ (between ++ (mark ++ after)))
  blank : ∀ c ∈ before ++ (between ++ after), Text.isBlank c = true
  unit_eq : readUnit mark = some unit
  value_eq : numeral.value = x

theorem DurationParts.mem_iff {cs : List Char} (p : DurationParts cs x unit) {c : Char} :
    c ∈ cs ↔ c ∈ p.numeral.chars ∨ c ∈ p.before ++ (p.between ++ p.after) ∨ c ∈ p.mark := by
  conv_lhs => rw [p.written]
  simp only [List.mem_append]
  tauto

/-- A duration behind its sign. -/
def readUnsignedDuration (negative : Bool) (cs : List Char) :
    Option (Binary64 × Except Fault DurationUnit) := do
  let whole := cs.takeWhile Text.isDigit
  let rest := cs.dropWhile Text.isDigit
  if whole.isEmpty then none
  else
    let (fraction, rest) ← match rest with
      | '.' :: rest =>
        let ds := rest.takeWhile Text.isDigit
        if ds.isEmpty then none else some (ds, rest.dropWhile Text.isDigit)
      | _ => some ([], rest)
    let unit ← readUnit (Text.trimEndChars (rest.dropWhile Text.isBlank))
    let digits := digitsValue ((whole ++ fraction).map asciiNumeral)
    some (.ofDecimal negative digits (-Int.ofNat fraction.length), unit)

theorem exists_unsigned (s : String) : ∃ negative cs,
    s.toList.dropWhile Text.isBlank = (if negative then ['-'] else []) ++ cs ∧
      readDuration s = readUnsignedDuration negative cs := by
  unfold readDuration
  simp only []
  split
  next rest hminus => exact ⟨true, rest, hminus, rfl⟩
  next => exact ⟨false, _, rfl, rfl⟩

/-- Behind a numeral stands a unit mark, with blanks around it. -/
theorem durationParts_of_numeral (a : Numeral) {before rest : List Char}
    (hbefore : ∀ c ∈ before, Text.isBlank c = true)
    (h : readUnit (Text.trimEndChars (rest.dropWhile Text.isBlank)) = some unit) :
    Nonempty (DurationParts (before ++ (a.chars ++ rest)) a.value unit) := by
  let ending := rest.dropWhile Text.isBlank
  have hending : ending = Text.trimEndChars ending ++
      (ending.reverse.takeWhile Text.isBlank).reverse := by
    rw [Text.trimEndChars, ← List.reverse_append, List.takeWhile_append_dropWhile,
      List.reverse_reverse]
  refine ⟨⟨a, before, rest.takeWhile Text.isBlank, Text.trimEndChars ending,
    (ending.reverse.takeWhile Text.isBlank).reverse, ?_, ?_, h, rfl⟩⟩
  · rw [← hending, List.takeWhile_append_dropWhile]
  · intro c hc
    simp only [List.mem_append, List.mem_reverse] at hc
    rcases hc with hc | hc | hc
    · exact hbefore c hc
    · exact List.mem_takeWhile_imp hc
    · exact List.mem_takeWhile_imp hc

/-- Behind the sign stands a numeral. -/
theorem durationParts_of_unsigned {negative : Bool} {before cs : List Char}
    (hbefore : ∀ c ∈ before, Text.isBlank c = true)
    (h : readUnsignedDuration negative cs = some (x, unit)) :
    Nonempty (DurationParts (before ++ ((if negative then ['-'] else []) ++ cs)) x unit) := by
  have htaken : ∀ (cs : List Char), ∀ c ∈ cs.takeWhile Text.isDigit, Text.isDigit c = true :=
    fun _ _ => List.mem_takeWhile_imp
  unfold readUnsignedDuration at h
  simp only [] at h
  split at h
  case isTrue => cases h
  case isFalse hwhole =>
    have hne : cs.takeWhile Text.isDigit ≠ [] := fun hnil => hwhole (by rw [hnil]; rfl)
    split at h
    next rest hpoint =>
      split at h
      case isTrue => cases h
      case isFalse hfraction =>
        obtain ⟨_, hread, h⟩ := Option.bind_eq_some_iff.mp h
        cases hread
        obtain ⟨u, hunit, h⟩ := Option.bind_eq_some_iff.mp h
        cases h
        have hparts := durationParts_of_numeral ⟨negative, cs.takeWhile Text.isDigit,
          rest.takeWhile Text.isDigit, htaken cs, htaken rest, hne⟩ hbefore hunit
        rw [Numeral.chars, Numeral.pointed, if_neg hfraction, List.append_assoc, List.append_assoc,
          List.cons_append, List.takeWhile_append_dropWhile, ← hpoint,
          List.takeWhile_append_dropWhile] at hparts
        exact hparts
    next =>
      obtain ⟨_, hread, h⟩ := Option.bind_eq_some_iff.mp h
      cases hread
      obtain ⟨u, hunit, h⟩ := Option.bind_eq_some_iff.mp h
      cases h
      have hparts := durationParts_of_numeral ⟨negative, cs.takeWhile Text.isDigit, [],
        htaken cs, by simp, hne⟩ hbefore hunit
      rw [Numeral.chars, Numeral.pointed, if_pos List.isEmpty_nil, List.append_nil,
        List.append_assoc, List.takeWhile_append_dropWhile] at hparts
      exact hparts

/-- **What is read as a duration has its parts.** -/
theorem durationParts_of_readDuration (h : readDuration s = some (x, unit)) :
    Nonempty (DurationParts s.toList x unit) := by
  have hblank : ∀ c ∈ s.toList.takeWhile Text.isBlank, Text.isBlank c = true := fun _ =>
    List.mem_takeWhile_imp
  obtain ⟨negative, cs, hsign, heq⟩ := exists_unsigned s
  rw [← @List.takeWhile_append_dropWhile _ Text.isBlank s.toList, hsign]
  exact durationParts_of_unsigned hblank (heq ▸ h)

/-! ## The two readings of a text -/

/-- **A text is bare** when nothing stands in it but digits, a minus, a point and blanks around a
plain numeral. -/
def isBareText (s : String) : Bool :=
  s.toList.all fun c => Text.isDigit c || c == '-' || c == '.' || isNumeralBlank c

theorem not_foreign_of_isBareText (h : isBareText s = true) {c : Char} (hc : c ∈ s.toList) :
    ¬ Foreign c := by
  intro hforeign
  have hbare := List.all_eq_true.mp h c hc
  simp only [hforeign.notDigit, hforeign.notBlank, Bool.false_or, Bool.or_false, Bool.or_eq_true,
    beq_iff_eq] at hbare
  rcases hbare with rfl | rfl <;> exact hforeign.notMark (by decide)

/-- The letters that marks of units are made of. -/
def unitLetters : List Char := ['m', 'M', 'h', 'H', 's', 'S', 'ſ']

theorem mem_unitLetters {mark : List Char} (h : readUnit mark = some unit) {c : Char}
    (hc : c ∈ mark) : c ∈ unitLetters := by
  unfold readUnit at h
  split at h
  · cases hc
  · cases List.mem_singleton.mp hc
    by_contra hnot
    simp only [unitLetters, List.mem_cons, List.not_mem_nil, or_false, not_or] at hnot
    simp [isSecondsLetter, hnot] at h
  · next d e _ =>
    split at h
    case isFalse => cases h
    case isTrue hmark =>
      simp only [isSecondsLetter, Bool.and_eq_true, Bool.or_eq_true, beq_iff_eq] at hmark
      simp only [List.mem_cons, List.not_mem_nil, or_false] at hc
      rcases hc with rfl | rfl
      · rcases hmark.1 with rfl | rfl <;> simp [unitLetters]
      · rcases hmark.2 with (rfl | rfl) | rfl <;> simp [unitLetters]
  · cases h

theorem foreign_of_mem_unitLetters {c : Char} (hc : c ∈ unitLetters) : Foreign c := by
  have hletters : (unitLetters.all fun c => !Text.isDigit c && !isNumeralBlank c &&
      !(['.', 'e', 'E', '+', '-', '_'].contains c)) = true := by decide
  have hletter := List.all_eq_true.mp hletters c hc
  simp only [Bool.and_eq_true, Bool.not_eq_true'] at hletter
  exact ⟨hletter.1.1, hletter.1.2, by simpa using hletter.2⟩

/-- Only the information separators are blanks that do not stand around a numeral. -/
theorem foreign_of_isBlank {c : Char} (h : Text.isBlank c = true)
    (hnot : isNumeralBlank c = false) : Foreign c where
  notDigit := isDigit_of_isBlank h
  notBlank := hnot
  notMark hmark := by
    have hmarks : (['.', 'e', 'E', '+', '-', '_'].all fun c => !Text.isBlank c) = true := by decide
    have hnotBlank := List.all_eq_true.mp hmarks c hmark
    rw [h] at hnotBlank
    cases hnotBlank

namespace DurationParts

/-- What is not of the numeral is foreign to it, unless it is a blank that may stand around it. -/
theorem foreign_of_mem (p : DurationParts s.toList x unit) {c : Char} (hc : c ∈ s.toList)
    (hnumeral : c ∉ p.numeral.chars) (hblank : isNumeralBlank c = false) : Foreign c := by
  rcases (p.mem_iff.mp hc).resolve_left hnumeral with haround | hmark
  · exact foreign_of_isBlank (p.blank c haround) hblank
  · exact foreign_of_mem_unitLetters (mem_unitLetters p.unit_eq hmark)

/-- **A bare text has no unit, and is read as a plain numeral.** -/
theorem of_isBareText (p : DurationParts s.toList x unit) (hbare : isBareText s = true) :
    Binary64.ofText? s = some x ∧ unit = .ok .milliseconds := by
  have hforeign : ∀ c ∈ s.toList, ¬ Foreign c := fun c => not_foreign_of_isBareText hbare
  -- a letter of a unit, or a blank that may not stand around a numeral, would be foreign
  have hmark : p.mark = [] := List.eq_nil_iff_forall_not_mem.mpr fun c hc =>
    hforeign c (p.mem_iff.mpr (Or.inr (Or.inr hc)))
      (foreign_of_mem_unitLetters (mem_unitLetters p.unit_eq hc))
  have hblank : ∀ c ∈ p.before ++ (p.between ++ p.after), isNumeralBlank c = true := by
    intro c hc
    refine Bool.eq_true_of_not_eq_false fun hnot => ?_
    exact hforeign c (p.mem_iff.mpr (Or.inr (Or.inl hc))) (foreign_of_isBlank (p.blank c hc) hnot)
  have hs := p.written
  have hunit := p.unit_eq
  rw [hmark, List.nil_append] at hs
  rw [hmark] at hunit
  refine ⟨?_, (Option.some.inj hunit).symm⟩
  rw [← p.value_eq]
  exact p.numeral.ofText?_eq_value (fun c hc => hblank c (List.mem_append_left _ hc))
    (fun c hc => hblank c (List.mem_append_right _ hc)) hs

/-- **Any other text of a duration is no plain numeral.** -/
theorem of_not_isBareText (p : DurationParts s.toList x unit) (hbare : isBareText s = false) :
    Binary64.ofText? s = none := by
  obtain ⟨c, hc, hnot⟩ := List.all_eq_false.mp hbare
  simp only [Bool.or_eq_true, beq_iff_eq, not_or, Bool.not_eq_true] at hnot
  obtain ⟨⟨⟨hdigit, hminus⟩, hpoint⟩, hblank⟩ := hnot
  have hnumeral : c ∉ p.numeral.chars := fun hmem => by
    simpa [hdigit, hminus, hpoint] using Numeral.mem_chars hmem
  obtain ⟨d, hd, hddigit⟩ := p.numeral.exists_digit
  exact ofText?_eq_none hc (p.foreign_of_mem hc hnumeral hblank) (p.mem_iff.mpr (Or.inl hd)) hddigit

end DurationParts

/-- **A bare text is read alike as a duration and as a plain numeral, any other one only as a
duration.** -/
theorem ofText?_of_parseDuration {d : Binary64} (h : parseDuration (.str s) = .ok d) :
    Binary64.ofText? s = if isBareText s then some d else none := by
  rw [parseDuration] at h
  cases hread : readDuration s with
  | none =>
    rw [hread] at h
    cases h
  | some r =>
    obtain ⟨x, unit⟩ := r
    rw [hread] at h
    obtain ⟨u, hunit, hlength⟩ := bind_eq_ok_iff.mp h
    cases hlength
    obtain ⟨p⟩ := durationParts_of_readDuration hread
    by_cases hbare : isBareText s = true
    · obtain ⟨htext, hnone⟩ := p.of_isBareText hbare
      cases hunit.symm.trans hnone
      rw [if_pos hbare, htext]
      exact congrArg some (Binary64.mul_one x).symm
    · rw [if_neg hbare, p.of_not_isBareText (Bool.eq_false_iff.mpr hbare)]

/-! ## The two readings of a delay -/

/-- **A node lasts for a duration**: conditions read its delay as that. -/
def NodeView.Lasts (n : NodeView) (d : Binary64) : Prop :=
  ∃ w, n.present? "delay_time" = some w ∧ parseDuration w = .ok d

/-- A node that lasts for a positive duration. -/
def NodeView.Delayed (n : NodeView) : Prop := ∃ d, n.Lasts d ∧ Binary64.zero.lt d = true

/-- **A node is bare** unless its delay is a text that is not. -/
def NodeView.isBare (n : NodeView) : Bool :=
  match n.present? "delay_time" with
  | some (.str s) => isBareText s
  | _ => true

variable {n m : NodeView} {d d' : Binary64} {views : List NodeView} {seed : Option String}

theorem NodeView.Lasts.unique (h : n.Lasts d) (h' : n.Lasts d') : d = d' := by
  obtain ⟨w, hw, hd⟩ := h
  obtain ⟨w', hw', hd'⟩ := h'
  cases hw.symm.trans hw'
  exact Except.ok.inj (hd.symm.trans hd')

/-- **A bare delay is read alike by both; any other duration counts as nothing for the pick.** -/
theorem delayOf_eq_of_lasts (h : n.Lasts d) :
    delayOf n = .ok (if n.isBare then d else .zero) := by
  obtain ⟨w, hw, hd⟩ := h
  unfold delayOf NodeView.isBare
  rw [hw]
  cases w with
  | int k => exact hd
  | float x =>
    cases hd
    rfl
  | decimal k =>
    rw [parseDuration, coerceNumber.numberOfDecimal] at hd
    dsimp only
    cases hvalue : k.toBinary64? with
    | none =>
      rw [hvalue] at hd
      cases hd
    | some x =>
      rw [hvalue] at hd
      cases hd
      rfl
  | str s =>
    dsimp only
    rw [ofText?_of_parseDuration hd]
    split <;> rfl
  | _ => cases hd

theorem takes_iff_of_lasts (h : n.Lasts d) :
    n.Takes d' ↔ n.isBare = true ∧ d' = d ∧ Binary64.zero.lt d = true := by
  rw [NodeView.Takes, delayOf_eq_of_lasts h]
  cases n.isBare with
  | true =>
    simp only [if_pos, Except.ok.injEq, true_and]
    constructor
    · rintro ⟨rfl, hpos⟩
      exact ⟨rfl, hpos⟩
    · rintro ⟨rfl, hpos⟩
      exact ⟨rfl, hpos⟩
  | false =>
    refine iff_of_false ?_ nofun
    rintro ⟨hzero, hpos⟩
    rw [if_neg Bool.false_ne_true, Except.ok.injEq] at hzero
    rw [← hzero] at hpos
    exact Binary64.not_le_of_lt hpos (Binary64.le_refl_of_ne_nan Binary64.zero_ne_nan)

/-! ## The shortest candidate -/

/-- **A shortest of several nodes** lasts for a positive duration, and no delayed one for less. -/
structure Shortest (views : List NodeView) (n : NodeView) : Prop where
  mem : n ∈ views
  delayed : n.Delayed
  least : ∀ d, n.Lasts d → ∀ m ∈ views, ∀ d', m.Lasts d' → Binary64.zero.lt d' = true →
    d.le d' = true

/-- How long a node lasts is a number for the conditions. -/
def NodeView.Measured (n : NodeView) : Prop := ∃ d, n.Lasts d ∧ d ≠ .nan

/-- What may be picked and is bare. -/
def HasBareDelay (views : List NodeView) : Prop := ∃ m ∈ views, m.isBare = true ∧ m.Delayed

/-- **The fastest node is a shortest bare one**, if any bare one is delayed. -/
theorem Fastest.shortest (h : Fastest views n) (hviews : ∀ m ∈ views, m.Measured)
    (hbare : HasBareDelay views) : Shortest (views.filter NodeView.isBare) n := by
  obtain ⟨m, hm, hmbare, e, he, hepos⟩ := hbare
  obtain ⟨d, hquick⟩ := h.timed ⟨m, hm, e, (takes_iff_of_lasts he).mpr ⟨hmbare, rfl, hepos⟩⟩
  obtain ⟨c, hlasts, -⟩ := hviews n hquick.mem
  obtain ⟨hnbare, rfl, hpos⟩ := (takes_iff_of_lasts hlasts).mp hquick.takes
  refine ⟨List.mem_filter.mpr ⟨hquick.mem, hnbare⟩, ⟨d, hlasts, hpos⟩, ?_⟩
  intro c hc k hk d' hd' hpos'
  cases hlasts.unique hc
  obtain ⟨hkmem, hkbare⟩ := List.mem_filter.mp hk
  exact hquick.least k hkmem d' ((takes_iff_of_lasts hd').mpr ⟨hkbare, rfl, hpos'⟩)

/-- Where no bare node is delayed, the fastest one is the first. -/
theorem Fastest.head (h : Fastest views n) (hviews : ∀ m ∈ views, m.Measured)
    (hbare : ¬ HasBareDelay views) : views.head? = some n := by
  refine h.untimed fun m hm ⟨d', htakes⟩ => hbare ?_
  obtain ⟨d, hlasts, -⟩ := hviews m hm
  obtain ⟨hmbare, -, hpos⟩ := (takes_iff_of_lasts hlasts).mp htakes
  exact ⟨m, hm, hmbare, d, hlasts, hpos⟩

/-- **The fastest pick finds the fastest of candidates whose delays are numbers.** -/
theorem exists_fastest {first : NodeView} {rest : List NodeView}
    (hviews : ∀ m ∈ first :: rest, m.Measured) :
    ∃ n, pick .fastest seed first rest = .ok n ∧ Fastest (first :: rest) n := by
  have hread : ∀ m ∈ first :: rest, ∃ d, delayOf m = .ok d ∧ d ≠ .nan := by
    intro m hm
    obtain ⟨d, hd, hnumber⟩ := hviews m hm
    refine ⟨_, delayOf_eq_of_lasts hd, ?_⟩
    split
    · exact hnumber
    · exact Binary64.zero_ne_nan
  have hmisled : ¬ Misled first rest := by
    rintro ⟨hnan, -⟩
    obtain ⟨d, hd, hnumber⟩ := hread first List.mem_cons_self
    exact hnumber (Except.ok.inj (hd.symm.trans hnan))
  rw [pick]
  cases hpass : fastestFrom first rest with
  | ok n => exact ⟨n, rfl, fastest_of_not_misled hpass hmisled⟩
  | error f =>
    obtain ⟨-, m, hm, hover⟩ := (fastestFrom_eq_error_iff.mp hpass).1
    obtain ⟨d, hd, -⟩ := hread m hm
    exact absurd hover (not_overruns_of_delayOf hd)

/-- **A condition on a delay compares durations.** -/
theorem evaluate_delay_lessThan {w : Value} (hw : parseDuration w = .ok d) (hm : m.Lasts d') :
    (Condition.leaf ⟨"delay_time", "less_than", w⟩).evaluate .standard m = .ok (d'.lt d) := by
  obtain ⟨a, hactual, ha⟩ := hm
  let read : Value → Except Fault Scalar := fun w => Scalar.number <$> parseDuration w
  have hfield : Vocabulary.standard.fields.get? "delay_time" = some _ := rfl
  have hread : FieldType.duration.coercion? = some read := rfl
  have hexpected : read w = .ok (.number d) := congrArg (Scalar.number <$> ·) hw
  have hgiven : read a = .ok (.number d') := congrArg (Scalar.number <$> ·) ha
  refine Condition.evaluate_leaf_of_stock (o := .lessThan) rfl hfield (by decide) (by decide)
    hactual ?_
  refine (inOrder_eq_map hread hexpected a).trans ?_
  rw [hgiven]
  rfl

/-- **A delayed node is a shortest one when no delayed one falls below it** in a condition. -/
theorem shortest_iff_not_lessThan (hn : n ∈ views) (hdelayed : n.Delayed) {w : Value}
    (hw : n.present? "delay_time" = some w) :
    Shortest views n ↔ ∀ m ∈ views, m.Delayed →
      (Condition.leaf ⟨"delay_time", "less_than", w⟩).evaluate .standard m = .ok false := by
  obtain ⟨d, ⟨w', hw', hd⟩, hpos⟩ := hdelayed
  cases hw.symm.trans hw'
  have hlasts : n.Lasts d := ⟨w, hw, hd⟩
  constructor
  · rintro hshort m hm ⟨d', hd', hpos'⟩
    have hle : d.le d' = true := hshort.least d hlasts m hm d' hd' hpos'
    rw [evaluate_delay_lessThan hd hd', Bool.eq_false_iff.mpr fun hlt =>
      Binary64.not_le_of_lt hlt hle]
  · refine fun hbelow => ⟨hn, ⟨d, hlasts, hpos⟩, fun c hc m hm d' hd' hpos' => ?_⟩
    cases hlasts.unique hc
    have hfalse := hbelow m hm ⟨d', hd', hpos'⟩
    rw [evaluate_delay_lessThan hd hd', Except.ok.injEq] at hfalse
    have hcases := Binary64.lt_or_le (Binary64.ne_nan_of_lt hpos') (Binary64.ne_nan_of_lt hpos)
    rw [hfalse] at hcases
    exact hcases.resolve_left Bool.false_ne_true

/-- A shortest node among the bare ones is a shortest one when any bare node is. -/
theorem Shortest.of_bare (h : Shortest (views.filter NodeView.isBare) n) (hm : Shortest views m)
    (hbare : m.isBare = true) : Shortest views n where
  mem := (List.mem_filter.mp h.mem).1
  delayed := h.delayed
  least d hd k hk d' hd' hpos' := by
    obtain ⟨c, hc, hpos⟩ := hm.delayed
    exact Binary64.le_trans (h.least d hd m (List.mem_filter.mpr ⟨hm.mem, hbare⟩) c hc hpos)
      (hm.least c hc k hk d' hd' hpos')

/-- **The fastest pick is a shortest bare candidate.**  Take candidates that all last for a number,
as conditions read their delays.  The pick answers.  Where a bare candidate is delayed, the answer
is a shortest one among the bare, and otherwise the first candidate.  So it is a shortest of all
exactly where a bare candidate is one, or no bare one is delayed and the first candidate is one; and
a delayed candidate is a shortest one exactly where no delayed candidate satisfies the condition to
be below it. -/
theorem fastest_pick_shortest_of_bare (seed : Option String) (first : NodeView)
    (rest : List NodeView) (hviews : ∀ m ∈ first :: rest, m.Measured) :
    ∃ n, pick .fastest seed first rest = .ok n ∧
      (HasBareDelay (first :: rest) → Shortest ((first :: rest).filter NodeView.isBare) n) ∧
      (¬ HasBareDelay (first :: rest) → n = first) ∧
      (Shortest (first :: rest) n ↔
        (∃ m, m.isBare = true ∧ Shortest (first :: rest) m) ∨
          ¬ HasBareDelay (first :: rest) ∧ Shortest (first :: rest) first) ∧
      ∀ m ∈ first :: rest, m.Delayed → ∀ w, m.present? "delay_time" = some w →
        (Shortest (first :: rest) m ↔ ∀ k ∈ first :: rest, k.Delayed →
          (Condition.leaf ⟨"delay_time", "less_than", w⟩).evaluate .standard k = .ok false) := by
  obtain ⟨n, hpick, hfast⟩ := exists_fastest hviews
  have hbare := hfast.shortest hviews
  have hnone : ¬ HasBareDelay (first :: rest) → n = first := fun h =>
    (Option.some.inj (hfast.head hviews h)).symm
  refine ⟨n, hpick, hbare, hnone, ⟨fun hshort => ?_, ?_⟩, fun m hm hdelayed w hw =>
    shortest_iff_not_lessThan hm hdelayed hw⟩
  · by_cases h : HasBareDelay (first :: rest)
    · exact Or.inl ⟨n, (List.mem_filter.mp (hbare h).mem).2, hshort⟩
    · exact Or.inr ⟨h, hnone h ▸ hshort⟩
  · rintro (⟨m, hm, hshort⟩ | ⟨h, hshort⟩)
    · exact (hbare ⟨m, hshort.mem, hm, hshort.delayed⟩).of_bare hshort hm
    · exact (hnone h).symm ▸ hshort

/-- A candidate of forty milliseconds is bare where the unit is left out, and so is picked. -/
theorem fastest_pick_shortest_of_bare_mixed :
    let slow := NodeView.mapping [(.str "id", .str "a"), (.str "delay_time", .str "1.5s")]
    let quick := NodeView.mapping [(.str "id", .str "b"), (.str "delay_time", .str " 40 ")]
    pick .fastest none slow [quick] = .ok quick ∧ Shortest [slow, quick] quick := by
  intro slow quick
  have hslow : slow.Lasts (.ofInt 1500) := ⟨.str "1.5s", rfl, by decide +kernel⟩
  have hquick : quick.Lasts (.ofInt 40) := ⟨.str " 40 ", rfl, by decide +kernel⟩
  have hdelayed : quick.Delayed := ⟨_, hquick, by decide +kernel⟩
  have hviews : ∀ m ∈ [slow, quick], m.Measured :=
    List.forall_mem_cons.mpr ⟨⟨_, hslow, by decide +kernel⟩,
      List.forall_mem_singleton.mpr ⟨_, hquick, by decide +kernel⟩⟩
  obtain ⟨n, hpick, hbare, -, -, hleaf⟩ := fastest_pick_shortest_of_bare none slow [quick] hviews
  have hmem := (hbare ⟨quick, by simp, by decide +kernel, hdelayed⟩).mem
  have hfilter : [slow, quick].filter NodeView.isBare = [quick] := by decide +kernel
  rw [hfilter, List.mem_singleton] at hmem
  subst hmem
  refine ⟨hpick, (hleaf quick (by simp) hdelayed (.str " 40 ") rfl).mpr fun k hk _ => ?_⟩
  rcases List.mem_cons.mp hk with rfl | hk
  · decide +kernel
  · cases List.mem_singleton.mp hk
    decide +kernel

/-- Forty milliseconds are passed over for a hundred, when they are written with their unit. -/
theorem fastest_pick_not_always_shortest :
    ¬ ∀ (seed : Option String) (first : NodeView) (rest : List NodeView) (n : NodeView),
      (∀ m ∈ first :: rest, ∃ d, m.Lasts d ∧ d.isFinite = true) →
      (∃ m ∈ first :: rest, m.Delayed) → pick .fastest seed first rest = .ok n →
      Shortest (first :: rest) n := by
  intro h
  let quick := NodeView.mapping [(.str "id", .str "a"), (.str "delay_time", .str "40ms")]
  let slow := NodeView.mapping [(.str "id", .str "b"), (.str "delay_time", .int 100)]
  have hquick : quick.Lasts (.ofInt 40) := ⟨.str "40ms", rfl, by decide +kernel⟩
  have hslow : slow.Lasts (.ofInt 100) := ⟨.int 100, rfl, by decide +kernel⟩
  have hpick : pick .fastest none quick [slow] = .ok slow := by decide +kernel
  have hviews : ∀ m ∈ [quick, slow], ∃ d, m.Lasts d ∧ d.isFinite = true :=
    List.forall_mem_cons.mpr ⟨⟨_, hquick, by decide +kernel⟩,
      List.forall_mem_singleton.mpr ⟨_, hslow, by decide +kernel⟩⟩
  have hshort := h none quick [slow] slow hviews
    ⟨quick, List.mem_cons_self, _, hquick, by decide +kernel⟩ hpick
  have hle := hshort.least _ hslow quick List.mem_cons_self _ hquick (by decide +kernel)
  exact absurd hle (by decide +kernel)

end DialPlan
