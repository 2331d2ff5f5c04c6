import DialPlan.Proofs.Rule.Acceptance
import DialPlan.Proofs.Schema.Rule

/-!
# Where the check of a rule breaks off

The check of a rule reports what is wrong with it.  A value of a leaf that cannot be read and a
pattern that cannot be made are problems like others, but for the faults that a comparison lets
through as well: they end the check, and so does a value that the problem with it would have to
quote and cannot.  `LeafBreaks` says which leaves they come from.

Above the leaves the check takes every step, whatever the one before has found.  So it breaks off
exactly when some condition that it looks into does; which these are can be read off the rule
(`Hop.examined`, `Target.examined`).
-/

namespace DialPlan

variable {v : Vocabulary} {p : Predicate} {field : FieldSpec}

/-! ## Values -/

/-- A text fails by the kind of the value, or by the digits of an integer. -/
theorem coerceText_eq_error {w : Value} {f : Fault} (h : coerceText w = .error f) :
    f.kind = .type ∨ (∃ n, w = .int n ∧ hasNumeral n = false) ∧ f = .tooManyDigits none := by
  cases w with
  | str | bool | float | decimal => cases h
  | int n =>
    obtain ⟨hn, rfl⟩ := numeralOf_eq_error_iff.mp h
    exact Or.inr ⟨⟨n, rfl, hn⟩, rfl⟩
  | _ =>
    cases h
    exact Or.inl rfl

theorem kind_of_coerceText {w : Value} {f : Fault} (h : coerceText w = .error f) :
    f.kind = .type ∨ f.kind = .value := by
  rcases coerceText_eq_error h with hkind | ⟨-, rfl⟩
  · exact Or.inl hkind
  · exact Or.inr rfl

theorem kind_of_numberOfDecimal {d : Decimal} {f : Fault}
    (h : coerceNumber.numberOfDecimal d = .error f) : f.kind = .value := by
  unfold coerceNumber.numberOfDecimal at h
  split at h
  · cases h
  · cases h
    rfl

/-- The fault of a number is one of type or of value, if a leaf can deal with it. -/
theorem kind_of_coerceNumber {w : Value} {f : Fault} (h : coerceNumber w = .error f)
    (hf : f.degrades = true) : f.kind = .type ∨ f.kind = .value := by
  cases w with
  | int n =>
    rw [coerceNumber] at h
    rw [(numberOfInt_eq_error_iff.mp h).2] at hf
    cases hf
  | decimal d => exact Or.inr (kind_of_numberOfDecimal h)
  | str s =>
    rw [coerceNumber] at h
    split at h
    · exact Or.inr (kind_of_numberOfDecimal h)
    · cases h
      exact Or.inr rfl
  | float x => cases h
  | _ =>
    cases h
    exact Or.inl rfl

theorem kind_of_parseDuration {w : Value} {f : Fault} (h : parseDuration w = .error f)
    (hf : f.degrades = true) : f.kind = .type ∨ f.kind = .value := by
  cases w with
  | int n =>
    rw [parseDuration] at h
    rw [(numberOfInt_eq_error_iff.mp h).2] at hf
    cases hf
  | decimal d => exact Or.inr (kind_of_numberOfDecimal h)
  | str s =>
    rw [parseDuration] at h
    split at h
    · next x unit hduration =>
      rcases bind_eq_error_iff.mp h with hunit | ⟨_, -, h⟩
      · rw [hunit] at hduration
        obtain ⟨mark, rfl⟩ := readDuration_eq_error hduration
        cases hf
      · cases h
    · cases h
      exact Or.inr rfl
  | float x => cases h
  | _ =>
    cases h
    exact Or.inl rfl

/-- What the check of a value lets through is what trips its reading up. -/
theorem FieldType.check_eq_error_iff {t : FieldType} {w : Value} {f : Fault} :
    t.check w = .error f ∧ f.kind ≠ .type ∧ f.kind ≠ .value ↔ t.Trips w f := by
  have hread : ∀ {α : Type} {x : Except Fault α}, (do let _ ← x) = (.error f : Except Fault Unit) ↔
      x = .error f := by
    intro α x
    cases x <;> simp
  have hnumber : ∀ {x : Except Fault Binary64},
      (x = .error f → f.degrades = true → f.kind = .type ∨ f.kind = .value) →
      ((do let _ ← x) = (.error f : Except Fault Unit) ∧ f.kind ≠ .type ∧ f.kind ≠ .value ↔
        Scalar.number <$> x = .error f ∧ f.degrades = false) := by
    intro x hkind
    rw [hread, map_eq_error_iff]
    refine and_congr_right fun hx => ?_
    constructor
    · rintro ⟨htype, hvalue⟩
      exact Bool.eq_false_iff.mpr fun hf => (hkind hx hf).elim htype hvalue
    · intro hf
      constructor <;> (intro hkind; simp [Fault.degrades, hkind] at hf)
  cases t with
  | string | set | enum =>
    refine iff_of_false ?_ (by simp [Trips])
    rintro ⟨hcheck, htype, hvalue⟩
    exact (kind_of_coerceText (hread.mp hcheck)).elim htype hvalue
  | number =>
    have hcoercion : number.coercion? = some fun w => Scalar.number <$> coerceNumber w := rfl
    rw [trips_iff hcoercion]
    exact hnumber kind_of_coerceNumber
  | duration =>
    have hcoercion : duration.coercion? = some fun w => Scalar.number <$> parseDuration w := rfl
    rw [trips_iff hcoercion]
    exact hnumber kind_of_parseDuration

/-- **A value whose check breaks off**: it trips the reading up, or it cannot be read and the
problem cannot quote it. -/
inductive FieldType.Breaks (t : FieldType) (w : Value) : Fault → Prop
  | trips {f : Fault} : t.Trips w f → t.Breaks w f
  | unquotable : w.printable = false → (t = .set → w.collection? = none) →
      (∀ f, ¬ t.Trips w f) → t.Breaks w (.tooManyDigits none)

namespace FieldType

variable {t : FieldType} {w : Value} {f g : Fault}

/-- A value that is in order trips no reading up. -/
theorem not_trips_of_check (h : t.check w = .ok ()) : ¬ t.Trips w g := by
  intro hg
  obtain ⟨hg, -⟩ := check_eq_error_iff.mpr hg
  cases h.symm.trans hg

/-- Nor does one that a problem is reported of. -/
theorem not_trips_of_kind (h : t.check w = .error f) (hkind : f.kind = .type ∨ f.kind = .value) :
    ¬ t.Trips w g := by
  intro hg
  obtain ⟨hg, htype, hvalue⟩ := check_eq_error_iff.mpr hg
  cases h.symm.trans hg
  exact hkind.elim htype hvalue

theorem breaks_iff_of_trips (h : t.Trips w g) : t.Breaks w f ↔ f = g := by
  constructor
  · rintro (htrips | ⟨-, -, hreads⟩)
    · obtain ⟨hf, -⟩ := check_eq_error_iff.mpr htrips
      obtain ⟨hg, -⟩ := check_eq_error_iff.mpr h
      exact Except.error.inj (hf.symm.trans hg)
    · exact absurd h (hreads g)
  · rintro rfl
    exact .trips h

theorem breaks_iff_of_not_trips (h : ∀ g, ¬ t.Trips w g) :
    t.Breaks w f ↔
      (w.printable = false ∧ f = .tooManyDigits none) ∧ (t = .set → w.collection? = none) := by
  constructor
  · rintro (htrips | ⟨hprint, hsingle, -⟩)
    · exact absurd htrips (h f)
    · exact ⟨⟨hprint, rfl⟩, hsingle⟩
  · rintro ⟨⟨hprint, rfl⟩, hsingle⟩
    exact .unquotable hprint hsingle h

end FieldType

/-- A problem that quotes a value is not reported of one that cannot be put into words. -/
theorem requirePrintable_bind_eq_error_iff {α : Type} {w : Value} {a : α} {f : Fault} :
    (do w.requirePrintable; .ok a : Except Fault α) = .error f ↔
      w.printable = false ∧ f = .tooManyDigits none := by
  rw [bind_eq_error_iff, Value.requirePrintable_eq_error_iff]
  simp

/-- **The check of a value breaks off** at such values, and only at them. -/
theorem checkItem_eq_error_iff {w : Value} {f : Fault} :
    checkItem field p w = .error f ↔ field.type.Breaks w f := by
  unfold checkItem
  split
  · next members hset hmembers =>
    -- the members of a set are looked at, and not read
    have hreads : ∀ g, ¬ field.type.Trips w g := by simp [FieldType.Trips, hset]
    rw [FieldType.breaks_iff_of_not_trips hreads]
    refine iff_of_false (by simp) ?_
    rintro ⟨-, hsingle⟩
    cases hmembers.symm.trans (hsingle hset)
  · next hsingle =>
    have hsingle : field.type = .set → w.collection? = none := fun hset =>
      Option.eq_none_iff_forall_ne_some.mpr fun members => hsingle members hset
    split
    · next hcheck =>
      rw [FieldType.breaks_iff_of_not_trips fun g => FieldType.not_trips_of_check hcheck]
      refine iff_of_false ?_ (by simp [printable_of_check hcheck])
      split
      · next henum =>
        -- the choice is made on the text that was read already
        rw [henum] at hcheck
        obtain ⟨s, hs, -⟩ := bind_eq_ok_iff.mp hcheck
        rw [hs, ok_bind]
        split <;> simp
      · simp
    · next g hcheck =>
      have hreads (hkind : g.kind = .type ∨ g.kind = .value) : field.type.Breaks w f ↔
          w.printable = false ∧ f = .tooManyDigits none := by
        rw [FieldType.breaks_iff_of_not_trips fun g => FieldType.not_trips_of_kind hcheck hkind,
          and_iff_left hsingle]
      split
      · next hkind => rw [hreads (Or.inl hkind), requirePrintable_bind_eq_error_iff]
      · next hkind => rw [hreads (Or.inr hkind), requirePrintable_bind_eq_error_iff]
      · next htype hvalue =>
        have htrips : field.type.Trips w g :=
          FieldType.check_eq_error_iff.mp ⟨hcheck, htype, hvalue⟩
        rw [FieldType.breaks_iff_of_trips htrips, Except.error.injEq, eq_comm]

/-- **The values of a leaf are checked up to the first whose check breaks off.** -/
theorem checkItems_eq_error_iff {items : List Value} {f : Fault} :
    checkItems field p items = .error f ↔
      StopsAt (fun w => checkItem field p w = .ok none) (fun w => field.type.Breaks w f) items := by
  induction items with
  | nil => simp [checkItems]
  | cons w items ih =>
    rw [checkItems, bind_eq_error_iff, stopsAt_cons_iff, checkItem_eq_error_iff, ← ih]
    refine or_congr_right ?_
    constructor
    · rintro ⟨problem, hw, hrest⟩
      cases problem with
      | some problem => cases hrest
      | none => exact ⟨hw, hrest⟩
    · rintro ⟨hw, hrest⟩
      exact ⟨none, hw, hrest⟩

/-! ## Leaves -/

/-- A pattern that cannot be made is a problem of the leaf if its form is wrong, or its kind. -/
theorem checkPattern_eq_error_iff_read {f : Fault} :
    checkPattern p = .error f ↔
      (coerceText p.value >>= readPattern) = .error f ∧ f.kind ≠ .type ∧ f.kind ≠ .pattern := by
  unfold checkPattern
  cases coerceText p.value >>= readPattern with
  | ok pattern => simp
  | error g =>
    dsimp only
    split
    · next htype =>
      refine iff_of_false (by simp) ?_
      rintro ⟨⟨⟩, hother, -⟩
      exact hother htype
    · next hpattern =>
      refine iff_of_false (by simp) ?_
      rintro ⟨⟨⟩, -, hother⟩
      exact hother hpattern
    · next htype hpattern =>
      rw [Except.error.injEq, Except.error.injEq]
      refine (and_iff_left_of_imp ?_).symm
      rintro rfl
      exact ⟨htype, hpattern⟩

/-- **The check of a pattern breaks off** over a value of too many digits, and over a pattern that
cannot be made for another reason than its form. -/
theorem checkPattern_eq_error_iff {f : Fault} :
    checkPattern p = .error f ↔
      ((∃ n, p.value = .int n ∧ hasNumeral n = false) ∧ f = .tooManyDigits none) ∨
        ∃ source err, coerceText p.value = .ok source ∧ Pattern.read source = .error err ∧
          (Fault.badPattern err).kind ≠ .pattern ∧ f = .badPattern err := by
  rw [checkPattern_eq_error_iff_read, bind_eq_error_iff, or_and_right]
  refine or_congr ⟨?_, ?_⟩ ⟨?_, ?_⟩
  · rintro ⟨h, htype, -⟩
    exact (coerceText_eq_error h).resolve_left htype
  · rintro ⟨⟨n, hn, hdigits⟩, rfl⟩
    refine ⟨?_, by simp [Fault.kind], by simp [Fault.kind]⟩
    rw [hn, coerceText]
    exact numeralOf_eq_error_iff.mpr ⟨hdigits, rfl⟩
  · rintro ⟨⟨source, hsource, hread⟩, -, hpattern⟩
    obtain ⟨err, hmistake, rfl⟩ := readPattern_eq_error hread
    exact ⟨source, err, hsource, hmistake, hpattern, rfl⟩
  · rintro ⟨source, err, hsource, hread, hpattern, rfl⟩
    refine ⟨⟨source, hsource, by rw [readPattern, hread]⟩, ?_, hpattern⟩
    rw [Fault.kind]
    split <;> simp

namespace Vocabulary

/-- **The check of a leaf comes to its values.** -/
structure Reaches (v : Vocabulary) (p : Predicate) (field : FieldSpec) (o : OperatorSpec)
    (items : List Value) : Prop where
  knowsField : v.fields.get? p.field = some field
  knowsOperator : v.operators.get? p.operator = some o
  applies : o.appliesTo field.type = true
  orders : field.type = .set → p.operator ∉ orderedOperators
  takes : o.arity ≠ .none
  items : leafItems o.arity p = .ok items

/-- **The check of a leaf breaks off.** -/
inductive LeafBreaks (v : Vocabulary) (p : Predicate) : Fault → Prop
  /-- Its pattern cannot be made, for another reason than its form. -/
  | pattern {field : FieldSpec} {o : OperatorSpec} {items : List Value} {source : String}
    {err : PatternError} : v.Reaches p field o items → p.operator = Operator.regex.name →
      coerceText p.value = .ok source → Pattern.read source = .error err →
        (Fault.badPattern err).kind ≠ .pattern → LeafBreaks v p (.badPattern err)
  /-- What should be a pattern is an integer of too many digits. -/
  | digits {field : FieldSpec} {o : OperatorSpec} {items : List Value} {n : Int} :
      v.Reaches p field o items → p.operator = Operator.regex.name → p.value = .int n →
        hasNumeral n = false → LeafBreaks v p (.tooManyDigits none)
  /-- The check of a value breaks off, after those of others that are in order. -/
  | value {field : FieldSpec} {o : OperatorSpec} {before : List Value} {w : Value}
    {after : List Value} {f : Fault} : v.Reaches p field o (before ++ w :: after) →
      p.operator ≠ Operator.regex.name → (∀ x ∈ before, checkItem field p x = .ok none) →
        field.type.Breaks w f → LeafBreaks v p f

theorem checkLeaf_of_reaches {o : OperatorSpec} {items : List Value}
    (h : v.Reaches p field o items) :
    v.checkLeaf p =
      if p.operator = Operator.regex.name then checkPattern p else checkItems field p items := by
  have horders : ¬ (field.type = .set ∧ p.operator ∈ orderedOperators) := fun h' =>
    h.orders h'.1 h'.2
  simp [checkLeaf, h.knowsField, h.knowsOperator, h.applies, horders, h.takes, h.items]

theorem checkLeaf_eq_error_iff {f : Fault} : v.checkLeaf p = .error f ↔ v.LeafBreaks p f := by
  constructor
  · intro h
    unfold checkLeaf at h
    -- the guards before the values answer without reading any
    split at h
    · cases h
    next field hfield =>
    split at h
    · cases h
    next o ho =>
    split at h
    · cases h
    next happlies =>
    split at h
    · cases h
    next horder =>
    split at h
    · cases h
    next harity =>
    split at h
    · cases h
    next items hitems =>
    have hreaches : v.Reaches p field o items :=
      ⟨hfield, ho, by simpa using happlies, by simpa using horder, harity, hitems⟩
    split at h
    · next hregex =>
      rcases checkPattern_eq_error_iff.mp h with
        ⟨⟨n, hn, hdigits⟩, rfl⟩ | ⟨source, err, hsource, hread, hkind, rfl⟩
      · exact .digits hreaches hregex hn hdigits
      · exact .pattern hreaches hregex hsource hread hkind
    · next hregex =>
      obtain ⟨before, w, after, rfl, hbefore, hw⟩ := checkItems_eq_error_iff.mp h
      exact .value hreaches hregex hbefore hw
  · intro h
    cases h with
    | pattern hreaches hregex hsource hread hkind =>
      rw [checkLeaf_of_reaches hreaches, if_pos hregex]
      exact checkPattern_eq_error_iff.mpr (Or.inr ⟨_, _, hsource, hread, hkind, rfl⟩)
    | digits hreaches hregex hn hdigits =>
      rw [checkLeaf_of_reaches hreaches, if_pos hregex]
      exact checkPattern_eq_error_iff.mpr (Or.inl ⟨⟨_, hn, hdigits⟩, rfl⟩)
    | value hreaches hregex hbefore hw =>
      rw [checkLeaf_of_reaches hreaches, if_neg hregex]
      exact checkItems_eq_error_iff.mpr ⟨_, _, _, rfl, hbefore, hw⟩

/-! ## Conditions -/

/-- **The check of a condition breaks off**: its tree is not too deep, and that of a leaf does. -/
def ConditionBreaks (v : Vocabulary) (c : Condition) : Prop :=
  c.depth ≤ maxConditionDepth ∧ ∃ p ∈ c.leaves, ∃ f, v.LeafBreaks p f

theorem breaksOff_checkLeaves_iff {leaves : List Predicate} :
    BreaksOff (v.checkLeaves leaves) ↔ ∃ p ∈ leaves, ∃ f, v.LeafBreaks p f := by
  induction leaves with
  | nil => simp [checkLeaves]
  | cons p leaves ih =>
    rw [checkLeaves, breaksOff_both_iff, ih]
    simp [BreaksOff, checkLeaf_eq_error_iff]

theorem breaksOff_checkCondition_iff {c : Condition} :
    BreaksOff (v.checkCondition c) ↔ v.ConditionBreaks c := by
  unfold checkCondition ConditionBreaks
  split
  · next hdeep => simp [Nat.not_le.mpr hdeep]
  · next hdepth => simp [breaksOff_checkLeaves_iff, Nat.not_lt.mp hdepth]

end Vocabulary

/-! ## Hops and targets -/

/-- **A hop as a reader gives it**: conditions hold trees, the type of the group is none or a text,
and settings hold integers. -/
structure Hop.Typed (h : Hop) : Prop where
  conditions : ∀ s ∈ h.conditions, ∃ c, s = .holds c
  groupType : h.groupType.printable = true
  urlTest : ∀ u ∈ h.urlTest, u.Decoded

/-- **A target as a reader gives it.** -/
def Target.Typed : Target → Prop
  | conditions root => ∀ s ∈ root, ∃ c, s = .holds c
  | _ => True

/-- **The conditions that the check of a hop looks into.** -/
def Hop.examined (h : Hop) : List Condition :=
  if h.selector = .dynamic ∨ h.selector = .custom then (h.conditions.bind Slot.part?).toList else []

/-- **The conditions that the check of a target looks into.** -/
def Target.examined : Target → List Condition
  | conditions root => (root.bind Slot.part?).toList
  | _ => []

theorem typed_of_readHop {w : Value} {h : Hop} (hread : readHop w = .good h) : h.Typed := by
  cases w with
  | dict entries =>
    obtain ⟨p, -, -, -, -, -, hurlTest, -, -, -, -, hassemble⟩ :=
      readHopEntries_eq_good_iff.mp hread
    simp only [HopParts.assemble, Checked.andThen_eq_good_iff] at hassemble
    obtain ⟨selector, -, mode, -, hassemble⟩ := hassemble
    split at hassemble
    · exact absurd hassemble Checked.fail_ne_good
    obtain ⟨reference, -, rfl⟩ := Checked.map_eq_good_iff.mp hassemble
    constructor
    · intro s hs
      obtain ⟨c, -, rfl⟩ := Option.map_eq_some_iff.mp hs
      exact ⟨c, rfl⟩
    · dsimp only
      repeat' split
      all_goals simp
    · intro u hu
      rw [show p.urlTest = some u from hu] at hurlTest
      obtain ⟨w, -, hw⟩ := Schema.exists_of_optionalField hurlTest
      cases w with
      | dict fields => exact decoded_of_readUrlTest hw
      | _ => cases hw
  | _ => cases hread

theorem typed_of_readTarget {w : Value} {t : Target} (hread : readTarget w = .good t) :
    t.Typed := by
  cases w with
  | dict entries =>
    obtain ⟨p, -, -, -, hassemble⟩ := readTargetEntries_eq_good_iff.mp hread
    unfold TargetParts.assemble at hassemble
    split at hassemble
    · cases hassemble
      exact trivial
    · obtain ⟨id, -, rfl⟩ := Checked.map_eq_good_iff.mp hassemble
      exact trivial
    · cases hassemble
      intro s hs
      obtain ⟨c, -, rfl⟩ := Option.map_eq_some_iff.mp hs
      exact ⟨c, rfl⟩
  | _ => cases hread

namespace Vocabulary

/-- Settings that were read are checked to the end. -/
theorem not_breaksOff_checkUrlTest {u : UrlTest} (h : u.Decoded) :
    ¬ BreaksOff (checkUrlTest u) := by
  obtain ⟨url, interval, tolerance, -, -, rfl⟩ := h
  rw [checkUrlTest, breaksOff_both_iff]
  simp [isBelowZero, Value.quantity?]

theorem breaksOff_checkConditions_iff {h : Hop} (htyped : h.Typed) :
    BreaksOff (checkHop.checkConditions v h) ↔
      ∃ c ∈ (h.conditions.bind Slot.part?).toList, v.ConditionBreaks c := by
  unfold checkHop.checkConditions
  cases hconditions : h.conditions with
  | none => simp
  | some s =>
    obtain ⟨c, rfl⟩ := htyped.conditions s hconditions
    simp [checkPlace, ok_bind, breaksOff_checkCondition_iff]

/-- **The check of a hop breaks off in a condition.** -/
theorem breaksOff_checkHop_iff {h : Hop} (htyped : h.Typed) :
    BreaksOff (v.checkHop h) ↔ ∃ c ∈ h.examined, v.ConditionBreaks c := by
  unfold checkHop Hop.examined
  cases hselector : h.selector with
  | node | group | template => simp
  | dynamic => simpa using breaksOff_checkConditions_iff htyped
  | custom =>
    -- the name, the type and the settings are checked too, and none of that breaks off
    rw [if_pos (Or.inr rfl), ← breaksOff_checkConditions_iff htyped]
    have hprint : h.generatedType.requirePrintable = .ok () := by
      rw [Value.requirePrintable_eq_ok_iff, Hop.generatedType]
      split
      · exact htyped.groupType
      · simp
    cases hsettings : h.urlTest with
    | none =>
      simp only [hprint, ok_bind, ite_self]
      cases checkHop.checkConditions v h <;> simp [BreaksOff, bind, Except.bind]
    | some u =>
      simp only [hprint, ok_bind, ite_self]
      rw [breaksOff_both_iff]
      simp [not_breaksOff_checkUrlTest (htyped.urlTest u hsettings)]

theorem breaksOff_checkChainFrom_iff {first : Nat} {hops : List Hop}
    (htyped : ∀ h ∈ hops, h.Typed) :
    BreaksOff (v.checkChainFrom first (hops.map .holds)) ↔
      ∃ c ∈ hops.flatMap Hop.examined, v.ConditionBreaks c := by
  induction hops generalizing first with
  | nil => simp [checkChainFrom]
  | cons h hops ih =>
    obtain ⟨hhop, htyped⟩ := List.forall_mem_cons.mp htyped
    rw [List.map_cons, checkChainFrom, breaksOff_both_iff, breaksOff_checkHop_iff hhop, ih htyped]
    simp only [List.flatMap_cons, List.mem_append, or_and_right, exists_or]

/-- **The check of a chain breaks off in a condition** of a hop. -/
theorem breaksOff_checkChain_iff {hops : List Hop} (htyped : ∀ h ∈ hops, h.Typed) :
    BreaksOff (v.checkChain (hops.map .holds)) ↔
      ∃ c ∈ hops.flatMap Hop.examined, v.ConditionBreaks c :=
  breaksOff_checkChainFrom_iff htyped

theorem breaksOff_checkTarget_iff {t : Target} (htyped : t.Typed) :
    BreaksOff (v.checkTarget (.holds t)) ↔ ∃ c ∈ t.examined, v.ConditionBreaks c := by
  cases t with
  | all | node => simp [checkTarget, Target.examined]
  | conditions root =>
    cases root with
    | none => simp [checkTarget, Target.examined]
    | some s =>
      obtain ⟨c, rfl⟩ := htyped s rfl
      simp [checkTarget, checkPlace, Target.examined, ok_bind, breaksOff_checkCondition_iff]

/-- **The check of a rule breaks off in a condition** of its chain or of its target. -/
theorem breaksOff_checkRule_iff {r : Rule} {hops : List Hop} {t : Target}
    (hchain : r.chain = hops.map .holds) (htarget : r.target = .holds t)
    (hhops : ∀ h ∈ hops, h.Typed) (ht : t.Typed) :
    BreaksOff (v.checkRule r) ↔
      ∃ c ∈ hops.flatMap Hop.examined ++ t.examined, v.ConditionBreaks c := by
  unfold checkRule
  dsimp only
  rw [breaksOff_both_iff, hchain, htarget, breaksOff_checkChain_iff hhops,
    breaksOff_checkTarget_iff ht]
  simp only [List.mem_append, or_and_right, exists_or]

end Vocabulary

end DialPlan
