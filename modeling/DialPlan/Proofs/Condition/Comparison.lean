import DialPlan.Condition.Evaluation
import DialPlan.Proofs.Number.Rounding
import DialPlan.Proofs.Outcome

/-!
# Which faults a comparison lets through

A leaf turns most faults of a comparison into "does not match".  Three kinds of fault it lets
through: an integer beyond the doubles where a number or a duration is read, a duration whose unit
is written with a long s, and a pattern that repeats something too often.  `Stumbles` says when a
comparison meets one of them: values are read one after the other, so it must come before any fault
that the leaf can deal with.
-/

namespace DialPlan

/-! ## Reading values -/

/-- A value that can be read in the type of a field. -/
def FieldType.Reads (t : FieldType) (w : Value) : Prop :=
  ∃ read x, t.coercion? = some read ∧ read w = .ok x

/-- **A value that trips a reading up**, with a fault that is not a leaf's to deal with. -/
def FieldType.Trips (t : FieldType) (w : Value) (f : Fault) : Prop :=
  ((t = .number ∨ t = .duration) ∧
    ∃ n, w = .int n ∧ (Binary64.ofInt n).isFinite = false ∧ f = .tooLarge) ∨
  (t = .duration ∧
    ∃ s x unit, w = .str s ∧ readDuration s = some (x, .error (.unknownUnit unit)) ∧
      f = .unknownUnit unit)

/-- **The values that an operator reads** in the type of the field, in the order in which it reads
them; none when it reads texts, or when its right side is not the list that it needs. -/
def Operator.readings (o : Operator) (actual expected : Value) : List Value :=
  match o with
  | .equals | .notEquals | .greaterThan | .greaterOrEqual | .lessThan | .lessOrEqual =>
    [actual, expected]
  | .between =>
    match expected.collection? with
    | some [low, high] => [low, high, actual]
    | _ => []
  | .isIn | .notIn =>
    match expected.collection? with
    | some options => actual :: options
    | none => []
  | _ => []

/-- **A comparison stumbles** over a pattern that cannot be made, or over the first value that it
cannot read. -/
def Stumbles (t : FieldType) (o : Operator) (actual expected : Value) (f : Fault) : Prop :=
  (o = .regex ∧ ∃ source err, coerceText expected = .ok source ∧
    Pattern.read source = .error err ∧ err.flaw = .repetitionTooLarge ∧ f = .badPattern err) ∨
  ∃ before w after, o.readings actual expected = before ++ w :: after ∧
    (∀ x ∈ before, t.Reads x) ∧ t.Trips w f

/-! ## Values that can be read -/

/-- What has a text has one that is not too long. -/
theorem printable_of_coerceText {w : Value} {s : String} (h : coerceText w = .ok s) :
    w.printable = true := by
  cases w with
  | int n => rw [Value.printable_int, (numeralOf_eq_ok_iff.mp h).1]
  | str s | bool b | float x | decimal d => simp [Value.printable]
  | _ => cases h

/-- An integer among the doubles can be put into words. -/
theorem printable_of_numberOfInt {n : Int} {x : Binary64}
    (h : coerceNumber.numberOfInt n = .ok x) : (Value.int n).printable = true := by
  unfold coerceNumber.numberOfInt at h
  dsimp only at h
  split at h
  · next hfinite => rw [Value.printable_int, Binary64.hasNumeral_of_isFinite hfinite]
  · cases h

theorem printable_of_coerceNumber {w : Value} {x : Binary64} (h : coerceNumber w = .ok x) :
    w.printable = true := by
  cases w with
  | int n => exact printable_of_numberOfInt h
  | float x | decimal d | str s => simp [Value.printable]
  | _ => cases h

theorem printable_of_parseDuration {w : Value} {x : Binary64} (h : parseDuration w = .ok x) :
    w.printable = true := by
  cases w with
  | int n => exact printable_of_numberOfInt h
  | float x | decimal d | str s => simp [Value.printable]
  | _ => cases h

/-! ## Faults of texts, sets and lists -/

theorem degrades_of_coerceText {v : Value} {f : Fault} (h : coerceText v = .error f) :
    f.degrades = true := by
  cases v with
  | int n =>
    obtain ⟨-, rfl⟩ := numeralOf_eq_error_iff.mp h
    rfl
  | str s | bool b | float x | decimal d => cases h
  | _ =>
    cases h
    rfl

theorem exists_coerceTexts_iff {ws : List Value} :
    (∃ ss, coerceTexts ws = .ok ss) ↔ ∀ w ∈ ws, ∃ s, coerceText w = .ok s := by
  induction ws with
  | nil => simp [coerceTexts]
  | cons w ws ih => rw [coerceTexts, exists_ok_both_iff, ih, List.forall_mem_cons]

theorem degrades_of_coerceTexts {vs : List Value} {f : Fault} (h : coerceTexts vs = .error f) :
    f.degrades = true := by
  induction vs with
  | nil => cases h
  | cons v vs ih =>
    rw [coerceTexts, bind_eq_error_iff] at h
    rcases h with hfirst | ⟨s, -, h⟩
    · exact degrades_of_coerceText hfirst
    · rcases bind_eq_error_iff.mp h with hrest | ⟨ss, -, h⟩
      · exact ih hrest
      · cases h

theorem degrades_of_coerceSet {v : Value} {f : Fault} (h : coerceSet v = .error f) :
    f.degrades = true := by
  have hitems : ∀ items, (do .ok (← coerceTexts items).eraseDups) =
      (.error f : Except Fault (List String)) → f.degrades = true := by
    intro items hitems
    rcases bind_eq_error_iff.mp hitems with htexts | ⟨ss, -, hitems⟩
    · exact degrades_of_coerceTexts htexts
    · cases hitems
  cases v with
  | str s => cases h
  | list items => exact hitems items h
  | tuple items => exact hitems items h
  | set items => exact hitems items h
  | _ => cases h; rfl

theorem readPattern_eq_error {source : String} {f : Fault} (h : readPattern source = .error f) :
    ∃ err, Pattern.read source = .error err ∧ f = .badPattern err := by
  unfold readPattern at h
  split at h
  · cases h
  · next err hread =>
    cases h
    exact ⟨err, hread, rfl⟩

/-- The only fault of a pattern that goes through is that it repeats something too often. -/
theorem readPattern_eq_error_iff {source : String} {f : Fault} :
    readPattern source = .error f ∧ f.degrades = false ↔
      ∃ err, Pattern.read source = .error err ∧ err.flaw = .repetitionTooLarge ∧
        f = .badPattern err := by
  unfold readPattern
  cases hread : Pattern.read source with
  | ok p => simp
  | error err =>
    simp only [Except.error.injEq]
    have hkind : (Fault.badPattern err).degrades = false ↔ err.flaw = .repetitionTooLarge := by
      cases hflaw : err.flaw <;> simp [Fault.degrades, Fault.kind, hflaw]
    constructor
    · rintro ⟨rfl, hf⟩
      exact ⟨err, rfl, hkind.mp hf, rfl⟩
    · rintro ⟨err', rfl, hflaw, rfl⟩
      exact ⟨rfl, hkind.mpr hflaw⟩

/-! ## Faults of numbers and durations -/

theorem numberOfInt_eq_error_iff {n : Int} {f : Fault} :
    coerceNumber.numberOfInt n = .error f ↔
      (Binary64.ofInt n).isFinite = false ∧ f = .tooLarge := by
  unfold coerceNumber.numberOfInt
  by_cases hfinite : (Binary64.ofInt n).isFinite = true
  · simp [hfinite]
  · simp [hfinite, eq_comm]

theorem degrades_of_numberOfDecimal {d : Decimal} {f : Fault}
    (h : coerceNumber.numberOfDecimal d = .error f) : f.degrades = true := by
  unfold coerceNumber.numberOfDecimal at h
  split at h
  · cases h
  · cases h
    rfl

theorem coerceNumber_eq_error_iff {w : Value} {f : Fault} :
    coerceNumber w = .error f ∧ f.degrades = false ↔
      ∃ n, w = .int n ∧ (Binary64.ofInt n).isFinite = false ∧ f = .tooLarge := by
  constructor
  · rintro ⟨hread, hf⟩
    cases w with
    | int n => exact ⟨n, rfl, numberOfInt_eq_error_iff.mp hread⟩
    | decimal d =>
      rw [degrades_of_numberOfDecimal hread] at hf
      cases hf
    | str s =>
      rw [coerceNumber] at hread
      split at hread
      · rw [degrades_of_numberOfDecimal hread] at hf
        cases hf
      · cases hread
        cases hf
    | float x => cases hread
    | _ => cases hread; cases hf
  · rintro ⟨n, rfl, hfinite, rfl⟩
    refine ⟨?_, rfl⟩
    rw [coerceNumber]
    exact numberOfInt_eq_error_iff.mpr ⟨hfinite, rfl⟩

/-- A unit that is none has a long s. -/
theorem readUnit_eq_error {cs : List Char} {f : Fault} (h : readUnit cs = some (.error f)) :
    ∃ unit, f = .unknownUnit unit := by
  unfold readUnit at h
  repeat' split at h
  all_goals first
    | exact ⟨_, (Except.error.inj (Option.some.inj h)).symm⟩
    | simp at h

theorem readDuration_eq_error {s : String} {x : Binary64} {f : Fault}
    (h : readDuration s = some (x, .error f)) : ∃ unit, f = .unknownUnit unit := by
  have hunit : ∀ (cs : List Char) (y : Binary64),
      (readUnit cs).bind (fun unit => some (y, unit)) = some (x, .error f) →
        ∃ unit, f = .unknownUnit unit := by
    intro cs y hmark
    obtain ⟨unit, hmark, heq⟩ := Option.bind_eq_some_iff.mp hmark
    cases heq
    exact readUnit_eq_error hmark
  unfold readDuration at h
  simp only [Option.bind_eq_bind] at h
  -- with a sign or without, and with a fraction or without
  repeat' split at h
  all_goals first
    | exact hunit _ _ h
    | cases h

theorem parseDuration_eq_error_iff {w : Value} {f : Fault} :
    parseDuration w = .error f ∧ f.degrades = false ↔
      (∃ n, w = .int n ∧ (Binary64.ofInt n).isFinite = false ∧ f = .tooLarge) ∨
        ∃ s x unit, w = .str s ∧ readDuration s = some (x, .error (.unknownUnit unit)) ∧
          f = .unknownUnit unit := by
  constructor
  · rintro ⟨hread, hf⟩
    cases w with
    | int n => exact Or.inl ⟨n, rfl, numberOfInt_eq_error_iff.mp hread⟩
    | decimal d =>
      rw [degrades_of_numberOfDecimal hread] at hf
      cases hf
    | str s =>
      rw [parseDuration] at hread
      split at hread
      · next x unit hduration =>
        rcases bind_eq_error_iff.mp hread with hunit | ⟨u, -, hread⟩
        · rw [hunit] at hduration
          obtain ⟨mark, rfl⟩ := readDuration_eq_error hduration
          exact Or.inr ⟨s, x, mark, rfl, hduration, rfl⟩
        · cases hread
      · cases hread
        cases hf
    | float x => cases hread
    | _ => cases hread; cases hf
  · rintro (⟨n, rfl, hfinite, rfl⟩ | ⟨s, x, unit, rfl, hduration, rfl⟩)
    · refine ⟨?_, rfl⟩
      rw [parseDuration]
      exact numberOfInt_eq_error_iff.mpr ⟨hfinite, rfl⟩
    · refine ⟨?_, rfl⟩
      rw [parseDuration, hduration]
      rfl

/-- **What trips a reading up** is what lets it break off with a fault that is not a leaf's. -/
theorem FieldType.trips_iff {t : FieldType} {w : Value} {f : Fault}
    {read : Value → Except Fault Scalar} (hread : t.coercion? = some read) :
    t.Trips w f ↔ read w = .error f ∧ f.degrades = false := by
  cases t with
  | number =>
    cases hread
    simp only [map_eq_error_iff, coerceNumber_eq_error_iff]
    simp [Trips]
  | duration =>
    cases hread
    simp only [map_eq_error_iff, parseDuration_eq_error_iff]
    simp [Trips]
  | set => cases hread
  | string | enum =>
    cases hread
    simp only [map_eq_error_iff, Trips, reduceCtorEq, or_self, false_and, false_iff, not_and]
    intro h
    simp [degrades_of_coerceText h]

theorem exists_coerceAll_iff {read : Value → Except Fault Scalar} {ws : List Value} :
    (∃ xs, coerceAll read ws = .ok xs) ↔ ∀ w ∈ ws, ∃ x, read w = .ok x := by
  induction ws with
  | nil => simp [coerceAll]
  | cons w ws ih => rw [coerceAll, exists_ok_both_iff, ih, List.forall_mem_cons]

/-- **Several values are read one after the other**, up to the first that cannot be read. -/
theorem coerceAll_eq_error_iff {read : Value → Except Fault Scalar} {ws : List Value} {f : Fault} :
    coerceAll read ws = .error f ↔
      StopsAt (fun w => ∃ x, read w = .ok x) (fun w => read w = .error f) ws := by
  induction ws with
  | nil => simp [coerceAll]
  | cons w ws ih =>
    rw [coerceAll, bind_eq_error_iff, stopsAt_cons_iff, ← ih]
    simp [bind_eq_error_iff]

/-! ## Comparisons -/

/-- Reading values in the type of a field lets a fault through. -/
def LetsThrough (t : FieldType) (ws : List Value) (f : Fault) : Prop :=
  ∃ read, t.coercion? = some read ∧ coerceAll read ws = .error f ∧ f.degrades = false

theorem letsThrough_iff {t : FieldType} {ws : List Value} {f : Fault} :
    LetsThrough t ws f ↔ ∃ before w after, ws = before ++ w :: after ∧
      (∀ x ∈ before, t.Reads x) ∧ t.Trips w f := by
  constructor
  · rintro ⟨read, hread, hall, hf⟩
    obtain ⟨before, w, after, rfl, hbefore, hw⟩ := coerceAll_eq_error_iff.mp hall
    refine ⟨before, w, after, rfl, fun x hx => ?_, (FieldType.trips_iff hread).mpr ⟨hw, hf⟩⟩
    obtain ⟨y, hy⟩ := hbefore x hx
    exact ⟨read, y, hread, hy⟩
  · rintro ⟨before, w, after, rfl, hbefore, hw⟩
    cases hread : t.coercion? with
    | none =>
      cases t with
      | set => simp [FieldType.Trips] at hw
      | _ => cases hread
    | some read =>
      obtain ⟨hw, hf⟩ := (FieldType.trips_iff hread).mp hw
      refine ⟨read, hread, coerceAll_eq_error_iff.mpr ⟨before, w, after, rfl, ?_, hw⟩, hf⟩
      intro x hx
      obtain ⟨read', y, hread', hy⟩ := hbefore x hx
      rw [hread] at hread'
      cases hread'
      exact ⟨y, hy⟩

/-- A comparison that reads values in the type of the field, and then answers, lets through what
reading them does. -/
theorem bind_coercion_eq_error_iff {t : FieldType} {o : Operator} {ws : List Value} {f : Fault}
    {compare : (Value → Except Fault Scalar) → Except Fault Bool}
    (h : ∀ read, compare read = .error f ↔ coerceAll read ws = .error f) :
    (t.coercion o >>= compare) = .error f ∧ f.degrades = false ↔ LetsThrough t ws f := by
  unfold FieldType.coercion LetsThrough
  cases hread : t.coercion? with
  | none =>
    simp only [bind_eq_error_iff, Except.error.injEq, reduceCtorEq, false_and, exists_false,
      or_false, iff_false, not_and]
    rintro rfl hf
    cases hf
  | some read =>
    simp only [bind_eq_error_iff, Except.ok.injEq, reduceCtorEq, false_or, exists_eq_left',
      Option.some.injEq, h]

/-- Two values are read from left to right. -/
theorem compare_two_eq_error_iff {read : Value → Except Fault Scalar} {a e : Value} {f : Fault}
    (test : Scalar → Scalar → Bool) :
    (do .ok (test (← read a) (← read e)) : Except Fault Bool) = .error f ↔
      coerceAll read [a, e] = .error f := by
  cases ha : read a <;> cases he : read e <;>
    simp [coerceAll, ha, he, bind, Except.bind]

/-- Nothing is read in the type of a set. -/
theorem not_letsThrough_set {ws : List Value} {f : Fault} : ¬ LetsThrough .set ws f := by
  rintro ⟨read, hread, -⟩
  cases hread

theorem isEqual_eq_error_iff {t : FieldType} {o : Operator} {a e : Value} {f : Fault} :
    isEqual t o a e = .error f ∧ f.degrades = false ↔ LetsThrough t [a, e] f := by
  cases t with
  | set =>
    refine iff_of_false ?_ not_letsThrough_set
    rintro ⟨hsets, hf⟩
    rcases bind_eq_error_iff.mp hsets with ha | ⟨as, -, hsets⟩
    · rw [degrades_of_coerceSet ha] at hf
      cases hf
    · rcases bind_eq_error_iff.mp hsets with he | ⟨es, -, hsets⟩
      · rw [degrades_of_coerceSet he] at hf
        cases hf
      · cases hsets
  | _ => exact bind_coercion_eq_error_iff fun read => compare_two_eq_error_iff Scalar.same

theorem inOrder_eq_error_iff {test : Scalar → Scalar → Bool} {t : FieldType} {o : Operator}
    {a e : Value} {f : Fault} :
    inOrder test t o a e = .error f ∧ f.degrades = false ↔ LetsThrough t [a, e] f :=
  bind_coercion_eq_error_iff fun _ => compare_two_eq_error_iff test

/-- Nothing to be read lets nothing through. -/
theorem not_letsThrough_nil {t : FieldType} {f : Fault} : ¬ LetsThrough t [] f := by
  rintro ⟨read, -, h, -⟩
  cases h

/-- A fault that the leaf deals with, where nothing is read. -/
theorem error_letsThrough_nil {α : Type} {g : Fault} (hg : g.degrades = true) {t : FieldType}
    {f : Fault} :
    (.error g : Except Fault α) = .error f ∧ f.degrades = false ↔ LetsThrough t [] f := by
  refine iff_of_false ?_ not_letsThrough_nil
  rintro ⟨⟨⟩, hf⟩
  rw [hg] at hf
  cases hf

theorem isBetween_eq_error_iff {t : FieldType} {a e : Value} {f : Fault} :
    isBetween t a e = .error f ∧ f.degrades = false ↔
      LetsThrough t (Operator.between.readings a e) f := by
  unfold isBetween asList Operator.readings
  cases e.collection? with
  | none => exact error_letsThrough_nil rfl
  | some items =>
    match items with
    | [low, high] =>
      refine bind_coercion_eq_error_iff fun read => ?_
      cases hlow : read low <;> cases hhigh : read high <;> cases ha : read a <;>
        simp [coerceAll, hlow, hhigh, ha, bind, Except.bind]
    | [] => exact error_letsThrough_nil rfl
    | [_] => exact error_letsThrough_nil rfl
    | _ :: _ :: _ :: _ => exact error_letsThrough_nil rfl

theorem isMember_eq_error_iff {t : FieldType} {o : Operator} {a e : Value} {f : Fault} :
    isMember t o a e = .error f ∧ f.degrades = false ↔
      LetsThrough t (Operator.isIn.readings a e) f := by
  unfold isMember asList Operator.readings
  cases e.collection? with
  | none => exact error_letsThrough_nil rfl
  | some options =>
    rw [ok_bind]
    cases t with
    | set =>
      refine iff_of_false ?_ not_letsThrough_set
      rintro ⟨hsets, hf⟩
      rcases bind_eq_error_iff.mp hsets with ha | ⟨members, -, hsets⟩
      · rw [degrades_of_coerceSet ha] at hf
        cases hf
      · rcases bind_eq_error_iff.mp hsets with he | ⟨texts, -, hsets⟩
        · rw [degrades_of_coerceTexts he] at hf
          cases hf
        · cases hsets
    | _ =>
      refine bind_coercion_eq_error_iff fun read => ?_
      cases ha : read a <;> cases hoptions : coerceAll read options <;>
        simp [coerceAll, ha, hoptions, bind, Except.bind]

/-- Two texts are read from left to right; their faults are the leaf's. -/
theorem degrades_of_compareTexts {β : Type} {v w : Value} {f : Fault} {g : String → String → β}
    (h : (do .ok (g (← coerceText v) (← coerceText w)) : Except Fault β) = .error f) :
    f.degrades = true := by
  rcases bind_eq_error_iff.mp h with hv | ⟨s, -, h⟩
  · exact degrades_of_coerceText hv
  · rcases bind_eq_error_iff.mp h with hw | ⟨s', -, h⟩
    · exact degrades_of_coerceText hw
    · cases h

theorem degrades_of_containsText {t : FieldType} {a e : Value} {f : Fault}
    (h : containsText t a e = .error f) : f.degrades = true := by
  unfold containsText at h
  cases t with
  | set =>
    rcases bind_eq_error_iff.mp h with he | ⟨s, -, h⟩
    · exact degrades_of_coerceText he
    · rcases bind_eq_error_iff.mp h with ha | ⟨items, -, h⟩
      · exact degrades_of_coerceSet ha
      · cases h
  | _ => exact degrades_of_compareTexts h

theorem regex_eq_error_iff {a e : Value} {f : Fault} {t : FieldType} :
    compareValues a .regex e t = .error f ∧ f.degrades = false ↔
      ∃ source err, coerceText e = .ok source ∧ Pattern.read source = .error err ∧
        err.flaw = .repetitionTooLarge ∧ f = .badPattern err := by
  constructor
  · rintro ⟨h, hf⟩
    rcases bind_eq_error_iff.mp h with he | ⟨source, hsource, h⟩
    · rw [degrades_of_coerceText he] at hf
      cases hf
    · rcases bind_eq_error_iff.mp h with hpattern | ⟨p, -, h⟩
      · obtain ⟨err, hread, hflaw, rfl⟩ := readPattern_eq_error_iff.mp ⟨hpattern, hf⟩
        exact ⟨source, err, hsource, hread, hflaw, rfl⟩
      · rcases bind_eq_error_iff.mp h with ha | ⟨s, -, h⟩
        · rw [degrades_of_coerceText ha] at hf
          cases hf
        · cases h
  · rintro ⟨source, err, hsource, hread, hflaw, hf⟩
    obtain ⟨hpattern, hdegrades⟩ := readPattern_eq_error_iff.mpr ⟨err, hread, hflaw, hf⟩
    exact ⟨bind_eq_error_iff.mpr (Or.inr ⟨source, hsource,
      bind_eq_error_iff.mpr (Or.inl hpattern)⟩), hdegrades⟩

/-- **A comparison lets exactly those faults through that it stumbles over.** -/
theorem compareValues_eq_error_iff {a e : Value} {o : Operator} {t : FieldType} {f : Fault} :
    compareValues a o e t = .error f ∧ f.degrades = false ↔ Stumbles t o a e f := by
  by_cases hregex : o = .regex
  · subst hregex
    rw [regex_eq_error_iff, Stumbles, ← letsThrough_iff]
    simp [Operator.readings, not_letsThrough_nil]
  · have hmild : ∀ {r : Except Fault Bool}, (∀ g, r = .error g → g.degrades = true) →
        (r = .error f ∧ f.degrades = false ↔ LetsThrough t [] f) := by
      intro r hr
      refine iff_of_false ?_ not_letsThrough_nil
      rintro ⟨h, hf⟩
      rw [hr f h] at hf
      cases hf
    rw [Stumbles, ← letsThrough_iff, or_iff_right (fun h => hregex h.1)]
    cases o with
    | equals => exact isEqual_eq_error_iff
    | notEquals =>
      rw [compareValues, map_eq_error_iff]
      exact isEqual_eq_error_iff
    | contains => exact hmild fun _ => degrades_of_containsText
    | notContains =>
      rw [compareValues, map_eq_error_iff]
      exact hmild fun _ => degrades_of_containsText
    | startsWith => exact hmild fun _ h => degrades_of_compareTexts h
    | endsWith => exact hmild fun _ h => degrades_of_compareTexts h
    | regex => exact absurd rfl hregex
    | greaterThan => exact inOrder_eq_error_iff
    | greaterOrEqual => exact inOrder_eq_error_iff
    | lessThan => exact inOrder_eq_error_iff
    | lessOrEqual => exact inOrder_eq_error_iff
    | between => exact isBetween_eq_error_iff
    | isIn => exact isMember_eq_error_iff
    | notIn =>
      rw [compareValues, map_eq_error_iff]
      exact isMember_eq_error_iff
    | isEmpty => exact error_letsThrough_nil rfl
    | isNotEmpty => exact error_letsThrough_nil rfl
    | exists_ => exact error_letsThrough_nil rfl
    | notExists => exact error_letsThrough_nil rfl

end DialPlan
