import DialPlan.Proofs.Number.Monotone
import DialPlan.Proofs.Rule.ListExpansion

/-!
# Comparisons of integers

A field of numbers is read in doubles, so a leaf compares the doubles nearest to the two integers.
Rounding keeps the order (`Binary64.unitsOf_mono`); all that can go wrong is that two integers share
a double, and then they pass for equal.  The leaves evaluate like the comparisons of integers
exactly where the integers are told apart (`Binary64.Apart`), as all integers up to `2 ^ 53` are.
-/

namespace DialPlan

/-- **What the operators on two values say of two integers.** -/
def Operator.onIntegers? : Operator → Option (Int → Int → Bool)
  | .equals => some fun a b => a = b
  | .notEquals => some fun a b => a ≠ b
  | .lessThan => some fun a b => a < b
  | .lessOrEqual => some fun a b => a ≤ b
  | .greaterThan => some fun a b => a > b
  | .greaterOrEqual => some fun a b => a ≥ b
  | _ => none

namespace Scalar

variable (x y : Binary64)

theorem same_number : (number x).same (number y) = x.same y := rfl

theorem lt_number : (number x).lt (number y) = x.lt y := rfl

theorem le_number : (number x).le (number y) = x.le y := rfl

end Scalar

namespace Condition

open Binary64

variable {v : Vocabulary} {n : NodeView} {name : String} {field : FieldSpec} {a b : Int}

/-- How the values of a field of numbers are read. -/
def readNumber (w : Value) : Except Fault Scalar := Scalar.number <$> coerceNumber w

theorem readNumber_int (ha : (ofInt a).isFinite = true) :
    readNumber (.int a) = .ok (.number (ofInt a)) := by
  rw [readNumber, coerceNumber, coerceNumber.numberOfInt, if_pos ha]
  rfl

/-- **A comparison of two values tests the reading of the attribute**; on two integers it compares
their counts. -/
theorem exists_test_of_onIntegers (hb : (ofInt b).isFinite = true) {o : Operator}
    {test : Int → Int → Bool} (ho : o.onIntegers? = some test) :
    ∃ t : Scalar → Bool, (∀ x, compareValues x o (.int b) .number = t <$> readNumber x) ∧
      ∀ a, (ofInt a).isFinite = true →
        t (.number (ofInt a)) = test (unitsOf a) (unitsOf b) := by
  have hread : FieldType.number.coercion? = some readNumber := rfl
  have hy := readNumber_int hb
  cases o with
  | equals =>
    cases ho
    refine ⟨_, isEqual_eq_map hread hy, fun a ha => ?_⟩
    rw [Scalar.same_number, same_ofInt ha hb]
  | notEquals =>
    cases ho
    refine ⟨fun x => !x.same (.number (ofInt b)), fun x => ?_, fun a ha => ?_⟩
    · rw [compareValues, isEqual_eq_map hread hy, Functor.map_map]
    · simp only [Scalar.same_number, same_ofInt ha hb, ne_eq, decide_not]
  | lessThan =>
    cases ho
    refine ⟨_, inOrder_eq_map hread hy, fun a ha => ?_⟩
    rw [Scalar.lt_number, lt_ofInt ha hb]
  | lessOrEqual =>
    cases ho
    refine ⟨_, inOrder_eq_map hread hy, fun a ha => ?_⟩
    rw [Scalar.le_number, le_ofInt ha hb]
  | greaterThan =>
    cases ho
    refine ⟨_, inOrder_eq_map hread hy, fun a ha => ?_⟩
    rw [Scalar.lt_number, lt_ofInt hb ha]
  | greaterOrEqual =>
    cases ho
    refine ⟨_, inOrder_eq_map hread hy, fun a ha => ?_⟩
    rw [Scalar.le_number, le_ofInt hb ha]
  | _ => cases ho

theorem applies_of_onIntegers {o : Operator} {test : Int → Int → Bool}
    (ho : o.onIntegers? = some test) :
    .number ∈ Vocabulary.stockTypes o ∧ Vocabulary.stockArity o ≠ .none := by
  cases o with
  | equals | notEquals | lessThan | lessOrEqual | greaterThan | greaterOrEqual => decide
  | _ => cases ho

/-- Integers that are told apart are compared like their counts. -/
theorem onIntegers_unitsOf (h : unitsOf a = unitsOf b ↔ a = b) {o : Operator}
    {test : Int → Int → Bool} (ho : o.onIntegers? = some test) :
    test (unitsOf a) (unitsOf b) = test a b := by
  have hlt : unitsOf a < unitsOf b ↔ a < b := unitsOf_lt_iff h
  cases o with
  | equals | notEquals | lessThan | lessOrEqual | greaterThan | greaterOrEqual =>
    cases ho
    simp only [decide_eq_decide]
    omega
  | _ => cases ho

/-- What shares a double with one of the integers is that one, or is not told apart from another. -/
theorem exists_shared_iff (ha : (ofInt a).isFinite = true) {bs : List Int}
    (hbs : ∀ b ∈ bs, (ofInt b).isFinite = true) :
    (∃ b ∈ bs, unitsOf a = unitsOf b) ↔ a ∈ bs ∨ ¬ ∀ b ∈ bs, Apart a b := by
  constructor
  · rintro ⟨b, hb, hunits⟩
    refine or_iff_not_imp_left.mpr fun hmem hall => hmem ?_
    rwa [((apart_iff ha (hbs b hb)).mp (hall b hb)).mp hunits]
  · rintro (hmem | hnot)
    · exact ⟨a, hmem, rfl⟩
    · push Not at hnot
      obtain ⟨b, hb, h⟩ := hnot
      exact ⟨b, hb, unitsOf_eq_of_not_apart ha (hbs b hb) h⟩

section Leaves

variable (hstock : v.operators = Vocabulary.stockOperators)
  (hfield : v.fields.get? name = some field) (hnumber : field.type = .number)
  (hactual : n.present? field.attributeName = some (.int a)) (ha : (ofInt a).isFinite = true)

include hstock hfield hnumber hactual ha

/-- A leaf that tests the reading of the attribute tests the double of the integer. -/
theorem evaluate_of_test {o : Operator} {w : Value} {test : Scalar → Bool}
    (ho : .number ∈ Vocabulary.stockTypes o) (harity : Vocabulary.stockArity o ≠ .none)
    (htest : ∀ x, compareValues x o w .number = test <$> readNumber x) :
    (leaf ⟨name, o.name, w⟩).evaluate v n = .ok (test (.number (ofInt a))) := by
  refine evaluate_leaf_of_stock hstock hfield (hnumber ▸ ho) harity hactual ?_
  rw [hnumber, htest, readNumber_int ha]
  rfl

/-- **Integers are compared by their counts.** -/
theorem evaluate_onIntegers (hb : (ofInt b).isFinite = true) {o : Operator}
    {test : Int → Int → Bool} (ho : o.onIntegers? = some test) :
    (leaf ⟨name, o.name, .int b⟩).evaluate v n = .ok (test (unitsOf a) (unitsOf b)) := by
  obtain ⟨t, htest, hcounts⟩ := exists_test_of_onIntegers hb ho
  obtain ⟨happlies, harity⟩ := applies_of_onIntegers ho
  rw [evaluate_of_test hstock hfield hnumber hactual ha happlies harity htest, hcounts a ha]

/-- Integers that share a double with the attribute are found among the options. -/
theorem evaluate_memberOfIntegers {w : Value} {bs : List Int}
    (hw : w.collection? = some (bs.map .int)) (hbs : ∀ b ∈ bs, (ofInt b).isFinite = true) :
    (leaf ⟨name, "in", w⟩).evaluate v n = .ok (bs.any fun b => unitsOf a = unitsOf b) ∧
      (leaf ⟨name, "not_in", w⟩).evaluate v n = .ok (!bs.any fun b => unitsOf a = unitsOf b) := by
  have hread : FieldType.number.coercion? = some readNumber := rfl
  have hys : coerceAll readNumber (bs.map .int) = .ok (bs.map fun b => .number (ofInt b)) :=
    coerceAll_eq_ok_iff.mpr (List.forall₂_map_left_iff.mpr (List.forall₂_map_right_iff.mpr
      (List.forall₂_same.mpr fun b hb => readNumber_int (hbs b hb))))
  have hany : (bs.map fun b => Scalar.number (ofInt b)).any (Scalar.number (ofInt a)).same =
      bs.any fun b => unitsOf a = unitsOf b := by
    rw [List.any_map, Bool.eq_iff_iff, List.any_eq_true, List.any_eq_true]
    refine exists_congr fun b => and_congr_right fun hb => ?_
    rw [Function.comp_apply, Scalar.same_number, same_ofInt ha (hbs b hb)]
  rw [← hany]
  have hin : ∀ x, compareValues x .isIn w .number =
      (fun y => (bs.map fun b => Scalar.number (ofInt b)).any y.same) <$> readNumber x :=
    isMember_eq_map hread hw hys
  have hnotIn : ∀ x, compareValues x .notIn w .number =
      (fun y => !(bs.map fun b => Scalar.number (ofInt b)).any y.same) <$> readNumber x := by
    intro x
    rw [compareValues, isMember_eq_map hread hw hys, Functor.map_map]
  refine ⟨evaluate_of_test hstock hfield hnumber hactual ha ?_ ?_ hin,
    evaluate_of_test hstock hfield hnumber hactual ha ?_ ?_ hnotIn⟩
  all_goals decide

/-- **Integers are compared as integers where doubles tell them apart.**  With the stock operators,
take a field of numbers and a node that has an integer there, not beyond the doubles.  The operators
on two values evaluate like the comparisons of integers for every integer that is told apart from
it, and for any other one as they do for an integer and itself.  `in` and `not_in` evaluate like
membership exactly where the attribute is among the options, or told apart from all of them.  Up to
`2 ^ 53` all integers are told apart. -/
theorem integer_leaves_exact :
    (∀ b : Int, (ofInt b).isFinite = true → ∀ (o : Operator) (test : Int → Int → Bool),
      o.onIntegers? = some test →
      (Apart a b → (leaf ⟨name, o.name, .int b⟩).evaluate v n = .ok (test a b)) ∧
      (¬ Apart a b → (leaf ⟨name, o.name, .int b⟩).evaluate v n = .ok (test b b))) ∧
    (∀ (w : Value) (bs : List Int), w.collection? = some (bs.map .int) →
      (∀ b ∈ bs, (ofInt b).isFinite = true) →
      ((leaf ⟨name, "in", w⟩).evaluate v n = .ok (decide (a ∈ bs)) ∧
        (leaf ⟨name, "not_in", w⟩).evaluate v n = .ok (decide (a ∉ bs)) ↔
          a ∈ bs ∨ ∀ b ∈ bs, Apart a b)) ∧
    ∀ b : Int, a.natAbs ≤ twoTo 53 → b.natAbs ≤ twoTo 53 → Apart a b := by
  refine ⟨fun b hb o test ho => ?_, fun w bs hw hbs => ?_, fun b => apart_of_small⟩
  case refine_1 =>
    rw [evaluate_onIntegers hstock hfield hnumber hactual ha hb ho]
    refine ⟨fun h => ?_, fun h => ?_⟩
    · rw [onIntegers_unitsOf ((apart_iff ha hb).mp h) ho]
    · rw [unitsOf_eq_of_not_apart ha hb h, onIntegers_unitsOf (by simp) ho]
  case refine_2 =>
    obtain ⟨hin, hnotIn⟩ := evaluate_memberOfIntegers hstock hfield hnumber hactual ha hw hbs
    -- an option that shares the double is a wrong answer only where no option is the integer itself
    have hexact : (bs.any fun b => unitsOf a = unitsOf b) = decide (a ∈ bs) ↔
        a ∈ bs ∨ ∀ b ∈ bs, Apart a b := by
      rw [Bool.eq_iff_iff, List.any_eq_true, decide_eq_true_eq]
      simp only [decide_eq_true_eq]
      rw [exists_shared_iff ha hbs]
      constructor
      · intro h
        exact or_iff_not_imp_right.mpr fun hnot => h.mp (Or.inr hnot)
      · rintro (hmem | hall)
        · exact ⟨fun _ => hmem, Or.inl⟩
        · exact ⟨fun h => h.resolve_right (not_not_intro hall), Or.inl⟩
    rw [hin, hnotIn, ← hexact, decide_not, Except.ok.injEq, Except.ok.injEq, Bool.not_inj_iff]
    exact and_self_iff

end Leaves

/-- Even integers past `2 ^ 53` are told apart, so one is below the next. -/
theorem integer_leaves_exact_past_doubles :
    let n := NodeView.mapping [(.str "id", .str "n"), (.str "speed", .int 9007199254740992)]
    (leaf ⟨"speed", "less_than", .int 9007199254740994⟩).evaluate .standard n = .ok true ∧
      (leaf ⟨"speed", "not_in", .list [.int 9007199254740994]⟩).evaluate .standard n =
        .ok true := by
  intro n
  have ha : (ofInt 9007199254740992).isFinite = true := by decide +kernel
  have hb : (ofInt 9007199254740994).isFinite = true := by decide +kernel
  have hapart : Apart 9007199254740992 9007199254740994 := by decide +kernel
  have hactual : n.present? "speed" = some (.int 9007199254740992) := rfl
  obtain ⟨hcompare, hlists, -⟩ := integer_leaves_exact
    (rfl : Vocabulary.standard.operators = Vocabulary.stockOperators)
    (rfl : Vocabulary.standard.fields.get? "speed" = some _) rfl hactual ha
  refine ⟨(hcompare 9007199254740994 hb .lessThan _ rfl).1 hapart, ?_⟩
  exact ((hlists (.list [.int 9007199254740994]) [9007199254740994] rfl (by simpa using hb)).mpr
    (Or.inr (by simpa using hapart))).2

/-- `2 ^ 53` and the next integer share a double, and are equal for the leaf. -/
theorem integer_leaves_not_always_exact :
    ¬ ∀ (v : Vocabulary) (n : NodeView) (name : String) (field : FieldSpec) (a b : Int),
      v.operators = Vocabulary.stockOperators → v.fields.get? name = some field →
      field.type = .number → n.present? field.attributeName = some (.int a) →
      (ofInt a).isFinite = true → (ofInt b).isFinite = true →
      (leaf ⟨name, "equals", .int b⟩).evaluate v n = .ok (decide (a = b)) := by
  intro h
  let n := NodeView.mapping [(.str "id", .str "n"), (.str "speed", .int 9007199254740992)]
  have ha : (ofInt 9007199254740992).isFinite = true := by decide +kernel
  have hb : (ofInt 9007199254740993).isFinite = true := by decide +kernel
  have hshared : unitsOf 9007199254740992 = unitsOf 9007199254740993 := by decide +kernel
  have hclaimed := h .standard n "speed" _ 9007199254740992 9007199254740993 rfl rfl rfl rfl ha hb
  have hactual : n.present? "speed" = some (.int 9007199254740992) := rfl
  have hstock : Vocabulary.standard.operators = Vocabulary.stockOperators := rfl
  have hleaf := evaluate_onIntegers hstock
    (rfl : Vocabulary.standard.fields.get? "speed" = some _) rfl hactual ha hb
    (rfl : Operator.equals.onIntegers? = some _)
  rw [hshared] at hleaf
  exact absurd (hleaf.symm.trans hclaimed) (by simp)

end Condition

end DialPlan
