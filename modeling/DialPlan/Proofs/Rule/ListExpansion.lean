import DialPlan.Proofs.Condition.Complement
import Mathlib.Data.List.Forall2

/-!
# List operators and their expansions

`in` reads all of its options before it compares, and `between` both of its ends; their expansions
into single comparisons read one value at a time, stop at the first answer, and deal with a missing
attribute and with a value that cannot be read once in every leaf.  For an accepted leaf over a
field of a scalar type the two come to the same, down to the fault they break off with.

The reason is that what the rule gives can be read beforehand, so every leaf is a test on one and
the same reading of the attribute (`IsTest`), and a group of such tests is again one.  A group needs
a child for that: an empty *and* would hold also where there is nothing to test.
-/

namespace DialPlan

/-- **What a leaf has to go by**: the reading of the attribute.  There is none where the attribute
is absent, or cannot be read and the fault is the leaf's to deal with. -/
def readingOf (read : Value → Except Fault Scalar) (actual : Option Value) :
    Except Fault (Option Scalar) :=
  match actual with
  | none => .ok none
  | some a =>
    match read a with
    | .ok x => .ok (some x)
    | .error f => if f.degrades then .ok none else .error f

namespace Condition

variable {v : Vocabulary} {n : NodeView} {reading : Except Fault (Option Scalar)}

/-- **A condition that amounts to a test on a reading**; without one it does not hold. -/
def IsTest (v : Vocabulary) (n : NodeView) (reading : Except Fault (Option Scalar))
    (c : Condition) (test : Scalar → Bool) : Prop :=
  c.evaluate v n = Option.any test <$> reading

/-- A leaf whose comparison is a test on the reading of the attribute is one. -/
theorem isTest_leaf {p : Predicate} {field : FieldSpec} {o : Operator}
    {read : Value → Except Fault Scalar} {test : Scalar → Bool}
    (hfind : v.find p = .ok (field, o)) (harity : Vocabulary.stockArity o ≠ .none)
    (hprint : p.value.printable = true)
    (htest : ∀ a, compareValues a o p.value field.type = test <$> read a) :
    IsTest v n (readingOf read (n.present? field.attributeName)) (leaf p) test := by
  rw [IsTest, evaluate, Predicate.judge, hfind]
  dsimp only
  cases n.present? field.attributeName with
  | none =>
    rw [judge_of_absent harity]
    rfl
  | some a =>
    have hquote : p.value.requirePrintable = .ok () :=
      Value.requirePrintable_eq_ok_iff.mpr hprint
    rw [judge_of_arity harity, htest, readingOf]
    cases read a with
    | ok x => rfl
    | error f => cases hf : f.degrades <;> simp [Functor.map, Except.map, bind, Except.bind, hf,
        hquote, Verdict.degrade]

/-- With the stock operators, a leaf on a node that has the attribute is its comparison. -/
theorem evaluate_leaf_of_stock (hstock : v.operators = Vocabulary.stockOperators) {name : String}
    {field : FieldSpec} (hfield : v.fields.get? name = some field) {o : Operator}
    (ho : field.type ∈ Vocabulary.stockTypes o) (harity : Vocabulary.stockArity o ≠ .none)
    {a w : Value} {b : Bool} (hactual : n.present? field.attributeName = some a)
    (h : compareValues a o w field.type = .ok b) :
    (leaf ⟨name, o.name, w⟩).evaluate v n = .ok b := by
  have hfind := Vocabulary.find_of_applies (Vocabulary.namesOperators_of_stock hstock) hfield
    (Vocabulary.applies_of_stock hstock ho) w
  rw [evaluate, Predicate.judge, hfind]
  dsimp only
  rw [hactual, judge_of_arity harity, h]
  rfl

/-- Conditions that amount to tests of the same outcome are evaluated alike. -/
theorem IsTest.evaluate_congr {c d : Condition} {test test' : Scalar → Bool}
    (hc : IsTest v n reading c test) (hd : IsTest v n reading d test')
    (h : ∀ x, test x = test' x) : c.evaluate v n = d.evaluate v n := by
  rw [hc, hd, funext h]

section Groups

variable {cs : List Condition} {tests : List (Scalar → Bool)}

theorem evaluateAny_of_ok {found : Option Scalar}
    (h : List.Forall₂ (IsTest v n (.ok found)) cs tests) :
    evaluateAny v n cs = .ok (found.any fun x => tests.any (· x)) := by
  induction h with
  | nil =>
    rw [evaluateAny]
    cases found <;> rfl
  | @cons c test cs tests hc _ ih =>
    have hc : c.evaluate v n = .ok (found.any test) := hc
    rw [evaluateAny, hc, ok_bind, ih]
    cases found with
    | none => rfl
    | some x => cases hx : test x <;> simp [hx]

theorem evaluateAll_of_ok {x : Scalar} (h : List.Forall₂ (IsTest v n (.ok (some x))) cs tests) :
    evaluateAll v n cs = .ok (tests.all (· x)) := by
  induction h with
  | nil => rw [evaluateAll]; rfl
  | @cons c test cs tests hc _ ih =>
    have hc : c.evaluate v n = .ok (test x) := hc
    rw [evaluateAll, hc, ok_bind, ih]
    cases hx : test x <;> simp [hx]

/-- **An *or* of tests is the test for one of them.** -/
theorem isTest_any (h : List.Forall₂ (IsTest v n reading) cs tests) (hne : cs ≠ []) :
    IsTest v n reading (group .any cs) fun x => tests.any (· x) := by
  rw [IsTest, evaluate]
  cases reading with
  | ok found => exact evaluateAny_of_ok h
  | error f =>
    -- the first child breaks off
    cases h with
    | nil => exact absurd rfl hne
    | @cons c test cs tests hc _ =>
      have hc : c.evaluate v n = .error f := hc
      rw [evaluateAny, hc]
      rfl

/-- **An *and* of tests is the test for all of them.** -/
theorem isTest_all (h : List.Forall₂ (IsTest v n reading) cs tests) (hne : cs ≠ []) :
    IsTest v n reading (group .all cs) fun x => tests.all (· x) := by
  rw [IsTest, evaluate]
  cases reading with
  | ok found =>
    cases found with
    | some x => exact evaluateAll_of_ok h
    | none =>
      -- the first child does not hold, and settles it
      cases h with
      | nil => exact absurd rfl hne
      | @cons c test cs tests hc _ =>
        have hc : c.evaluate v n = .ok false := hc
        rw [evaluateAll, hc]
        rfl
  | error f =>
    cases h with
    | nil => exact absurd rfl hne
    | @cons c test cs tests hc _ =>
      have hc : c.evaluate v n = .error f := hc
      rw [evaluateAll, hc]
      rfl

end Groups

end Condition

/-! ## Single comparisons -/

/-- Values are read one after the other, each to its own reading. -/
theorem coerceAll_eq_ok_iff {read : Value → Except Fault Scalar} {ws : List Value}
    {ys : List Scalar} :
    coerceAll read ws = .ok ys ↔ List.Forall₂ (fun w y => read w = .ok y) ws ys := by
  induction ws generalizing ys with
  | nil => cases ys <;> simp [coerceAll]
  | cons w ws ih =>
    rw [coerceAll]
    simp only [bind_eq_ok_iff, Except.ok.injEq, ih, List.forall₂_cons_left_iff]
    constructor
    · rintro ⟨y, hy, rest, hrest, rfl⟩
      exact ⟨y, rest, hy, hrest, rfl⟩
    · rintro ⟨y, rest, hy, hrest, rfl⟩
      exact ⟨y, hy, rest, hrest, rfl⟩

/-- What can be read in a scalar type can be put into words. -/
theorem printable_of_read {t : FieldType} {read : Value → Except Fault Scalar}
    (hread : t.coercion? = some read) {w : Value} {y : Scalar} (hy : read w = .ok y) :
    w.printable = true := by
  cases t with
  | set => cases hread
  | string | enum =>
    cases hread
    obtain ⟨s, hs, -⟩ := map_eq_ok_iff.mp hy
    exact printable_of_coerceText hs
  | number =>
    cases hread
    obtain ⟨x, hx, -⟩ := map_eq_ok_iff.mp hy
    exact printable_of_coerceNumber hx
  | duration =>
    cases hread
    obtain ⟨x, hx, -⟩ := map_eq_ok_iff.mp hy
    exact printable_of_parseDuration hx

/-- A value that can be read in a scalar type is no list. -/
theorem of_eq_of_read {t : FieldType} {read : Value → Except Fault Scalar}
    (hread : t.coercion? = some read) {w : Value} {y : Scalar} (hy : read w = .ok y)
    (name operator : String) : Predicate.of name operator w = ⟨name, operator, w⟩ := by
  cases w with
  | list items => cases t <;> cases hread <;> cases hy
  | _ => rfl

section Leaves

variable {v : Vocabulary} {n : NodeView} {field : FieldSpec} {read : Value → Except Fault Scalar}

/-- **A comparison with a value that can be read** is a test on the reading of the attribute. -/
theorem isTest_compare (hstock : v.operators = Vocabulary.stockOperators) {name : String}
    (hfield : v.fields.get? name = some field) (hread : field.type.coercion? = some read)
    {o : Operator} (ho : field.type ∈ Vocabulary.stockTypes o)
    (harity : Vocabulary.stockArity o ≠ .none) {w : Value} {y : Scalar} (hy : read w = .ok y)
    {test : Scalar → Bool} (htest : ∀ a, compareValues a o w field.type = test <$> read a) :
    Condition.IsTest v n (readingOf read (n.present? field.attributeName))
      (.compare name o.name w) test := by
  have hfind := Vocabulary.find_of_applies (Vocabulary.namesOperators_of_stock hstock) hfield
    (Vocabulary.applies_of_stock hstock ho) w
  rw [Condition.compare, of_eq_of_read hread hy]
  exact Condition.isTest_leaf hfind harity (printable_of_read hread hy) htest

theorem mem_stockTypes_of_all {o : Operator} (ho : Vocabulary.stockTypes o = FieldType.all)
    (t : FieldType) : t ∈ Vocabulary.stockTypes o := by
  rw [ho]
  cases t <;> decide

theorem isTest_equals (hstock : v.operators = Vocabulary.stockOperators) {name : String}
    (hfield : v.fields.get? name = some field) (hread : field.type.coercion? = some read)
    {w : Value} {y : Scalar} (hy : read w = .ok y) :
    Condition.IsTest v n (readingOf read (n.present? field.attributeName))
      (.compare name "equals" w) fun x => x.same y :=
  isTest_compare (o := .equals) hstock hfield hread (mem_stockTypes_of_all rfl _) (by decide) hy
    (isEqual_eq_map hread hy)

theorem isTest_notEquals (hstock : v.operators = Vocabulary.stockOperators) {name : String}
    (hfield : v.fields.get? name = some field) (hread : field.type.coercion? = some read)
    {w : Value} {y : Scalar} (hy : read w = .ok y) :
    Condition.IsTest v n (readingOf read (n.present? field.attributeName))
      (.compare name "not_equals" w) fun x => !x.same y := by
  refine isTest_compare (o := .notEquals) hstock hfield hread (mem_stockTypes_of_all rfl _)
    (by decide) hy fun a => ?_
  rw [compareValues, isEqual_eq_map hread hy, Functor.map_map]

/-! ## Accepted leaves -/

variable {p : Predicate}

/-- The options of an accepted list operator: there are some, and each can be read. -/
theorem AcceptedLeaf.options {o : Operator} (h : AcceptedLeaf v p field o)
    (harity : Vocabulary.stockArity o = .list) (hread : field.type.coercion? = some read) :
    ∃ options ys, p.value.collection? = some options ∧ options ≠ [] ∧
      coerceAll read options = .ok ys := by
  obtain ⟨options, hoptions, hne, hgood⟩ := h.list harity
  obtain ⟨ys, hys⟩ := exists_coerceAll_iff.mpr fun w hw =>
    exists_read_of_checkItem hread (hgood w hw)
  exact ⟨options, ys, hoptions, hne, hys⟩

/-- Comparisons with values that are read one after the other are tests, one for each. -/
theorem forall₂_isTest {reading : Except Fault (Option Scalar)} {options : List Value}
    {ys : List Scalar} (hys : coerceAll read options = .ok ys) {compare : Value → Condition}
    {test : Scalar → Scalar → Bool}
    (h : ∀ w y, read w = .ok y → Condition.IsTest v n reading (compare w) (test y)) :
    List.Forall₂ (Condition.IsTest v n reading) (options.map compare) (ys.map test) :=
  List.forall₂_map_left_iff.mpr
    (List.forall₂_map_right_iff.mpr ((coerceAll_eq_ok_iff.mp hys).imp h))

theorem AcceptedLeaf.evaluate_isIn (h : AcceptedLeaf v p field .isIn)
    (hstock : v.operators = Vocabulary.stockOperators)
    (hfield : v.fields.get? p.field = some field) (hread : field.type.coercion? = some read) :
    ∃ options, p.value.collection? = some options ∧ (Condition.leaf p).evaluate v n =
      (Condition.group .any (options.map (.compare p.field "equals"))).evaluate v n := by
  obtain ⟨options, ys, hoptions, hne, hys⟩ := h.options rfl hread
  have hleaf := Condition.isTest_leaf (n := n) h.find (by decide) (h.printable hread (by decide))
    (isMember_eq_map hread hoptions hys)
  have hgroup := Condition.isTest_any
    (forall₂_isTest hys fun _ _ => isTest_equals (n := n) hstock hfield hread) (by simpa using hne)
  refine ⟨options, hoptions, hleaf.evaluate_congr hgroup fun x => ?_⟩
  rw [List.any_map]
  rfl

theorem AcceptedLeaf.evaluate_notIn (h : AcceptedLeaf v p field .notIn)
    (hstock : v.operators = Vocabulary.stockOperators)
    (hfield : v.fields.get? p.field = some field) (hread : field.type.coercion? = some read) :
    ∃ options, p.value.collection? = some options ∧ (Condition.leaf p).evaluate v n =
      (Condition.group .all (options.map (.compare p.field "not_equals"))).evaluate v n := by
  obtain ⟨options, ys, hoptions, hne, hys⟩ := h.options rfl hread
  have hcompare : ∀ a, compareValues a .notIn p.value field.type =
      (fun x => !ys.any x.same) <$> read a := by
    intro a
    rw [compareValues, isMember_eq_map hread hoptions hys, Functor.map_map]
  have hleaf := Condition.isTest_leaf (n := n) h.find (by decide) (h.printable hread (by decide))
    hcompare
  have hgroup := Condition.isTest_all
    (forall₂_isTest hys fun _ _ => isTest_notEquals (n := n) hstock hfield hread)
    (by simpa using hne)
  refine ⟨options, hoptions, hleaf.evaluate_congr hgroup fun x => ?_⟩
  rw [List.all_map, List.not_any_eq_all_not]
  rfl

theorem AcceptedLeaf.evaluate_between (h : AcceptedLeaf v p field .between)
    (hstock : v.operators = Vocabulary.stockOperators)
    (hfield : v.fields.get? p.field = some field) (hread : field.type.coercion? = some read) :
    ∃ low high, p.value.collection? = some [low, high] ∧ (Condition.leaf p).evaluate v n =
      (Condition.group .all [.compare p.field "greater_or_equal" low,
        .compare p.field "less_or_equal" high]).evaluate v n := by
  obtain ⟨low, high, hboth, hlow, hhigh⟩ := h.pair
  obtain ⟨x, hx⟩ := exists_read_of_checkItem hread hlow
  obtain ⟨y, hy⟩ := exists_read_of_checkItem hread hhigh
  have hleaf := Condition.isTest_leaf (n := n) h.find (by decide) (h.printable hread (by decide))
    (isBetween_eq_map hread hboth hx hy)
  -- the operators of the two ends apply to the same types as `between`
  have hatLeast := isTest_compare (n := n) (o := .greaterOrEqual) hstock hfield hread h.applies
    (by decide) hx (inOrder_eq_map hread hx)
  have hatMost := isTest_compare (n := n) (o := .lessOrEqual) hstock hfield hread h.applies
    (by decide) hy (inOrder_eq_map hread hy)
  have hgroup := Condition.isTest_all (.cons hatLeast (.cons hatMost .nil)) (by simp)
  refine ⟨low, high, hboth, hleaf.evaluate_congr hgroup fun z => ?_⟩
  rw [List.all_cons, List.all_cons, List.all_nil, Bool.and_true]

end Leaves

/-- **List operators and intervals are what they expand to.**  With the stock operators, take a leaf
over a field of a scalar type that passes its check.  On every node `in` is evaluated like the *or*
of `equals` with each of its options, `not_in` like the *and* of `not_equals` with each of them, and
`between` like the *and* of `greater_or_equal` and `less_or_equal` with its two ends: the outcome is
the same where the attribute is missing or cannot be read, and so is the fault where one gets out.
Readings are compared as values; one that is not a number is the same as no other, and not as
itself. -/
theorem accepted_list_leaf_expands {v : Vocabulary} {p : Predicate} {field : FieldSpec}
    (hstock : v.operators = Vocabulary.stockOperators) (haccepted : v.checkLeaf p = .ok none)
    (hfield : v.fields.get? p.field = some field) (hscalar : field.type ≠ .set) (n : NodeView) :
    (p.operator = "in" → ∃ options, p.value.collection? = some options ∧
      (Condition.leaf p).evaluate v n =
        (Condition.group .any (options.map (.compare p.field "equals"))).evaluate v n) ∧
    (p.operator = "not_in" → ∃ options, p.value.collection? = some options ∧
      (Condition.leaf p).evaluate v n =
        (Condition.group .all (options.map (.compare p.field "not_equals"))).evaluate v n) ∧
    (p.operator = "between" → ∃ low high, p.value.collection? = some [low, high] ∧
      (Condition.leaf p).evaluate v n =
        (Condition.group .all [.compare p.field "greater_or_equal" low,
          .compare p.field "less_or_equal" high]).evaluate v n) := by
  obtain ⟨read, hread⟩ : ∃ read, field.type.coercion? = some read := by
    cases htype : field.type with
    | set => exact absurd htype hscalar
    | _ => exact ⟨_, rfl⟩
  obtain ⟨o, hname, h⟩ := accepted_of_checkLeaf hstock hfield haccepted
  have hnamed : ∀ named : Operator, p.operator = named.name → AcceptedLeaf v p field named :=
    fun _ hop => Operator.name_injective (hname.symm.trans hop) ▸ h
  exact ⟨fun hop => (hnamed .isIn hop).evaluate_isIn hstock hfield hread,
    fun hop => (hnamed .notIn hop).evaluate_notIn hstock hfield hread,
    fun hop => (hnamed .between hop).evaluate_between hstock hfield hread⟩

/-- A country that cannot be read as text is neither among the options nor different from them. -/
theorem accepted_list_leaf_expands_unreadable :
    let p : Predicate := ⟨"link_country", "not_in", .tuple [.str "HK", .str "US"]⟩
    let n := NodeView.mapping [(.str "id", .str "n"), (.str "link_country", .list [.str "HK"])]
    Vocabulary.standard.checkLeaf p = .ok none ∧
      (Condition.leaf p).evaluate .standard n = .ok false ∧
        (Condition.group .all [.compare "link_country" "not_equals" (.str "HK"),
          .compare "link_country" "not_equals" (.str "US")]).evaluate .standard n = .ok false := by
  intro p n
  have haccepted : Vocabulary.standard.checkLeaf p = .ok none := rfl
  obtain ⟨options, hoptions, hsame⟩ := (accepted_list_leaf_expands
    (rfl : Vocabulary.standard.operators = Vocabulary.stockOperators) haccepted
    (rfl : Vocabulary.standard.fields.get? p.field = some _) nofun n).2.1 rfl
  cases hoptions
  have hleaf : (Condition.leaf p).evaluate .standard n = .ok false := rfl
  exact ⟨haccepted, hleaf, hsame.symm.trans hleaf⟩

end DialPlan
