import DialPlan.Proofs.Rule.Acceptance

/-!
# Negative operators

`not_equals` is not the negation of `equals`: on a node without the attribute neither holds, and
neither does where a side of the comparison cannot be read.  The negation is taken of an answer,
after both sides have been read, so a rule that cannot be used does not come to match everything.

`opposed_judge` says which four things can become of two opposite leaves on a node.  Operators that
ask for presence have an answer on every node, and their negations are plain negations.
-/

namespace DialPlan

/-- **The operators that compare and have a negation**, with it. -/
def Operator.comparisonPairs : List (Operator × Operator) :=
  [(.equals, .notEquals), (.contains, .notContains), (.isIn, .notIn)]

/-- **The operators that ask for presence**, with their negations. -/
def Operator.presencePairs : List (Operator × Operator) :=
  [(.exists_, .notExists), (.isEmpty, .isNotEmpty)]

namespace Vocabulary

/-- An operator that a vocabulary has, and that applies to the type of a field. -/
def Applies (v : Vocabulary) (o : Operator) (field : FieldSpec) : Prop :=
  ∃ spec, v.operators.get? o.name = some spec ∧ spec.appliesTo field.type = true

theorem namesOperators_of_stock {v : Vocabulary} (hstock : v.operators = stockOperators) :
    v.NamesOperators := by
  intro name spec hspec
  rw [hstock] at hspec
  exact name_of_stockOperators hspec

/-- A stock operator applies to the types it is made for. -/
theorem applies_of_stock {v : Vocabulary} (hstock : v.operators = stockOperators) {o : Operator}
    {field : FieldSpec} (ho : field.type ∈ stockTypes o) : v.Applies o field := by
  refine ⟨stockOperator o, ?_, ?_⟩
  · rw [hstock]
    cases o <;> rfl
  · simpa [OperatorSpec.appliesTo, stockOperator] using ho

/-- An operator that applies is the one that is found under its name. -/
theorem find_of_applies {v : Vocabulary} (hnames : v.NamesOperators) {name : String}
    {field : FieldSpec} (hfield : v.fields.get? name = some field) {o : Operator}
    (ho : v.Applies o field) (e : Value) : v.find ⟨name, o.name, e⟩ = .ok (field, o) := by
  obtain ⟨spec, hspec, happlies⟩ := ho
  have hname : Operator.ofName? spec.name = some o := by
    rw [hnames o.name spec hspec, Operator.ofName?_name]
  exact find_of_spec hfield hspec hname happlies

end Vocabulary

/-! ## Comparisons -/

section Comparisons

variable {t : FieldType} {o o' : Operator} {a e : Value}

/-- A comparison is read in the type of the field, whichever operator asks. -/
theorem isEqual_operator : isEqual t o a e = isEqual t o' a e := by
  cases t <;> rfl

theorem isMember_operator : isMember t o a e = isMember t o' a e := by
  cases t <;> rfl

/-- **The negation of a comparison negates its answer**, and only that. -/
theorem compareValues_negation (h : (o, o') ∈ Operator.comparisonPairs) :
    compareValues a o' e t = (!·) <$> compareValues a o e t := by
  simp only [Operator.comparisonPairs, List.mem_cons, Prod.mk.injEq, List.not_mem_nil,
    or_false] at h
  rcases h with ⟨rfl, rfl⟩ | ⟨rfl, rfl⟩ | ⟨rfl, rfl⟩
  · rw [compareValues, compareValues, isEqual_operator]
  · rfl
  · rw [compareValues, compareValues, isMember_operator]

theorem stockArity_of_comparisonPair (h : (o, o') ∈ Operator.comparisonPairs) :
    Vocabulary.stockArity o ≠ .none ∧ Vocabulary.stockArity o' ≠ .none := by
  simp only [Operator.comparisonPairs, List.mem_cons, Prod.mk.injEq, List.not_mem_nil,
    or_false] at h
  rcases h with ⟨rfl, rfl⟩ | ⟨rfl, rfl⟩ | ⟨rfl, rfl⟩ <;> exact ⟨nofun, nofun⟩

end Comparisons

/-! ## Leaves -/

/-- **What becomes of two opposite leaves** on an attribute: it is not there; both break off, or
both degrade, over the same fault; or their answers are each other's negation. -/
inductive Opposed (p q : Predicate) :
    Option Value → Except Fault Verdict → Except Fault Verdict → Prop
  | absent : Opposed p q none (.ok ⟨false, none⟩) (.ok ⟨false, none⟩)
  | breaksOff {a : Value} (f : Fault) : Opposed p q (some a) (.error f) (.error f)
  | degrades {a : Value} (f : Fault) :
    Opposed p q (some a) (.ok (.degrade (.unusable p f))) (.ok (.degrade (.unusable q f)))
  | answers {a : Value} (b : Bool) : Opposed p q (some a) (.ok ⟨b, none⟩) (.ok ⟨!b, none⟩)

theorem opposed_judge {p q : Predicate} {o o' : Operator} (hvalue : q.value = p.value)
    (h : (o, o') ∈ Operator.comparisonPairs) (t : FieldType) (actual : Option Value) :
    Opposed p q actual (judge p t o actual) (judge q t o' actual) := by
  obtain ⟨harity, harity'⟩ := stockArity_of_comparisonPair h
  cases actual with
  | none =>
    rw [judge_of_absent harity, judge_of_absent harity']
    exact .absent
  | some a =>
    rw [Condition.judge_of_arity harity, Condition.judge_of_arity harity', hvalue,
      compareValues_negation h]
    cases compareValues a o p.value t with
    | ok b => exact .answers b
    | error f =>
      cases hf : f.degrades with
      | true =>
        -- both quote the same value
        cases hquoted : p.value.requirePrintable with
        | ok u =>
          simpa [Functor.map, Except.map, bind, Except.bind, hf, hquoted] using .degrades f
        | error g =>
          simpa [Functor.map, Except.map, bind, Except.bind, hf, hquoted] using .breaksOff g
      | false => simpa [Functor.map, Except.map, hf] using .breaksOff f

/-- A leaf that asks for presence answers, and its negation answers the opposite. -/
theorem judge_of_presencePair {p q : Predicate} {o o' : Operator}
    (h : (o, o') ∈ Operator.presencePairs) (t : FieldType) (actual : Option Value) :
    ∃ b, judge p t o actual = .ok ⟨b, none⟩ ∧ judge q t o' actual = .ok ⟨!b, none⟩ := by
  simp only [Operator.presencePairs, List.mem_cons, Prod.mk.injEq, List.not_mem_nil,
    or_false] at h
  rcases h with ⟨rfl, rfl⟩ | ⟨rfl, rfl⟩
  · refine ⟨actual.isSome, rfl, ?_⟩
    cases actual <;> rfl
  · exact ⟨_, rfl, rfl⟩

/-- **What opposite leaves have in common**, and how they differ. -/
theorem Opposed.complement {p q : Predicate} {actual : Option Value} {x y : Except Fault Verdict}
    (h : Opposed p q actual x y) :
    (∀ f, x = .error f ↔ y = .error f) ∧
      ∀ r s, x = .ok r → y = .ok s →
        ¬ (r.holds = true ∧ s.holds = true) ∧
        (r.holds = false ∧ s.holds = false ↔ actual = none ∨ ∃ why, r.degraded = some why) ∧
        ((∃ why, r.degraded = some why) ↔ ∃ why, s.degraded = some why) ∧
        (actual ≠ none → r.degraded = none → s.holds = !r.holds) := by
  cases h with
  | absent =>
    refine ⟨by simp, ?_⟩
    rintro r s ⟨⟩ ⟨⟩
    simp
  | breaksOff f =>
    refine ⟨fun g => Iff.rfl, ?_⟩
    rintro r s ⟨⟩
  | degrades f =>
    refine ⟨by simp, ?_⟩
    rintro r s ⟨⟩ ⟨⟩
    simp [Verdict.degrade]
  | answers b =>
    refine ⟨by simp, ?_⟩
    rintro r s ⟨⟩ ⟨⟩
    cases b <;> simp

/-- **Negative operators are complements, where there is something to compare.**  Let a vocabulary
whose operators go by their own names have an operator and its negation, both applying to the type
of a field, and take the two leaves with any one value.

For operators that compare, the two leaves break off on the same nodes, over the same fault.  On all
other nodes they never both hold; neither holds exactly where the attribute is absent or null or the
leaf degrades; they degrade on the same nodes; and wherever else exactly one of them holds.  For
operators that ask for presence exactly one of them holds on every node, and neither degrades. -/
theorem negation_complements {v : Vocabulary} (hnames : v.NamesOperators) {name : String}
    {field : FieldSpec} (hfield : v.fields.get? name = some field) {o o' : Operator}
    (ho : v.Applies o field) (ho' : v.Applies o' field) (e : Value) (n : NodeView) :
    let p : Predicate := ⟨name, o.name, e⟩
    let q : Predicate := ⟨name, o'.name, e⟩
    ((o, o') ∈ Operator.comparisonPairs →
      (∀ f, p.judge v n = .error f ↔ q.judge v n = .error f) ∧
      ∀ r s, p.judge v n = .ok r → q.judge v n = .ok s →
        ¬ (r.holds = true ∧ s.holds = true) ∧
        (r.holds = false ∧ s.holds = false ↔
          n.present? field.attributeName = none ∨ ∃ why, r.degraded = some why) ∧
        ((∃ why, r.degraded = some why) ↔ ∃ why, s.degraded = some why) ∧
        (n.present? field.attributeName ≠ none → r.degraded = none → s.holds = !r.holds)) ∧
    ((o, o') ∈ Operator.presencePairs →
      ∃ b, p.judge v n = .ok ⟨b, none⟩ ∧ q.judge v n = .ok ⟨!b, none⟩) := by
  intro p q
  have hp : p.judge v n = judge p field.type o (n.present? field.attributeName) := by
    rw [Predicate.judge, Vocabulary.find_of_applies hnames hfield ho]
  have hq : q.judge v n = judge q field.type o' (n.present? field.attributeName) := by
    rw [Predicate.judge, Vocabulary.find_of_applies hnames hfield ho']
  rw [hp, hq]
  constructor
  · intro hpair
    have hvalue : q.value = p.value := rfl
    exact (opposed_judge hvalue hpair field.type _).complement
  · intro hpair
    exact judge_of_presencePair hpair field.type (n.present? field.attributeName)

/-- A list is no text that tags could contain, so both leaves degrade and neither holds; and of the
two leaves that ask whether there are tags, one holds. -/
theorem negation_complements_tags :
    let list := Value.list [.str "hk"]
    let p : Predicate := ⟨"tags", "contains", list⟩
    let q : Predicate := ⟨"tags", "not_contains", list⟩
    let n := NodeView.mapping [(.str "id", .str "n"), (.str "tags", .str "hk,fast")]
    (∃ r s, p.judge .standard n = .ok r ∧ q.judge .standard n = .ok s ∧ r.holds = false ∧
      s.holds = false ∧ ∃ why, s.degraded = some why) ∧
    ∃ b, Predicate.judge .standard ⟨"tags", "is_empty", .null⟩ n = .ok ⟨b, none⟩ ∧
      Predicate.judge .standard ⟨"tags", "is_not_empty", .null⟩ n = .ok ⟨!b, none⟩ := by
  intro list p q n
  have hstock : Vocabulary.standard.operators = Vocabulary.stockOperators := rfl
  have hnames := Vocabulary.namesOperators_of_stock hstock
  have happlies : ∀ o : Operator, FieldType.set ∈ Vocabulary.stockTypes o →
      Vocabulary.standard.Applies o ⟨"tags", .set, "标签", none, []⟩ :=
    fun _ ho => Vocabulary.applies_of_stock hstock ho
  have htags : Vocabulary.standard.fields.get? "tags" = some ⟨"tags", .set, "标签", none, []⟩ := rfl
  refine ⟨⟨_, _, rfl, rfl, ?_⟩, ?_⟩
  · have hboth := (negation_complements hnames htags (happlies .contains (by decide))
      (happlies .notContains (by decide)) list n).1 (by decide)
    obtain ⟨-, hneither, hdegrade, -⟩ := hboth.2 _ _ rfl rfl
    obtain ⟨hr, hs⟩ := hneither.mpr (Or.inr ⟨_, rfl⟩)
    exact ⟨hr, hs, hdegrade.mp ⟨_, rfl⟩⟩
  · exact (negation_complements hnames htags (happlies .isEmpty (by decide))
      (happlies .isNotEmpty (by decide)) .null n).2 (by decide)

end DialPlan
