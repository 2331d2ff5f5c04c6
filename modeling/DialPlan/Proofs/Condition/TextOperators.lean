import DialPlan.Proofs.Rule.ListExpansion
import DialPlan.Proofs.Text.Lower

/-!
# Text operators and the literal case

Operators on texts compare small forms, so that case does not matter.  The small form of a part is
not always the part of the small form: a capital sigma at an end of the part may take the other form
in the whole (`Text.isDisturbed`).  A literal start or end is found exactly where that does not
happen, and so is a literal occurrence; nothing else gets in the way
(`Condition.literal_text_found`).
-/

namespace DialPlan

theorem occursIn_iff {needle cs : List Char} : occursIn needle cs = true ↔ needle <:+: cs := by
  induction cs with
  | nil => rw [occursIn, List.isEmpty_iff, List.infix_nil]
  | cons c cs ih =>
    rw [occursIn, Bool.or_eq_true, List.isPrefixOf_iff_prefix, ih, List.infix_cons_iff]

/-- **What the operators on texts compare**: the small forms of the rule's text and the node's. -/
def Operator.onTexts? : Operator → Option (List Char → List Char → Bool)
  | .contains => some occursIn
  | .notContains => some fun needle cs => !occursIn needle cs
  | .startsWith => some List.isPrefixOf
  | .endsWith => some List.isSuffixOf
  | _ => none

namespace Condition

variable {v : Vocabulary} {n : NodeView} {name a e : String} {field : FieldSpec}

section Leaves

variable (hstock : v.operators = Vocabulary.stockOperators)
  (hfield : v.fields.get? name = some field) (hstring : field.type = .string)
  (hactual : n.present? field.attributeName = some (.str a))

include hstock hfield hstring hactual

theorem evaluate_onTexts {o : Operator} {test : List Char → List Char → Bool}
    (ho : o.onTexts? = some test) : (leaf ⟨name, o.name, .str e⟩).evaluate v n =
      .ok (test (Text.lowerFrom [] e.toList) (Text.lowerFrom [] a.toList)) := by
  rw [← Text.toList_lower, ← Text.toList_lower]
  cases o with
  | contains | notContains | startsWith | endsWith =>
    cases ho
    refine evaluate_leaf_of_stock hstock hfield (hstring ▸ by decide) (by decide) hactual ?_
    rw [hstring]
    rfl
  | _ => cases ho

/-- **A literal text is found, whatever the case, unless the context disturbs it.**  With the stock
operators, take a field of texts, a node that has a text there, and the text of a rule.  Where the
node's text begins with it, `starts_with` holds exactly if what follows does not disturb it; where
the node's text ends with it, `ends_with` holds exactly if what goes before does not; and where it
occurs undisturbed, `contains` holds and `not_contains` does not.  A text without capital sigma is
never disturbed.  A text that is found at the start or at the end is always contained. -/
theorem literal_text_found :
    (∀ after, a.toList = e.toList ++ after →
      (leaf ⟨name, "starts_with", .str e⟩).evaluate v n =
        .ok (!Text.isDisturbed [] e.toList after)) ∧
    (∀ before, a.toList = before ++ e.toList →
      (leaf ⟨name, "ends_with", .str e⟩).evaluate v n =
        .ok (!Text.isDisturbed before e.toList [])) ∧
    (∀ before after, a.toList = before ++ (e.toList ++ after) →
      Text.isDisturbed before e.toList after = false →
      (leaf ⟨name, "contains", .str e⟩).evaluate v n = .ok true ∧
        (leaf ⟨name, "not_contains", .str e⟩).evaluate v n = .ok false) ∧
    ('Σ' ∉ e.toList → ∀ before after, Text.isDisturbed before e.toList after = false) ∧
    ((leaf ⟨name, "starts_with", .str e⟩).evaluate v n = .ok true ∨
        (leaf ⟨name, "ends_with", .str e⟩).evaluate v n = .ok true →
      (leaf ⟨name, "contains", .str e⟩).evaluate v n = .ok true) := by
  have htest {o : Operator} {test : List Char → List Char → Bool} (ho : o.onTexts? = some test) :=
    evaluate_onTexts (e := e) hstock hfield hstring hactual ho
  have hstarts : (leaf ⟨name, "starts_with", .str e⟩).evaluate v n = _ :=
    htest (rfl : Operator.startsWith.onTexts? = _)
  have hends : (leaf ⟨name, "ends_with", .str e⟩).evaluate v n = _ :=
    htest (rfl : Operator.endsWith.onTexts? = _)
  have hcontains : (leaf ⟨name, "contains", .str e⟩).evaluate v n = _ :=
    htest (rfl : Operator.contains.onTexts? = _)
  have hnotContains : (leaf ⟨name, "not_contains", .str e⟩).evaluate v n = _ :=
    htest (rfl : Operator.notContains.onTexts? = _)
  rw [hstarts, hends, hcontains, hnotContains]
  refine ⟨fun after ha => ?_, fun before ha => ?_, fun before after ha hsteady => ?_,
    fun hsigma _ _ => Text.isDisturbed_eq_false hsigma, ?_⟩
  · rw [ha, Except.ok.injEq, Bool.eq_iff_iff, List.isPrefixOf_iff_prefix, Bool.not_eq_true',
      Text.lowerFrom_prefix_iff]
  · rw [ha, Except.ok.injEq, Bool.eq_iff_iff, List.isSuffixOf_iff_suffix, Bool.not_eq_true',
      Text.lowerFrom_suffix_iff]
  · have hfound := occursIn_iff.mpr (Text.lowerFrom_infix hsteady)
    rw [ha, hfound]
    exact ⟨rfl, rfl⟩
  · simp only [Except.ok.injEq, List.isPrefixOf_iff_prefix, List.isSuffixOf_iff_suffix,
      occursIn_iff]
    exact fun h => h.elim List.IsPrefix.isInfix List.IsSuffix.isInfix

end Leaves

/-- A word that ends in a capital sigma is found where another word follows. -/
theorem literal_text_found_word :
    let n := NodeView.mapping [(.str "id", .str "n"), (.str "name", .str "ΟΔΟΣ ΑΒ")]
    (leaf ⟨"name", "starts_with", .str "ΟΔΟΣ"⟩).evaluate .standard n = .ok true ∧
      (leaf ⟨"name", "contains", .str "ΟΔΟΣ"⟩).evaluate .standard n = .ok true := by
  intro n
  have hfield : Vocabulary.standard.fields.get? "name" = some _ := rfl
  have hactual : n.present? "name" = some (.str "ΟΔΟΣ ΑΒ") := rfl
  have hsteady : Text.isDisturbed [] "ΟΔΟΣ".toList " ΑΒ".toList = false := by decide +kernel
  obtain ⟨hstarts, -, -, -, hfound⟩ :=
    literal_text_found (e := "ΟΔΟΣ") (rfl : Vocabulary.standard.operators = _) hfield rfl hactual
  have hstart := hstarts " ΑΒ".toList (by decide +kernel)
  rw [hsteady] at hstart
  exact ⟨hstart, hfound (Or.inl hstart)⟩

/-- Where the word goes on, the sigma is no longer a final one, and nothing is found. -/
theorem literal_text_not_always_found :
    ¬ ∀ (v : Vocabulary) (n : NodeView) (name : String) (field : FieldSpec) (a e : String)
      (before after : List Char), v.operators = Vocabulary.stockOperators →
      v.fields.get? name = some field → field.type = .string →
      n.present? field.attributeName = some (.str a) → a.toList = before ++ (e.toList ++ after) →
      (leaf ⟨name, "contains", .str e⟩).evaluate v n = .ok true := by
  intro h
  let n := NodeView.mapping [(.str "id", .str "n"), (.str "name", .str "ΑΣΑ")]
  have hclaimed := h .standard n "name" _ "ΑΣΑ" "ΑΣ" [] ['Α'] rfl rfl rfl rfl (by decide +kernel)
  exact absurd hclaimed (by decide +kernel)

end Condition

end DialPlan
