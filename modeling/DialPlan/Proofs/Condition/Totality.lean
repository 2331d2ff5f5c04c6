import DialPlan.Proofs.Condition.Comparison

/-!
# Where evaluation breaks off

Evaluating a condition is meant to be total: a leaf that cannot be used does not match.  It is, but
for two kinds of fault.  A comparison may stumble over a fault that is not a leaf's to deal with;
and the reason why a leaf cannot be used quotes the value of the leaf, so a value of too many digits
is a fault where the reason is told.  `Predicate.LetsOut` says which faults a leaf lets out, and
`LooksAt` which leaves are looked at.

Explanation looks at the same leaves, and quotes the value of each.  So it breaks off where
evaluation does, or else at a leaf that it cannot quote.
-/

namespace DialPlan

/-- **The sides do not fit** a comparison: it meets a fault that the leaf deals with. -/
def Misfits (t : FieldType) (o : Operator) (actual expected : Value) : Prop :=
  Vocabulary.stockArity o ≠ .none ∧
    ∃ g, compareValues actual o expected t = .error g ∧ g.degrades = true

/-- **A leaf lets a fault out**: its comparison stumbles over it, or its sides do not fit and its
own value has too many digits for saying so. -/
def Predicate.LetsOut (v : Vocabulary) (n : NodeView) (p : Predicate) (f : Fault) : Prop :=
  ∃ field o a, v.find p = .ok (field, o) ∧ n.present? field.attributeName = some a ∧
    (Stumbles field.type o a p.value f ∨
      Misfits field.type o a p.value ∧ p.value.printable = false ∧ f = .tooManyDigits none)

namespace Condition

variable {v : Vocabulary} {n : NodeView}

/-- **Evaluation looks at a leaf**: the children before it left their groups unsettled. -/
inductive LooksAt (v : Vocabulary) (n : NodeView) : Condition → Predicate → Prop
  | leaf (p : Predicate) : LooksAt v n (leaf p) p
  /-- The leaf is in a child of an *and*, and all children before that one hold. -/
  | all {before : List Condition} {c : Condition} {after : List Condition} {p : Predicate} :
    (∀ d ∈ before, d.evaluate v n = .ok true) → LooksAt v n c p →
      LooksAt v n (group .all (before ++ c :: after)) p
  /-- The leaf is in a child of an *or*, and no child before that one holds. -/
  | any {before : List Condition} {c : Condition} {after : List Condition} {p : Predicate} :
    (∀ d ∈ before, d.evaluate v n = .ok false) → LooksAt v n c p →
      LooksAt v n (group .any (before ++ c :: after)) p

/-- The leaves in children that are looked at while those before them come to `on`. -/
def LooksAmong (v : Vocabulary) (n : NodeView) (on : Bool) (children : List Condition)
    (p : Predicate) : Prop :=
  StopsAt (fun d => d.evaluate v n = .ok on) (fun d => LooksAt v n d p) children

theorem looksAt_leaf_iff {p q : Predicate} : LooksAt v n (leaf p) q ↔ q = p := by
  constructor
  · intro h
    cases h
    rfl
  · rintro rfl
    exact .leaf q

theorem looksAt_all_iff {children : List Condition} {p : Predicate} :
    LooksAt v n (group .all children) p ↔ LooksAmong v n true children p := by
  constructor
  · intro h
    cases h with
    | all hbefore hlooks => exact ⟨_, _, _, rfl, hbefore, hlooks⟩
  · rintro ⟨before, c, after, rfl, hbefore, hlooks⟩
    exact .all hbefore hlooks

theorem looksAt_any_iff {children : List Condition} {p : Predicate} :
    LooksAt v n (group .any children) p ↔ LooksAmong v n false children p := by
  constructor
  · intro h
    cases h with
    | any hbefore hlooks => exact ⟨_, _, _, rfl, hbefore, hlooks⟩
  · rintro ⟨before, c, after, rfl, hbefore, hlooks⟩
    exact .any hbefore hlooks

@[simp] theorem not_looksAmong_nil {on : Bool} {p : Predicate} : ¬ LooksAmong v n on [] p :=
  not_stopsAt_nil

theorem looksAmong_cons_iff {on : Bool} {c : Condition} {cs : List Condition} {p : Predicate} :
    LooksAmong v n on (c :: cs) p ↔
      LooksAt v n c p ∨ c.evaluate v n = .ok on ∧ LooksAmong v n on cs p :=
  stopsAt_cons_iff

/-! ## Leaves -/

/-- Operators that ask for presence compare nothing, and so stumble over nothing. -/
theorem not_stumbles_of_arity {t : FieldType} {o : Operator} {a e : Value} {f : Fault}
    (h : Vocabulary.stockArity o = .none) : ¬ Stumbles t o a e f := by
  intro hstumbles
  obtain ⟨hcompares, hf⟩ := compareValues_eq_error_iff.mpr hstumbles
  cases o with
  | isEmpty | isNotEmpty | exists_ | notExists =>
    cases hcompares
    cases hf
  | _ => cases h

theorem judge_of_none {p : Predicate} {t : FieldType} {o : Operator} {f : Fault} :
    judge p t o none ≠ .error f := by
  cases o <;> simp [judge]

theorem judge_of_arity {p : Predicate} {t : FieldType} {o : Operator} {a : Value}
    (h : Vocabulary.stockArity o ≠ .none) :
    judge p t o (some a) =
      match compareValues a o p.value t with
      | .ok b => .ok ⟨b, none⟩
      | .error f =>
        if f.degrades then p.value.requirePrintable >>= fun _ => .ok (.degrade (.unusable p f))
        else .error f := by
  cases o with
  | isEmpty | isNotEmpty | exists_ | notExists => exact absurd rfl h
  | _ => rfl

/-- A fault that the leaf deals with makes it degrade, if its value can be put into words. -/
theorem judge_of_misfit {p : Predicate} {t : FieldType} {o : Operator} {a : Value} {g : Fault}
    (harity : Vocabulary.stockArity o ≠ .none) (h : compareValues a o p.value t = .error g)
    (hg : g.degrades = true) : judge p t o (some a) =
      p.value.requirePrintable >>= fun _ => .ok (.degrade (.unusable p g)) := by
  rw [judge_of_arity harity, h]
  exact if_pos hg

/-- **A present value is judged with a fault** exactly when the comparison stumbles, or cannot be
made and the reason cannot be told. -/
theorem judge_eq_error_iff {p : Predicate} {t : FieldType} {o : Operator} {a : Value} {f : Fault} :
    judge p t o (some a) = .error f ↔ Stumbles t o a p.value f ∨
      Misfits t o a p.value ∧ p.value.printable = false ∧ f = .tooManyDigits none := by
  by_cases harity : Vocabulary.stockArity o = .none
  · have hmisfits : ¬ Misfits t o a p.value := fun h => h.1 harity
    refine iff_of_false ?_ fun h => h.elim (not_stumbles_of_arity harity) fun h => hmisfits h.1
    cases o with
    | isEmpty | isNotEmpty | exists_ | notExists => simp [judge]
    | _ => cases harity
  · rw [← compareValues_eq_error_iff]
    cases hcompare : compareValues a o p.value t with
    | ok b =>
      rw [judge_of_arity harity, hcompare]
      simp [Misfits, hcompare]
    | error g =>
      by_cases hg : g.degrades = true
      · have hmisfits : Misfits t o a p.value := ⟨harity, g, hcompare, hg⟩
        have hmild : ¬ (Except.error g = (Except.error f : Except Fault Bool) ∧
            f.degrades = false) := by
          rintro ⟨⟨⟩, hf⟩
          rw [hg] at hf
          cases hf
        rw [judge_of_misfit harity hcompare hg, bind_eq_error_iff, or_iff_right hmild,
          and_iff_right hmisfits, Value.requirePrintable_eq_error_iff]
        simp
      · have hmisfits : ¬ Misfits t o a p.value := by
          rintro ⟨-, g', hg', hdegrades⟩
          rw [hcompare] at hg'
          cases hg'
          exact hg hdegrades
        rw [judge_of_arity harity, hcompare, or_iff_left fun h => hmisfits h.1]
        show (if g.degrades = true then _ else _) = _ ↔ _
        rw [if_neg hg]
        constructor
        · rintro ⟨⟩
          exact ⟨rfl, Bool.eq_false_iff.mpr hg⟩
        · rintro ⟨⟨⟩, -⟩
          rfl

theorem judgeLeaf_eq_error_iff {p : Predicate} {f : Fault} :
    p.judge v n = .error f ↔ p.LetsOut v n f := by
  unfold Predicate.judge
  constructor
  · intro h
    split at h
    · cases h
    · next field o hfind =>
      cases ha : n.present? field.attributeName with
      | none =>
        rw [ha] at h
        exact absurd h judge_of_none
      | some a =>
        rw [ha] at h
        exact ⟨field, o, a, hfind, ha, judge_eq_error_iff.mp h⟩
  · rintro ⟨field, o, a, hfind, ha, hout⟩
    rw [hfind]
    show judge p field.type o (n.present? field.attributeName) = _
    rw [ha]
    exact judge_eq_error_iff.mpr hout

/-! ## Trees -/

mutual

/-- **Evaluation breaks off with the faults of the leaves that it looks at.** -/
theorem evaluate_eq_error_iff {f : Fault} : ∀ c : Condition,
    c.evaluate v n = .error f ↔ ∃ p, LooksAt v n c p ∧ p.LetsOut v n f
  | leaf p => by
    rw [evaluate, bind_eq_error_iff, judgeLeaf_eq_error_iff]
    simp [looksAt_leaf_iff]
  | group .all children => by
    simp only [evaluate, evaluateAll_eq_error_iff children, looksAt_all_iff]
  | group .any children => by
    simp only [evaluate, evaluateAny_eq_error_iff children, looksAt_any_iff]

theorem evaluateAll_eq_error_iff {f : Fault} : ∀ children : List Condition,
    evaluateAll v n children = .error f ↔
      ∃ p, LooksAmong v n true children p ∧ p.LetsOut v n f
  | [] => by simp [evaluateAll]
  | c :: cs => by
    simp only [evaluateAll, bind_eq_error_iff, evaluate_eq_error_iff c, looksAmong_cons_iff,
      or_and_right, exists_or, and_assoc, exists_and_left]
    rw [← evaluateAll_eq_error_iff cs]
    simp

theorem evaluateAny_eq_error_iff {f : Fault} : ∀ children : List Condition,
    evaluateAny v n children = .error f ↔
      ∃ p, LooksAmong v n false children p ∧ p.LetsOut v n f
  | [] => by simp [evaluateAny]
  | c :: cs => by
    simp only [evaluateAny, bind_eq_error_iff, evaluate_eq_error_iff c, looksAmong_cons_iff,
      or_and_right, exists_or, and_assoc, exists_and_left]
    rw [← evaluateAny_eq_error_iff cs]
    simp

end

/-- A condition comes to something exactly when no leaf that is looked at lets a fault out. -/
theorem exists_evaluate_iff {c : Condition} :
    (∃ b, c.evaluate v n = .ok b) ↔ ∀ p, LooksAt v n c p → ∀ f, ¬ p.LetsOut v n f := by
  constructor
  · rintro ⟨b, hb⟩ p hlooks f hout
    rw [(evaluate_eq_error_iff c).mpr ⟨p, hlooks, hout⟩] at hb
    cases hb
  · intro h
    cases hc : c.evaluate v n with
    | ok b => exact ⟨b, rfl⟩
    | error f =>
      obtain ⟨p, hlooks, hout⟩ := (evaluate_eq_error_iff c).mp hc
      exact absurd hout (h p hlooks f)

/-! ## Explanations -/

mutual

/-- **An explanation comes to the same as an evaluation**, and can quote every leaf that is looked
at. -/
theorem evaluate_of_explain : ∀ (c : Condition) {r : Explanation}, c.explain v n = .ok r →
    c.evaluate v n = .ok r.value ∧ ∀ p, LooksAt v n c p → p.value.printable = true
  | leaf p, r, h => by
    rw [explain] at h
    obtain ⟨verdict, hjudge, h⟩ := bind_eq_ok_iff.mp h
    obtain ⟨⟨⟩, hquoted, h⟩ := bind_eq_ok_iff.mp h
    cases h
    refine ⟨?_, fun q hq => ?_⟩
    · rw [evaluate, hjudge]
      obtain ⟨holds, degraded⟩ := verdict
      cases degraded <;> rfl
    · rw [looksAt_leaf_iff.mp hq]
      exact Value.requirePrintable_eq_ok_iff.mp hquoted
  | group .all children, r, h => by
    rw [explain] at h
    obtain ⟨⟨value, parts⟩, hparts, h⟩ := bind_eq_ok_iff.mp h
    cases h
    simp only [evaluate, looksAt_all_iff]
    exact evaluateAll_of_explain children hparts
  | group .any children, r, h => by
    rw [explain] at h
    obtain ⟨⟨value, parts⟩, hparts, h⟩ := bind_eq_ok_iff.mp h
    cases h
    simp only [evaluate, looksAt_any_iff]
    exact evaluateAny_of_explain children hparts

theorem evaluateAll_of_explain : ∀ (cs : List Condition) {b : Bool} {parts : List Explanation},
    explainAll v n cs = .ok (b, parts) →
      evaluateAll v n cs = .ok b ∧ ∀ p, LooksAmong v n true cs p → p.value.printable = true
  | [], b, parts, h => by
    rw [explainAll] at h
    cases h
    simp [evaluateAll]
  | c :: cs, b, parts, h => by
    rw [explainAll] at h
    obtain ⟨part, hpart, h⟩ := bind_eq_ok_iff.mp h
    obtain ⟨hvalue, hprint⟩ := evaluate_of_explain c hpart
    simp only [evaluateAll, hvalue, looksAmong_cons_iff]
    split at h
    · next hholds =>
      obtain ⟨⟨value, more⟩, hmore, h⟩ := bind_eq_ok_iff.mp h
      cases h
      obtain ⟨hrest, hprints⟩ := evaluateAll_of_explain cs hmore
      rw [ok_bind, if_pos hholds]
      exact ⟨hrest, fun p hp => hp.elim (hprint p) fun hp => hprints p hp.2⟩
    · next hfails =>
      cases h
      rw [ok_bind, if_neg hfails]
      refine ⟨rfl, fun p hp => hp.elim (hprint p) fun hp => ?_⟩
      exact absurd (Except.ok.inj hp.1) hfails

theorem evaluateAny_of_explain : ∀ (cs : List Condition) {b : Bool} {parts : List Explanation},
    explainAny v n cs = .ok (b, parts) →
      evaluateAny v n cs = .ok b ∧ ∀ p, LooksAmong v n false cs p → p.value.printable = true
  | [], b, parts, h => by
    rw [explainAny] at h
    cases h
    simp [evaluateAny]
  | c :: cs, b, parts, h => by
    rw [explainAny] at h
    obtain ⟨part, hpart, h⟩ := bind_eq_ok_iff.mp h
    obtain ⟨hvalue, hprint⟩ := evaluate_of_explain c hpart
    simp only [evaluateAny, hvalue, looksAmong_cons_iff]
    split at h
    · next hholds =>
      cases h
      rw [ok_bind, if_pos hholds]
      refine ⟨rfl, fun p hp => hp.elim (hprint p) fun hp => ?_⟩
      rw [Except.ok.inj hp.1] at hholds
      cases hholds
    · next hfails =>
      obtain ⟨⟨value, more⟩, hmore, h⟩ := bind_eq_ok_iff.mp h
      cases h
      obtain ⟨hrest, hprints⟩ := evaluateAny_of_explain cs hmore
      rw [ok_bind, if_neg hfails]
      exact ⟨hrest, fun p hp => hp.elim (hprint p) fun hp => hprints p hp.2⟩

end

mutual

/-- **An explanation breaks off like the evaluation**, or at a leaf that it cannot quote. -/
theorem evaluate_of_explain_error {f : Fault} : ∀ c : Condition, c.explain v n = .error f →
    c.evaluate v n = .error f ∨
      f = .tooManyDigits none ∧ ∃ p, LooksAt v n c p ∧ p.value.printable = false
  | leaf p, h => by
    rw [explain] at h
    rcases bind_eq_error_iff.mp h with hjudge | ⟨verdict, -, h⟩
    · refine Or.inl ?_
      rw [evaluate, hjudge]
      rfl
    · rcases bind_eq_error_iff.mp h with hquoted | ⟨-, -, h⟩
      · obtain ⟨hprint, rfl⟩ := Value.requirePrintable_eq_error_iff.mp hquoted
        exact Or.inr ⟨rfl, p, .leaf p, hprint⟩
      · cases h
  | group .all children, h => by
    rw [explain] at h
    rcases bind_eq_error_iff.mp h with hparts | ⟨parts, -, h⟩
    · simp only [evaluate, looksAt_all_iff]
      exact evaluateAll_of_explain_error children hparts
    · cases h
  | group .any children, h => by
    rw [explain] at h
    rcases bind_eq_error_iff.mp h with hparts | ⟨parts, -, h⟩
    · simp only [evaluate, looksAt_any_iff]
      exact evaluateAny_of_explain_error children hparts
    · cases h

theorem evaluateAll_of_explain_error {f : Fault} : ∀ cs : List Condition,
    explainAll v n cs = .error f → evaluateAll v n cs = .error f ∨
      f = .tooManyDigits none ∧ ∃ p, LooksAmong v n true cs p ∧ p.value.printable = false
  | [], h => by
    rw [explainAll] at h
    cases h
  | c :: cs, h => by
    rw [explainAll] at h
    simp only [evaluateAll, looksAmong_cons_iff]
    rcases bind_eq_error_iff.mp h with hpart | ⟨part, hpart, h⟩
    · refine (evaluate_of_explain_error c hpart).imp (fun hc => ?_) ?_
      · rw [hc]
        rfl
      · rintro ⟨rfl, p, hlooks, hprint⟩
        exact ⟨rfl, p, Or.inl hlooks, hprint⟩
    · have hvalue := (evaluate_of_explain c hpart).1
      split at h
      · next hholds =>
        rcases bind_eq_error_iff.mp h with hmore | ⟨more, -, h⟩
        · rw [hvalue, ok_bind, if_pos hholds, hholds]
          refine (evaluateAll_of_explain_error cs hmore).imp_right ?_
          rintro ⟨rfl, p, hlooks, hprint⟩
          exact ⟨rfl, p, Or.inr ⟨rfl, hlooks⟩, hprint⟩
        · cases h
      · cases h

theorem evaluateAny_of_explain_error {f : Fault} : ∀ cs : List Condition,
    explainAny v n cs = .error f → evaluateAny v n cs = .error f ∨
      f = .tooManyDigits none ∧ ∃ p, LooksAmong v n false cs p ∧ p.value.printable = false
  | [], h => by
    rw [explainAny] at h
    cases h
  | c :: cs, h => by
    rw [explainAny] at h
    simp only [evaluateAny, looksAmong_cons_iff]
    rcases bind_eq_error_iff.mp h with hpart | ⟨part, hpart, h⟩
    · refine (evaluate_of_explain_error c hpart).imp (fun hc => ?_) ?_
      · rw [hc]
        rfl
      · rintro ⟨rfl, p, hlooks, hprint⟩
        exact ⟨rfl, p, Or.inl hlooks, hprint⟩
    · have hvalue := (evaluate_of_explain c hpart).1
      split at h
      · cases h
      · next hfails =>
        rcases bind_eq_error_iff.mp h with hmore | ⟨more, -, h⟩
        · rw [hvalue, ok_bind, if_neg hfails, Bool.eq_false_iff.mpr hfails]
          refine (evaluateAny_of_explain_error cs hmore).imp_right ?_
          rintro ⟨rfl, p, hlooks, hprint⟩
          exact ⟨rfl, p, Or.inr ⟨rfl, hlooks⟩, hprint⟩
        · cases h

end

/-- **A condition has an explanation** exactly when it comes to something and every leaf that is
looked at can be quoted. -/
theorem exists_explain_iff {c : Condition} : (∃ r, c.explain v n = .ok r) ↔
    (∃ b, c.evaluate v n = .ok b) ∧ ∀ p, LooksAt v n c p → p.value.printable = true := by
  constructor
  · rintro ⟨r, hr⟩
    obtain ⟨hvalue, hprint⟩ := evaluate_of_explain c hr
    exact ⟨⟨r.value, hvalue⟩, hprint⟩
  · rintro ⟨⟨b, hb⟩, hprint⟩
    cases hc : c.explain v n with
    | ok r => exact ⟨r, rfl⟩
    | error f =>
      rcases evaluate_of_explain_error c hc with herror | ⟨-, p, hlooks, hp⟩
      · rw [hb] at herror
        cases herror
      · rw [hprint p hlooks] at hp
        cases hp

/-! ## Totality -/

/-- **Evaluation is total, up to the faults that leaves let out.**  A condition is evaluated exactly
when no leaf that is looked at lets a fault out, and explained, to the same value, exactly when each
of these can be quoted as well.  And a leaf whose comparison meets a fault lets it out, because the
comparison stumbles; or lets out that its own value has too many digits; or does not match and says
why. -/
theorem evaluation_total_or_escapes (v : Vocabulary) (n : NodeView) (c : Condition) :
    ((∃ b, c.evaluate v n = .ok b) ↔ ∀ p, LooksAt v n c p → ∀ f, ¬ p.LetsOut v n f) ∧
    (∀ f, c.evaluate v n = .error f ↔ ∃ p, LooksAt v n c p ∧ p.LetsOut v n f) ∧
    ((∃ x, c.explain v n = .ok x ∧ c.evaluate v n = .ok x.value) ↔
      ∀ p, LooksAt v n c p → p.value.printable = true ∧ ∀ f, ¬ p.LetsOut v n f) ∧
    (∀ f, c.explain v n = .error f → c.evaluate v n = .error f ∨ f = .tooManyDigits none) ∧
    ∀ (p : Predicate) (field : FieldSpec) (o : Operator) (a : Value) (f : Fault),
      v.find p = .ok (field, o) → n.present? field.attributeName = some a →
        Vocabulary.stockArity o ≠ .none → compareValues a o p.value field.type = .error f →
          (Stumbles field.type o a p.value f ∧ (leaf p).evaluate v n = .error f) ∨
            (p.value.printable = false ∧
              (leaf p).evaluate v n = .error (.tooManyDigits none)) ∨
            ((leaf p).evaluate v n = .ok false ∧
              p.judge v n = .ok (.degrade (.unusable p f))) := by
  refine ⟨exists_evaluate_iff, fun f => evaluate_eq_error_iff c, ?_, fun f hf => ?_, ?_⟩
  · have hvalue : (∃ x, c.explain v n = .ok x ∧ c.evaluate v n = .ok x.value) ↔
        ∃ x, c.explain v n = .ok x :=
      exists_congr fun x => and_iff_left_of_imp fun hx => (evaluate_of_explain c hx).1
    rw [hvalue, exists_explain_iff, exists_evaluate_iff]
    exact ⟨fun h p hp => ⟨h.2 p hp, h.1 p hp⟩,
      fun h => ⟨fun p hp => (h p hp).2, fun p hp => (h p hp).1⟩⟩
  · exact (evaluate_of_explain_error c hf).imp_right fun h => h.1
  · intro p field o a f hfind ha harity hcompare
    have hjudge : p.judge v n = judge p field.type o (some a) := by
      rw [Predicate.judge, hfind]
      show judge p field.type o (n.present? field.attributeName) = _
      rw [ha]
    by_cases hf : f.degrades = true
    · rw [judge_of_misfit harity hcompare hf] at hjudge
      rw [evaluate, hjudge]
      cases hprint : p.value.printable with
      | true => exact Or.inr (Or.inr (by simp [Value.requirePrintable, hprint, ok_bind,
          Verdict.degrade]))
      | false => exact Or.inr (Or.inl (by simp [Value.requirePrintable, hprint, error_bind]))
    · have hstumbles := compareValues_eq_error_iff.mp ⟨hcompare, Bool.eq_false_iff.mpr hf⟩
      refine Or.inl ⟨hstumbles, ?_⟩
      rw [evaluate, hjudge, judge_eq_error_iff.mpr (Or.inl hstumbles)]
      rfl

/-- A node whose speed is an integer beyond the doubles cannot be asked whether it is faster than
one. -/
theorem evaluation_not_total : ¬ ∀ (v : Vocabulary) (n : NodeView) (c : Condition),
    (∃ b, c.evaluate v n = .ok b) ∧ ∃ x, c.explain v n = .ok x := by
  intro h
  obtain ⟨⟨b, hb⟩, -⟩ := h .standard
    (.mapping [(.str "id", .str "n"), (.str "speed", .int (10 ^ 400))])
    (.compare "speed" "greater_than" (.int 1))
  have hlarge : (Binary64.ofInt (10 ^ 400)).isFinite = false := by decide +kernel
  have hstumbles : Stumbles .number .greaterThan (.int (10 ^ 400)) (.int 1) .tooLarge :=
    Or.inr ⟨[], _, _, rfl, by simp, Or.inl ⟨Or.inl rfl, _, rfl, hlarge, rfl⟩⟩
  have hout : Predicate.LetsOut .standard
      (.mapping [(.str "id", .str "n"), (.str "speed", .int (10 ^ 400))])
      (.of "speed" "greater_than" (.int 1)) .tooLarge :=
    ⟨_, .greaterThan, .int (10 ^ 400), rfl, rfl, Or.inl hstumbles⟩
  rw [Condition.compare, (evaluate_eq_error_iff _).mpr ⟨_, .leaf _, hout⟩] at hb
  cases hb

end Condition

end DialPlan
