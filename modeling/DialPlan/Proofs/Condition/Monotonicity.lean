import DialPlan.Proofs.Condition.Totality
import Mathlib.Data.List.Forall2

/-!
# Trees and their leaves

Groups join their children by *and* and *or* only, so a tree can only gain when its leaves do:
`evaluate_mono` compares two trees of the same shape (`Aligned`) on two nodes, and asks of every
leaf that holds on the one node that its counterpart holds on the other.  Which leaves are looked at
may differ between the two runs.

This is what makes it safe that leaves degrade.  A leaf that cannot be used (`Predicate.Usable`)
holds on no node, so putting such leaves into a tree never turns a node that does not match into one
that does.
-/

namespace DialPlan

/-! ## Leaves that cannot be used -/

/-- **A value that an operator can read** in the type of the field. -/
def Operator.Reads (o : Operator) (t : FieldType) (e : Value) : Prop :=
  match o with
  | .equals | .notEquals => t.Reads e ∨ t = .set ∧ ∃ texts, coerceSet e = .ok texts
  | .contains | .notContains | .startsWith | .endsWith => ∃ s, coerceText e = .ok s
  | .regex => ∃ source pattern, coerceText e = .ok source ∧ readPattern source = .ok pattern
  | .greaterThan | .greaterOrEqual | .lessThan | .lessOrEqual => t.Reads e
  | .between => ∃ low high, e.collection? = some [low, high] ∧ t.Reads low ∧ t.Reads high
  | .isIn | .notIn => ∃ options, e.collection? = some options ∧
      ∀ w ∈ options, t.Reads w ∨ t = .set ∧ ∃ s, coerceText w = .ok s
  | .isEmpty | .isNotEmpty | .exists_ | .notExists => True

/-- **A leaf that can be used**: its names are known and go together, and its operator can read its
value. -/
def Predicate.Usable (v : Vocabulary) (p : Predicate) : Prop :=
  ∃ field o, v.find p = .ok (field, o) ∧ o.Reads field.type p.value

theorem exists_coercion_of_ok {t : FieldType} {o : Operator} {read : Value → Except Fault Scalar}
    (h : t.coercion o = .ok read) : t.coercion? = some read := by
  unfold FieldType.coercion at h
  split at h
  · next hread =>
    cases h
    exact hread
  · cases h

section Comparisons

variable {t : FieldType} {o : Operator} {a e : Value} {b : Bool}

theorem reads_of_isEqual (h : isEqual t o a e = .ok b) :
    t.Reads e ∨ t = .set ∧ ∃ texts, coerceSet e = .ok texts := by
  cases t with
  | set =>
    obtain ⟨_, -, h⟩ := bind_eq_ok_iff.mp h
    obtain ⟨texts, he, -⟩ := bind_eq_ok_iff.mp h
    exact Or.inr ⟨rfl, texts, he⟩
  | _ =>
    obtain ⟨read, hread, h⟩ := bind_eq_ok_iff.mp h
    obtain ⟨_, -, h⟩ := bind_eq_ok_iff.mp h
    obtain ⟨y, he, -⟩ := bind_eq_ok_iff.mp h
    exact Or.inl ⟨read, y, exists_coercion_of_ok hread, he⟩

theorem reads_of_inOrder {test : Scalar → Scalar → Bool} (h : inOrder test t o a e = .ok b) :
    t.Reads e := by
  obtain ⟨read, hread, h⟩ := bind_eq_ok_iff.mp h
  obtain ⟨_, -, h⟩ := bind_eq_ok_iff.mp h
  obtain ⟨y, he, -⟩ := bind_eq_ok_iff.mp h
  exact ⟨read, y, exists_coercion_of_ok hread, he⟩

theorem collection?_of_asList {items : List Value} (h : asList e = .ok items) :
    e.collection? = some items := by
  unfold asList at h
  split at h
  · next hitems =>
    cases h
    exact hitems
  · cases h

theorem reads_of_isBetween (h : isBetween t a e = .ok b) :
    ∃ low high, e.collection? = some [low, high] ∧ t.Reads low ∧ t.Reads high := by
  obtain ⟨items, hitems, h⟩ := bind_eq_ok_iff.mp h
  split at h
  · next low high =>
    obtain ⟨read, hread, h⟩ := bind_eq_ok_iff.mp h
    obtain ⟨x, hlow, h⟩ := bind_eq_ok_iff.mp h
    obtain ⟨y, hhigh, -⟩ := bind_eq_ok_iff.mp h
    have hread := exists_coercion_of_ok hread
    exact ⟨low, high, collection?_of_asList hitems, ⟨read, x, hread, hlow⟩,
      ⟨read, y, hread, hhigh⟩⟩
  · cases h

theorem reads_of_isMember (h : isMember t o a e = .ok b) :
    ∃ options, e.collection? = some options ∧
      ∀ w ∈ options, t.Reads w ∨ t = .set ∧ ∃ s, coerceText w = .ok s := by
  obtain ⟨options, hoptions, h⟩ := bind_eq_ok_iff.mp h
  refine ⟨options, collection?_of_asList hoptions, fun w hw => ?_⟩
  cases t with
  | set =>
    obtain ⟨_, -, h⟩ := bind_eq_ok_iff.mp h
    obtain ⟨texts, htexts, -⟩ := bind_eq_ok_iff.mp h
    exact Or.inr ⟨rfl, exists_coerceTexts_iff.mp ⟨texts, htexts⟩ w hw⟩
  | _ =>
    obtain ⟨read, hread, h⟩ := bind_eq_ok_iff.mp h
    obtain ⟨_, -, h⟩ := bind_eq_ok_iff.mp h
    obtain ⟨ys, hys, -⟩ := bind_eq_ok_iff.mp h
    obtain ⟨y, hy⟩ := exists_coerceAll_iff.mp ⟨ys, hys⟩ w hw
    exact Or.inl ⟨read, y, exists_coercion_of_ok hread, hy⟩

theorem exists_text_of_containsText (h : containsText t a e = .ok b) :
    ∃ s, coerceText e = .ok s := by
  obtain ⟨s, hs, -⟩ := bind_eq_ok_iff.mp h
  exact ⟨s, hs⟩

/-- **A comparison that comes to an answer has read the value of the rule.** -/
theorem reads_of_compareValues (h : compareValues a o e t = .ok b) : o.Reads t e := by
  cases o with
  | equals => exact reads_of_isEqual h
  | notEquals =>
    obtain ⟨_, h, -⟩ := map_eq_ok_iff.mp h
    exact reads_of_isEqual h
  | contains => exact exists_text_of_containsText h
  | notContains =>
    obtain ⟨_, h, -⟩ := map_eq_ok_iff.mp h
    exact exists_text_of_containsText h
  | startsWith | endsWith =>
    obtain ⟨_, -, h⟩ := bind_eq_ok_iff.mp h
    obtain ⟨s, hs, -⟩ := bind_eq_ok_iff.mp h
    exact ⟨s, hs⟩
  | regex =>
    obtain ⟨source, hsource, h⟩ := bind_eq_ok_iff.mp h
    obtain ⟨pattern, hpattern, -⟩ := bind_eq_ok_iff.mp h
    exact ⟨source, pattern, hsource, hpattern⟩
  | greaterThan | greaterOrEqual | lessThan | lessOrEqual => exact reads_of_inOrder h
  | between => exact reads_of_isBetween h
  | isIn => exact reads_of_isMember h
  | notIn =>
    obtain ⟨_, h, -⟩ := map_eq_ok_iff.mp h
    exact reads_of_isMember h
  | isEmpty | isNotEmpty | exists_ | notExists => trivial

end Comparisons

/-- **A leaf that holds on some node can be used.** -/
theorem Predicate.usable_of_judge {v : Vocabulary} {n : NodeView} {p : Predicate} {r : Verdict}
    (h : p.judge v n = .ok r) (hholds : r.holds = true) : p.Usable v := by
  unfold Predicate.judge at h
  split at h
  · cases h
    cases hholds
  · next field o hfind =>
    refine ⟨field, o, hfind, ?_⟩
    by_cases harity : Vocabulary.stockArity o = .none
    · cases o with
      | isEmpty | isNotEmpty | exists_ | notExists => trivial
      | _ => cases harity
    cases ha : n.present? field.attributeName with
    | none =>
      rw [ha] at h
      cases o with
      | isEmpty | isNotEmpty | exists_ | notExists => trivial
      | _ =>
        cases h
        cases hholds
    | some a =>
      rw [ha, Condition.judge_of_arity harity] at h
      cases hcompare : compareValues a o p.value field.type with
      | ok b => exact reads_of_compareValues hcompare
      | error f =>
        rw [hcompare] at h
        dsimp only at h
        split at h
        · obtain ⟨⟨⟩, -, h⟩ := bind_eq_ok_iff.mp h
          cases h
          cases hholds
        · cases h

namespace Condition

/-! ## Trees of the same shape -/

/-- **Two trees of one shape**, each leaf of the one related to its counterpart in the other. -/
inductive Aligned (R : Predicate → Predicate → Prop) : Condition → Condition → Prop
  | leaf {p q : Predicate} : R p q → Aligned R (leaf p) (leaf q)
  | group {k : Combinator} {cs ds : List Condition} :
    List.Forall₂ (Aligned R) cs ds → Aligned R (group k cs) (group k ds)

section Aligned

variable {R S : Predicate → Predicate → Prop}

mutual

/-- The same two trees, the other way round. -/
theorem Aligned.swap (hRS : ∀ p q, R p q → S q p) :
    ∀ (c : Condition) {d : Condition}, Aligned R c d → Aligned S d c
  | .leaf p, d, h => by
    cases h with
    | leaf hpq => exact .leaf (hRS _ _ hpq)
  | .group k cs, d, h => by
    cases h with
    | group hcs => exact .group (forall₂_swap hRS cs hcs)

theorem forall₂_swap (hRS : ∀ p q, R p q → S q p) :
    ∀ (cs : List Condition) {ds : List Condition}, List.Forall₂ (Aligned R) cs ds →
      List.Forall₂ (Aligned S) ds cs
  | [], ds, h => by
    cases h
    exact .nil
  | c :: cs, ds, h => by
    cases h with
    | cons hfirst hrest => exact .cons (hfirst.swap hRS c) (forall₂_swap hRS cs hrest)

end

end Aligned

/-! ## Groups -/

section Steps

variable {v : Vocabulary} {n : NodeView} {c : Condition} {cs : List Condition} {b : Bool}

/-- An *and* that does not break off: its first child settles it, or the others do. -/
theorem evaluateAll_cons_eq_ok_iff : evaluateAll v n (c :: cs) = .ok b ↔
    c.evaluate v n = .ok true ∧ evaluateAll v n cs = .ok b ∨
      c.evaluate v n = .ok false ∧ b = false := by
  rw [evaluateAll]
  cases c.evaluate v n with
  | error f => simp [bind, Except.bind]
  | ok x => cases x <;> simp [bind, Except.bind, eq_comm]

/-- An *or* likewise. -/
theorem evaluateAny_cons_eq_ok_iff : evaluateAny v n (c :: cs) = .ok b ↔
    c.evaluate v n = .ok true ∧ b = true ∨
      c.evaluate v n = .ok false ∧ evaluateAny v n cs = .ok b := by
  rw [evaluateAny]
  cases c.evaluate v n with
  | error f => simp [bind, Except.bind]
  | ok x => cases x <;> simp [bind, Except.bind, eq_comm]

end Steps

/-! ## Two runs -/

/-- A leaf holds on a node. -/
def Holds (v : Vocabulary) (n : NodeView) (p : Predicate) : Prop :=
  (leaf p).evaluate v n = .ok true

theorem usable_of_holds {v : Vocabulary} {n : NodeView} {p : Predicate} (h : Holds v n p) :
    p.Usable v := by
  rw [Holds, evaluate] at h
  obtain ⟨r, hr, hholds⟩ := bind_eq_ok_iff.mp h
  exact Predicate.usable_of_judge hr (Except.ok.inj hholds)

section TwoRuns

variable {v : Vocabulary} {n m : NodeView}

mutual

/-- **A tree gains when its leaves do.**  The induction is on the tree that holds; of the other one
only the leaves that its own run looks at are asked about. -/
theorem evaluate_mono : ∀ (c : Condition) {d : Condition} {b : Bool},
    Aligned (fun p q => Holds v n p → Holds v m q) c d →
      c.evaluate v n = .ok true → d.evaluate v m = .ok b → b = true
  | leaf p, d, b, h, hc, hd => by
    cases h with
    | leaf hpq =>
      have hq : Holds v m _ := hpq hc
      exact (Except.ok.inj (hq.symm.trans hd)).symm
  | group .all cs, d, b, h, hc, hd => by
    cases h with
    | group hcs =>
      rw [evaluate] at hc hd
      exact evaluateAll_mono cs hcs hc hd
  | group .any cs, d, b, h, hc, hd => by
    cases h with
    | group hcs =>
      rw [evaluate] at hc hd
      exact evaluateAny_mono cs hcs hc hd

theorem evaluateAll_mono : ∀ (cs : List Condition) {ds : List Condition} {b : Bool},
    List.Forall₂ (Aligned fun p q => Holds v n p → Holds v m q) cs ds →
      evaluateAll v n cs = .ok true → evaluateAll v m ds = .ok b → b = true
  | [], ds, b, h, _, hd => by
    cases h
    rw [evaluateAll] at hd
    exact (Except.ok.inj hd).symm
  | c :: cs, ds, b, h, hc, hd => by
    cases h with
    | cons hfirst hrest =>
      obtain ⟨hc, hcs⟩ : c.evaluate v n = .ok true ∧ evaluateAll v n cs = .ok true := by
        simpa using evaluateAll_cons_eq_ok_iff.mp hc
      rcases evaluateAll_cons_eq_ok_iff.mp hd with ⟨-, hds⟩ | ⟨hd, -⟩
      · exact evaluateAll_mono cs hrest hcs hds
      · exact absurd (evaluate_mono c hfirst hc hd) Bool.false_ne_true

theorem evaluateAny_mono : ∀ (cs : List Condition) {ds : List Condition} {b : Bool},
    List.Forall₂ (Aligned fun p q => Holds v n p → Holds v m q) cs ds →
      evaluateAny v n cs = .ok true → evaluateAny v m ds = .ok b → b = true
  | [], ds, b, h, hc, _ => by
    rw [evaluateAny] at hc
    exact absurd (Except.ok.inj hc) Bool.false_ne_true
  | c :: cs, ds, b, h, hc, hd => by
    cases h with
    | cons hfirst hrest =>
      rcases evaluateAny_cons_eq_ok_iff.mp hd with ⟨-, hb⟩ | ⟨hd, hds⟩
      · exact hb
      -- the counterpart of the first child does not hold, so another child settles `cs`
      rcases evaluateAny_cons_eq_ok_iff.mp hc with ⟨hc, -⟩ | ⟨-, hcs⟩
      · exact absurd (evaluate_mono c hfirst hc hd) Bool.false_ne_true
      · exact evaluateAny_mono cs hrest hcs hds

end

end TwoRuns

/-- **Conditions are monotone in their leaves.**  Let two trees of the same shape be evaluated, each
on a node of its own and neither breaking off.  When every leaf that holds on the one node has a
counterpart that holds on the other, the second tree holds if the first does.  So when some leaves
of a tree are replaced by leaves that cannot be used, wherever they stand, a node may cease to match
but none begins to. -/
theorem evaluation_monotone (v : Vocabulary) (n m : NodeView) {c d : Condition} :
    (Aligned (fun p q => Holds v n p → Holds v m q) c d →
      ∀ x y, c.evaluate v n = .ok x → d.evaluate v m = .ok y → x = true → y = true) ∧
    (Aligned (fun p q => q = p ∨ ¬ q.Usable v) c d →
      ∀ x y, c.evaluate v n = .ok x → d.evaluate v n = .ok y → y = true → x = true) := by
  constructor
  · rintro h x y hc hd rfl
    exact evaluate_mono c h hc hd
  · rintro h x y hc hd rfl
    refine evaluate_mono d (Aligned.swap ?_ c h) hd hc
    rintro p q (rfl | hunusable) hq
    · exact hq
    · exact absurd (usable_of_holds hq) hunusable

/-- Of three leaves two are put out of use, one by an unknown field and one by a value that is no
number; the node still matches, and so it did before. -/
theorem evaluation_monotone_two_unusable :
    let country : Predicate := ⟨"link_country", "equals", .str "HK"⟩
    let speed : Predicate := ⟨"speed", "greater_than", .int 5⟩
    let owner : Predicate := ⟨"owner", "equals", .str "me"⟩
    let tooFast : Predicate := ⟨"speed", "greater_than", .str "fast"⟩
    let c := group .any [group .all [leaf speed, leaf country], leaf country]
    let d := group .any [group .all [leaf tooFast, leaf owner], leaf country]
    let n : NodeView := .record { id := "n", linkCountry := .str "HK", speed := .int 3 }
    d.evaluate .standard n = .ok true ∧ ∀ x, c.evaluate .standard n = .ok x → x = true := by
  intro country speed owner tooFast c d n
  have hd : d.evaluate .standard n = .ok true := by decide +kernel
  have howner : ¬ owner.Usable .standard := by
    rintro ⟨field, o, hfind, -⟩
    cases hfind
  have htooFast : ¬ tooFast.Usable .standard := by
    rintro ⟨field, o, hfind, hreads⟩
    cases hfind
    obtain ⟨read, x, hread, hx⟩ := hreads
    cases hread
    cases hx
  have haligned : Aligned (fun p q => q = p ∨ ¬ q.Usable .standard) c d :=
    .group (.cons (.group (.cons (.leaf (Or.inr htooFast)) (.cons (.leaf (Or.inr howner)) .nil)))
      (.cons (.leaf (Or.inl rfl)) .nil))
  exact ⟨hd, fun x hx => (evaluation_monotone .standard n n).2 haligned x true hx hd rfl⟩

end Condition

end DialPlan
