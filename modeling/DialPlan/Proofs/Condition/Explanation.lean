import DialPlan.Proofs.Condition.Totality
import Mathlib.Data.List.Basic

/-!
# What an explanation depends on

An explanation lists the fields of the leaves that were looked at.  Those fields are all that it
owes to the node: another node that looks alike in them has the very same explanation, whatever else
is different about it (`explain_congr`).  Which leaves are looked at depends on the outcomes of the
leaves before them, so agreement is asked for on the fields that were listed, not on those that the
condition names.
-/

namespace DialPlan

/-- **Two nodes look alike in some fields**: they have the same to show, or both nothing, for the
attribute of each of these fields that the vocabulary knows. -/
def Vocabulary.AlikeIn (v : Vocabulary) (fields : List String) (n m : NodeView) : Prop :=
  ∀ name ∈ fields, ∀ spec, v.fields.get? name = some spec →
    n.attribute? spec.attributeName = m.attribute? spec.attributeName

variable {v : Vocabulary} {n m : NodeView}

theorem Vocabulary.AlikeIn.of_subset {fields more : List String} (h : v.AlikeIn more n m)
    (hsub : fields ⊆ more) : v.AlikeIn fields n m :=
  fun name hname => h name (hsub hname)

@[simp] theorem Explanation.fields_ofVerdict (p : Predicate) (r : Verdict) :
    (Explanation.ofVerdict p r).fields = [p.field] := by
  unfold ofVerdict
  split <;> rfl

/-- A leaf is judged by the attribute of its field, and by nothing else. -/
theorem Predicate.judge_congr {p : Predicate} (h : v.AlikeIn [p.field] n m) :
    p.judge v n = p.judge v m := by
  unfold Predicate.judge
  cases hfind : v.find p with
  | error d => rfl
  | ok found =>
    obtain ⟨spec, o⟩ := found
    have hfield : v.fields.get? p.field = some spec := by
      unfold Vocabulary.find at hfind
      split at hfind
      · cases hfind
      next field hfield =>
      -- whatever is found, it is found for the field of the leaf
      have hsame : field = spec := by
        split at hfind
        · cases hfind
        split at hfind
        · split at hfind
          · cases hfind
          · cases hfind
            rfl
        · cases hfind
      rw [hfield, hsame]
    dsimp only
    rw [NodeView.present?, NodeView.present?, h p.field List.mem_cons_self spec hfield]

namespace Condition

/-! ## What is looked at -/

mutual

/-- **The leaves that were looked at are leaves of the tree**, in their order. -/
theorem fields_sublist : ∀ (c : Condition) {r : Explanation}, c.explain v n = .ok r →
    r.fields.Sublist (c.leaves.map (·.field))
  | leaf p, r, h => by
    rw [explain] at h
    obtain ⟨verdict, -, h⟩ := bind_eq_ok_iff.mp h
    obtain ⟨⟨⟩, -, h⟩ := bind_eq_ok_iff.mp h
    cases h
    rw [Explanation.fields_ofVerdict, leaves_leaf]
    exact List.Sublist.refl _
  | group .all children, r, h => by
    rw [explain] at h
    obtain ⟨⟨value, parts⟩, hparts, h⟩ := bind_eq_ok_iff.mp h
    cases h
    rw [leaves_group]
    exact fields_sublist_all children hparts
  | group .any children, r, h => by
    rw [explain] at h
    obtain ⟨⟨value, parts⟩, hparts, h⟩ := bind_eq_ok_iff.mp h
    cases h
    rw [leaves_group]
    exact fields_sublist_any children hparts

theorem fields_sublist_all : ∀ (cs : List Condition) {value : Bool} {parts : List Explanation},
    explainAll v n cs = .ok (value, parts) →
      (parts.flatMap (·.fields)).Sublist ((leavesOf cs).map (·.field))
  | [], value, parts, h => by
    rw [explainAll] at h
    cases h
    exact List.nil_sublist _
  | c :: cs, value, parts, h => by
    rw [explainAll] at h
    obtain ⟨part, hpart, h⟩ := bind_eq_ok_iff.mp h
    have hfirst := fields_sublist c hpart
    rw [leavesOf_cons, List.map_append]
    split at h
    · obtain ⟨⟨_, rest⟩, hrest, h⟩ := bind_eq_ok_iff.mp h
      cases h
      rw [List.flatMap_cons]
      exact hfirst.append (fields_sublist_all cs hrest)
    · cases h
      rw [List.flatMap_singleton]
      exact hfirst.trans (List.sublist_append_left _ _)

theorem fields_sublist_any : ∀ (cs : List Condition) {value : Bool} {parts : List Explanation},
    explainAny v n cs = .ok (value, parts) →
      (parts.flatMap (·.fields)).Sublist ((leavesOf cs).map (·.field))
  | [], value, parts, h => by
    rw [explainAny] at h
    cases h
    exact List.nil_sublist _
  | c :: cs, value, parts, h => by
    rw [explainAny] at h
    obtain ⟨part, hpart, h⟩ := bind_eq_ok_iff.mp h
    have hfirst := fields_sublist c hpart
    rw [leavesOf_cons, List.map_append]
    split at h
    · cases h
      rw [List.flatMap_singleton]
      exact hfirst.trans (List.sublist_append_left _ _)
    · obtain ⟨⟨_, rest⟩, hrest, h⟩ := bind_eq_ok_iff.mp h
      cases h
      rw [List.flatMap_cons]
      exact hfirst.append (fields_sublist_any cs hrest)

end

/-! ## Two nodes -/

mutual

/-- **A node that looks alike in the listed fields has the same explanation.** -/
theorem explain_congr : ∀ (c : Condition) {r : Explanation}, c.explain v n = .ok r →
    v.AlikeIn r.fields n m → c.explain v m = .ok r
  | leaf p, r, h, halike => by
    rw [explain] at h ⊢
    obtain ⟨verdict, hjudge, h⟩ := bind_eq_ok_iff.mp h
    obtain ⟨⟨⟩, hquoted, h⟩ := bind_eq_ok_iff.mp h
    cases h
    rw [Explanation.fields_ofVerdict] at halike
    rw [← Predicate.judge_congr halike, hjudge, ok_bind, hquoted, ok_bind]
  | group .all children, r, h, halike => by
    rw [explain] at h ⊢
    obtain ⟨⟨value, parts⟩, hparts, h⟩ := bind_eq_ok_iff.mp h
    cases h
    rw [explainAll_congr children hparts halike]
    rfl
  | group .any children, r, h, halike => by
    rw [explain] at h ⊢
    obtain ⟨⟨value, parts⟩, hparts, h⟩ := bind_eq_ok_iff.mp h
    cases h
    rw [explainAny_congr children hparts halike]
    rfl

theorem explainAll_congr : ∀ (cs : List Condition) {value : Bool} {parts : List Explanation},
    explainAll v n cs = .ok (value, parts) → v.AlikeIn (parts.flatMap (·.fields)) n m →
      explainAll v m cs = .ok (value, parts)
  | [], value, parts, h, _ => by
    rw [explainAll] at h ⊢
    exact h
  | c :: cs, value, parts, h, halike => by
    rw [explainAll] at h ⊢
    obtain ⟨part, hpart, h⟩ := bind_eq_ok_iff.mp h
    split at h
    · next hholds =>
      obtain ⟨⟨_, rest⟩, hrest, h⟩ := bind_eq_ok_iff.mp h
      cases h
      rw [List.flatMap_cons] at halike
      rw [explain_congr c hpart (halike.of_subset (List.subset_append_left _ _)), ok_bind,
        if_pos hholds, explainAll_congr cs hrest (halike.of_subset (List.subset_append_right _ _))]
      rfl
    · next hfails =>
      cases h
      rw [List.flatMap_singleton] at halike
      rw [explain_congr c hpart halike, ok_bind, if_neg hfails]

theorem explainAny_congr : ∀ (cs : List Condition) {value : Bool} {parts : List Explanation},
    explainAny v n cs = .ok (value, parts) → v.AlikeIn (parts.flatMap (·.fields)) n m →
      explainAny v m cs = .ok (value, parts)
  | [], value, parts, h, _ => by
    rw [explainAny] at h ⊢
    exact h
  | c :: cs, value, parts, h, halike => by
    rw [explainAny] at h ⊢
    obtain ⟨part, hpart, h⟩ := bind_eq_ok_iff.mp h
    split at h
    · next hholds =>
      cases h
      rw [List.flatMap_singleton] at halike
      rw [explain_congr c hpart halike, ok_bind, if_pos hholds]
    · next hfails =>
      obtain ⟨⟨_, rest⟩, hrest, h⟩ := bind_eq_ok_iff.mp h
      cases h
      rw [List.flatMap_cons] at halike
      rw [explain_congr c hpart (halike.of_subset (List.subset_append_left _ _)), ok_bind,
        if_neg hfails, explainAny_congr cs hrest (halike.of_subset (List.subset_append_right _ _))]
      rfl

end

end Condition

end DialPlan
