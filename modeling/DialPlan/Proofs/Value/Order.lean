import DialPlan.Proofs.Outcome
import DialPlan.Value.Order

/-!
# Values without an order

Comparing goes wrong in one way only: the two values have no common order, which is a matter of
their kinds.  So sorting breaks off with a fault of type, however deep the two values stand.
-/

namespace DialPlan.Value

/-- **Values are out of order by their kinds only.** -/
theorem kind_of_precedes (v w : Value) {f : Fault} (h : precedes v w = .error f) :
    f.kind = .type := by
  revert f
  -- a sequence is compared by its items, down to two values that have no order
  apply precedes.induct (fun v w => ∀ {f}, precedes v w = .error f → f.kind = .type)
    (fun vs ws => ∀ {f}, precedesItems vs ws = .error f → f.kind = .type)
  case case1 | case4 | case5 | case12 | case13 =>
    intros
    contradiction
  case case2 | case3 => exact fun _ _ ih => ih
  case case6 =>
    intro a b hoffsets f h
    rw [precedes, if_pos hoffsets] at h
    cases h
  case case7 =>
    intro a b hoffsets f h
    rw [precedes, if_neg hoffsets] at h
    cases h
    rfl
  case case8 | case9 =>
    intro a b f h
    cases h
    rfl
  case case10 =>
    intro v w _ _ _ _ _ _ _ _ a b hw hv f h
    rw [precedes, hv, hw] at h
    · cases h
    all_goals assumption
  case case11 =>
    intro v w _ _ _ _ _ _ _ _ hnone f h
    rw [precedes] at h
    · split at h
      · next hv hw => exact (hnone _ _ hv hw).elim
      · cases h
        rfl
    all_goals assumption
  case case14 =>
    intro v vs w ws hsame ih f h
    rw [precedesItems, if_pos hsame] at h
    exact ih h
  case case15 =>
    intro v vs w ws hsame ih f h
    rw [precedesItems, if_neg hsame] at h
    exact ih h

theorem kind_of_insertBehind {v : Value} {ws : List Value} {f : Fault}
    (h : insertBehind v ws = .error f) : f.kind = .type := by
  induction ws with
  | nil => cases h
  | cons w ws ih =>
    rcases bind_eq_error_iff.mp h with h | ⟨before, -, h⟩
    · exact kind_of_precedes v w h
    · split at h
      · exact ih (map_eq_error_iff.mp h)
      · cases h

/-- **A list that cannot be sorted** holds values of kinds that have no common order. -/
theorem kind_of_sorted {vs : List Value} {f : Fault} (h : sorted vs = .error f) :
    f.kind = .type := by
  have hfold : ∀ acc, vs.foldlM (fun acc v => insertBehind v acc) acc = .error f →
      f.kind = .type := by
    clear h
    induction vs with
    | nil => intro acc h; cases h
    | cons v vs ih =>
      intro acc h
      rw [List.foldlM_cons] at h
      rcases bind_eq_error_iff.mp h with h | ⟨acc', -, h⟩
      · exact kind_of_insertBehind h
      · exact ih acc' h
  rcases bind_eq_error_iff.mp h with h | ⟨acc, -, h⟩
  · exact hfold [] h
  · cases h

end DialPlan.Value
