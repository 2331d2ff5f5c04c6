import Mathlib.Data.List.Nodup
import Mathlib.Data.List.Perm.Subperm

/-!
# Each once, in the order of first occurrence

Some lists are grown by what they do not have yet: the tags of a text, the nodes of a group that
includes all.  `ListedOnce` says what such a list comes to, without the loop that grows it.  It
leaves nothing open (`ListedOnce.unique`), so two ways of growing a list are compared by what they
list.
-/

namespace DialPlan

/-- **Each once, in the order of first occurrence**: the members of `source` that count, one after
the other as each of them first comes up. -/
structure ListedOnce {α : Type} [BEq α] (counts : α → Prop) (source listed : List α) : Prop where
  mem_iff : ∀ a, a ∈ listed ↔ a ∈ source ∧ counts a
  ordered : listed.Pairwise fun a b => source.idxOf a < source.idxOf b

namespace ListedOnce

variable {α : Type} [BEq α] {counts : α → Prop} {source listed again more : List α} {a : α}

theorem nodup (h : ListedOnce counts source listed) : listed.Nodup :=
  h.ordered.imp fun hlt heq => by
    subst heq
    exact Nat.lt_irrefl _ hlt

/-- **Only one list** has each of them once, in the order of first occurrence. -/
theorem unique (h : ListedOnce counts source listed) (h' : ListedOnce counts source again) :
    listed = again := by
  have hperm : listed.Perm again := (List.perm_ext_iff_of_nodup h.nodup h'.nodup).mpr fun a =>
    (h.mem_iff a).trans (h'.mem_iff a).symm
  exact hperm.eq_of_pairwise (fun _ _ _ _ hab hba => absurd hba (Nat.lt_asymm hab))
    h.ordered h'.ordered

theorem congr {others : α → Prop} (h : ListedOnce counts source listed)
    (hcounts : ∀ a, counts a ↔ others a) : ListedOnce others source listed :=
  (funext fun a => propext (hcounts a) : counts = others) ▸ h

theorem of_none (h : ∀ a ∈ source, ¬ counts a) : ListedOnce counts source [] where
  mem_iff a := iff_of_false List.not_mem_nil fun ha => h a ha.1 ha.2
  ordered := List.Pairwise.nil

variable [LawfulBEq α]

/-- A list without repetitions, all of which counts, is itself. -/
theorem refl (hnodup : source.Nodup) (h : ∀ a ∈ source, counts a) :
    ListedOnce counts source source where
  mem_iff a := ⟨fun ha => ⟨ha, h a ha⟩, And.left⟩
  ordered := List.pairwise_iff_getElem.mpr fun i j hi hj hij => by
    rwa [hnodup.idxOf_getElem i hi, hnodup.idxOf_getElem j hj]

/-! ## One more in front -/

/-- What does not count is passed over. -/
theorem skip (h : ListedOnce counts source listed) (ha : ¬ counts a) :
    ListedOnce counts (a :: source) listed where
  mem_iff b := by
    rw [h.mem_iff, List.mem_cons, or_and_right, or_iff_right]
    rintro ⟨rfl, hb⟩
    exact ha hb
  ordered := h.ordered.imp_of_mem fun {b c} hb hc hlt => by
    have hne : ∀ {d}, d ∈ listed → a ≠ d := by
      rintro d hd rfl
      exact ha ((h.mem_iff a).mp hd).2
    rw [List.idxOf_cons_ne _ (hne hb), List.idxOf_cons_ne _ (hne hc)]
    exact Nat.succ_lt_succ hlt

/-- What counts is listed, and from then on it does not count any more. -/
theorem take (h : ListedOnce (fun b => b ≠ a ∧ counts b) source listed) (ha : counts a) :
    ListedOnce counts (a :: source) (a :: listed) where
  mem_iff b := by
    rw [List.mem_cons, List.mem_cons, h.mem_iff]
    by_cases hb : b = a
    · simp [hb, ha]
    · simp [hb]
  ordered := by
    have hindex : ∀ b ∈ listed, (a :: source).idxOf b = source.idxOf b + 1 := fun b hb =>
      List.idxOf_cons_ne _ ((h.mem_iff b).mp hb).2.1.symm
    refine List.pairwise_cons.mpr ⟨fun b hb => ?_, h.ordered.imp_of_mem fun hb hc hlt => ?_⟩
    · rw [List.idxOf_cons_self, hindex b hb]
      exact Nat.succ_pos _
    · rw [hindex _ hb, hindex _ hc]
      exact Nat.succ_lt_succ hlt

/-! ## More behind -/

/-- **What came up before** adds nothing. -/
theorem append_of_subset (h : ListedOnce counts source listed) (hmore : more ⊆ source) :
    ListedOnce counts (source ++ more) listed where
  mem_iff a := by
    rw [h.mem_iff, List.mem_append, or_iff_left_of_imp fun ha => hmore ha]
  ordered := h.ordered.imp_of_mem fun ha hb hlt => by
    rwa [List.idxOf_append_of_mem ((h.mem_iff _).mp ha).1,
      List.idxOf_append_of_mem ((h.mem_iff _).mp hb).1]

end ListedOnce

/-! ## Erasing repetitions -/

section EraseDups

variable {α : Type} [BEq α] [LawfulBEq α]

/-- **Erasing repetitions** from what counts lists it once. -/
theorem listedOnce_eraseDups (counts : α → Bool) (source : List α) :
    ListedOnce (counts · = true) source (source.filter counts).eraseDups := by
  -- an element that is taken does not count in the rest, so `counts` changes along the list
  induction source generalizing counts with
  | nil => exact .of_none fun _ ha => absurd ha List.not_mem_nil
  | cons a source ih =>
    by_cases ha : counts a = true
    · rw [List.filter_cons_of_pos ha, List.eraseDups_cons, List.filter_filter]
      exact ((ih fun b => !b == a && counts b).congr fun b => by simp).take ha
    · rw [List.filter_cons_of_neg ha]
      exact (ih counts).skip ha

theorem listedOnce_eraseDups_self (source : List α) :
    ListedOnce (fun _ => True) source source.eraseDups := by
  have h := listedOnce_eraseDups (fun _ => true) source
  rw [List.filter_true] at h
  exact h.congr fun _ => iff_of_true rfl trivial

theorem nodup_eraseDups (xs : List α) : xs.eraseDups.Nodup :=
  (listedOnce_eraseDups_self xs).nodup

theorem eraseDups_of_nodup {xs : List α} (h : xs.Nodup) : xs.eraseDups = xs :=
  (listedOnce_eraseDups_self xs).unique (.refl h fun _ _ => trivial)

end EraseDups

end DialPlan
