import DialPlan.Proofs.Number.Digits
import DialPlan.RuleBook.Basic
import Mathlib.Data.List.Nodup
import Mathlib.Data.List.Perm.Subperm

/-!
# Fresh ids

An id source never gives out an id that is taken.  Among the numbered ids there is always a free one
close by: different numbers have different ids, so a list of taken ids cannot hold more of them in a
row than it is long.
-/

namespace DialPlan.IdSource

/-- Different numbers have different ids. -/
theorem numbered_injective : Function.Injective numbered := by
  intro m n h
  have hdigits : decimalDigits m = decimalDigits n := by
    simpa [numbered, decimalDigits] using congrArg String.toList h
  exact decimalDigits_injective hdigits

/-- The search ends at a free number, or has met a taken one at each of its `fuel` places. -/
theorem firstFree_free_or_exhausted (taken : List String) :
    ∀ fuel n, numbered (firstFree taken fuel n) ∉ taken ∨
      (firstFree taken fuel n = n + fuel ∧ ∀ k < fuel, numbered (n + k) ∈ taken) := by
  intro fuel
  induction fuel with
  | zero =>
    intro n
    exact Or.inr ⟨rfl, fun k hk => absurd hk (Nat.not_lt_zero k)⟩
  | succ fuel ih =>
    intro n
    rw [firstFree]
    split
    · next htaken =>
      rcases ih (n + 1) with hfree | ⟨hend, hall⟩
      · exact Or.inl hfree
      · refine Or.inr ⟨by omega, fun k hk => ?_⟩
        cases k with
        | zero => simpa using htaken
        | succ k =>
          rw [show n + (k + 1) = n + 1 + k by omega]
          exact hall k (by omega)
    · next hfree => exact Or.inl (by simpa using hfree)

/-- **A search as long as the list of taken ids ends at a free number.** -/
theorem numbered_firstFree_not_mem (taken : List String) (n : Nat) :
    numbered (firstFree taken taken.length n) ∉ taken := by
  rcases firstFree_free_or_exhausted taken taken.length n with hfree | ⟨hend, hall⟩
  · exact hfree
  · -- one more taken number would make more distinct taken ids than the list has places
    intro htaken
    rw [hend] at htaken
    let row := (List.range (taken.length + 1)).map fun k => numbered (n + k)
    have hrow : row.Nodup := by
      refine List.Nodup.map ?_ List.nodup_range
      intro i j hij
      exact Nat.add_left_cancel (numbered_injective hij)
    have hsub : row ⊆ taken := by
      intro id hid
      obtain ⟨k, hk, rfl⟩ := List.mem_map.mp hid
      rcases Nat.lt_succ_iff_lt_or_eq.mp (List.mem_range.mp hk) with hlt | rfl
      · exact hall k hlt
      · exact htaken
    have hlen := (hrow.subperm hsub).length_le
    simp only [row, List.length_map, List.length_range] at hlen
    omega

/-- **A fresh id is not taken.** -/
theorem fresh_not_mem (s : IdSource) (taken : List String) : (s.fresh taken).1 ∉ taken := by
  unfold fresh
  split
  · next id rest hdrop =>
    have hhead := List.head?_dropWhile_not taken.contains s.given
    rw [hdrop] at hhead
    simpa using hhead
  · exact numbered_firstFree_not_mem taken (s.last + 1)

end DialPlan.IdSource
