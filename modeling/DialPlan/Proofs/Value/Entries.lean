import DialPlan.Value.Basic
import Mathlib.Data.List.Induction

/-!
# Look-ups in dictionaries

What setting, merging and filtering do to the value under a text key.  Keys are compared as data,
but a text is the same as no other value (`Value.same_str_iff`), so entries under other keys are out
of the way of a text key.
-/

namespace DialPlan

theorem Value.same_str_iff {v : Value} {s : String} : v.same (.str s) = true ↔ v = .str s := by
  cases v <;> simp [Value.same, Value.quantity?]

theorem Value.str_same_iff {v : Value} {s : String} :
    (Value.str s).same v = true ↔ v = .str s := by
  cases v with
  | str t => simpa [Value.same] using eq_comm
  | _ => simp [Value.same, Value.quantity?]

namespace Entries

/-- **Setting the value under a key changes what is under that key.** -/
theorem get?_put_key (entries : Entries) (key v : Value) (name : String) :
    (entries.put key v).get? name = if key = .str name then some v else entries.get? name := by
  induction entries with
  | nil => rw [put, get?_cons, get?_nil]
  | cons e entries ih =>
    obtain ⟨k, w⟩ := e
    rw [put]
    split
    · next hsame =>
      rw [get?_cons, get?_cons]
      by_cases hkey : key = .str name
      · subst hkey
        rw [if_pos (Value.same_str_iff.mp hsame), if_pos rfl]
      · have hk : k ≠ .str name := by
          rintro rfl
          exact hkey (Value.str_same_iff.mp hsame)
        rw [if_neg hk, if_neg hkey, if_neg hk]
    · next hsame =>
      rw [get?_cons, get?_cons, ih]
      by_cases hk : k = .str name
      · rw [if_pos hk, if_pos hk, if_neg]
        rintro rfl
        exact hsame (Value.same_str_iff.mpr hk)
      · rw [if_neg hk, if_neg hk]

theorem get?_put (entries : Entries) (name other : String) (v : Value) :
    (entries.put (.str name) v).get? other =
      if other = name then some v else entries.get? other := by
  rw [get?_put_key]
  simp only [Value.str.injEq, eq_comm]

/-- **A second dictionary goes before the first.** -/
theorem get?_merge (entries more : Entries) (name : String) :
    (merge entries more).get? name = ((merge [] more).get? name).or (entries.get? name) := by
  induction more using List.reverseRecOn with
  | nil => rfl
  | append_singleton more e ih =>
    have hlast : ∀ acc : Entries, merge acc (more ++ [e]) = (merge acc more).put e.1 e.2 :=
      fun acc => List.foldl_append
    rw [hlast, hlast, get?_put_key, get?_put_key, ih]
    split <;> simp

/-- Dropping entries under other keys is of no consequence. -/
theorem get?_filter {p : Value × Value → Bool} (entries : Entries) {name : String}
    (h : ∀ v, p (.str name, v) = true) : get? (entries.filter p) name = entries.get? name := by
  induction entries with
  | nil => rfl
  | cons e entries ih =>
    obtain ⟨k, v⟩ := e
    rw [get?_cons, List.filter_cons]
    by_cases hk : k = .str name
    · subst hk
      rw [if_pos (h v), get?_cons, if_pos rfl, if_pos rfl]
    · rw [if_neg hk]
      split
      · rw [get?_cons, if_neg hk, ih]
      · exact ih

end Entries

end DialPlan
