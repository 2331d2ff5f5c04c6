import DialPlan.Proofs.Outcome
import DialPlan.RuleBook.Exchange

/-!
# What a change writes

For every change of a rule book: when it goes through, and what the book is then.  Proofs about
changes start from these statements; the checks that a change makes stand in them as hypotheses that
its success gives.
-/

namespace DialPlan.RuleBook

variable {b after : RuleBook}

/-- **A change either goes through, or leaves the book as it was.** -/
theorem attempt_cases {α : Type} (b : RuleBook) (change : RuleBook → Outcome (α × RuleBook)) :
    (∃ a after, change b = .ok (a, after) ∧ b.attempt change = (.ok a, after)) ∨
      ∃ f, change b = .error f ∧ b.attempt change = (.error f, b) := by
  cases h : change b with
  | error f => exact Or.inr ⟨f, rfl, attempt_of_error h⟩
  | ok p => exact Or.inl ⟨p.1, p.2, rfl, attempt_of_ok h⟩

/-! ## Look-ups -/

theorem owner_eq_ok {id s : String} {asked : Option String} (h : b.owner id asked = .ok s) :
    b.owners.get? id = some s := by
  unfold owner at h
  split at h
  · simp at h
  · next found hfound =>
    rw [hfound]
    split at h
    · cases h
      rfl
    · split at h
      · cases h
        rfl
      · simp at h

theorem find_eq_ok {s id : String} {r : Rule} (h : b.find s id = .ok r) :
    r ∈ b.list s ∧ r.id = .str id := by
  unfold find at h
  split at h
  · next found hfound =>
    cases h
    exact ⟨List.mem_of_find?_eq_some hfound, by simpa using List.find?_some hfound⟩
  · simp at h

/-! ## The rules of a subscription after a write -/

@[simp] theorem owners_setRules (b : RuleBook) (s : String) (rules : List Rule) :
    (b.setRules s rules).owners = b.owners := rfl

theorem list_setRules (b : RuleBook) (s t : String) (rules : List Rule) :
    (b.setRules s rules).list t = if t = s then rules else b.list t := by
  unfold list setRules
  by_cases h : t = s
  · rw [h, Table.get?_put_self, if_pos rfl, Option.getD_some]
  · rw [Table.get?_put_of_ne _ _ (Ne.symm h), if_neg h]

/-! ## Single rules -/

/-- **Appending** puts the new rule, which is accepted, behind the others. -/
theorem append_eq_ok {now : DateTime} {d : Draft} {id : String} {r : Rule}
    (h : append now d id b = .ok (r, after)) :
    ∃ chain, d.chain.items = .ok chain ∧
      r = d.toRule id (b.list d.subscription).length chain now ∧
      b.vocabulary.Accepts r ∧
      after = { b.setRules d.subscription (b.list d.subscription ++ [r]) with
        owners := b.owners.put id d.subscription } := by
  simp only [append, bind_eq_ok_iff, Outcome.ofFault_eq_ok_iff] at h
  obtain ⟨chain, hchain, ⟨⟩, haccepts, h⟩ := h
  cases h
  exact ⟨chain, hchain, rfl, Vocabulary.require_eq_ok_iff.mp haccepts, rfl⟩

/-- **Updating** replaces a rule by an accepted one, which keeps its id, its subscription and its
position. -/
theorem updated_eq_ok {now : DateTime} {id : String} {p : Patch} {asked : Option String} {r : Rule}
    (h : updated now id p asked b = .ok (r, after)) :
    ∃ s chain current, b.owners.get? id = some s ∧ current ∈ b.list s ∧ current.id = .str id ∧
      r = p.applyTo chain now current ∧ b.vocabulary.Accepts r ∧ after = b.replace s r := by
  simp only [updated, bind_eq_ok_iff, Outcome.ofFault_eq_ok_iff] at h
  obtain ⟨-, -, chain, -, h⟩ := h
  split at h
  · obtain ⟨a, ha, -⟩ := bind_eq_ok_iff.mp h
    simp at ha
  · simp only [bind_eq_ok_iff] at h
    obtain ⟨s, howner, current, hfind, ⟨⟩, haccepts, h⟩ := h
    cases h
    obtain ⟨hmem, hid⟩ := find_eq_ok hfind
    exact ⟨s, chain, current, owner_eq_ok howner, hmem, hid, rfl,
      Vocabulary.require_eq_ok_iff.mp haccepts, rfl⟩

/-- **Switching** replaces a rule by itself with the switch turned. -/
theorem switched_eq_ok {now : DateTime} {id : String} {asked : Option String} {r : Rule}
    (h : switched now id asked b = .ok (r, after)) :
    ∃ s current, b.owners.get? id = some s ∧ current ∈ b.list s ∧ current.id = .str id ∧
      r = { current with enabled := .bool (!current.isEnabled), updated := now } ∧
      after = b.replace s r := by
  simp only [switched, bind_eq_ok_iff] at h
  obtain ⟨s, howner, current, hfind, h⟩ := h
  cases h
  obtain ⟨hmem, hid⟩ := find_eq_ok hfind
  exact ⟨s, current, owner_eq_ok howner, hmem, hid, rfl, rfl⟩

/-- **Removing** takes the rule of an id out and numbers the others anew. -/
theorem removed_eq_ok {id : String} {asked : Option String} {r : Rule}
    (h : removed id asked b = .ok (r, after)) :
    ∃ s, b.owners.get? id = some s ∧ r ∈ b.list s ∧ r.id = .str id ∧
      after = { b.setRules s (renumber ((b.list s).filter (·.id ≠ .str id))) with
        owners := b.owners.erase id } := by
  simp only [removed, bind_eq_ok_iff] at h
  obtain ⟨s, howner, current, hfind, h⟩ := h
  cases h
  obtain ⟨hmem, hid⟩ := find_eq_ok hfind
  exact ⟨s, owner_eq_ok howner, hmem, hid, rfl⟩

/-! ## Orders -/

theorem sortedSet_eq_nil_iff {ids : List String} : sortedSet ids = [] ↔ ids = [] := by
  rw [sortedSet, ← List.length_eq_zero_iff, List.length_mergeSort, List.length_eq_zero_iff]
  cases ids with
  | nil => simp
  | cons id ids => simp [List.eraseDups_cons]

theorem without_eq_nil_iff {ids others : List String} : without ids others = [] ↔ ids ⊆ others := by
  rw [without, sortedSet_eq_nil_iff, List.filter_eq_nil_iff]
  exact forall₂_congr fun id _ => by simp

theorem repeated_eq_nil_iff {ids : List String} : repeated ids = [] ↔ ids.Nodup := by
  rw [repeated, sortedSet_eq_nil_iff, List.filter_eq_nil_iff, List.nodup_iff_count]
  constructor
  · intro h id
    by_cases hmem : id ∈ ids
    · simpa using h id hmem
    · rw [List.count_eq_zero.mpr hmem]
      exact Nat.zero_le 1
  · intro h id _
    simpa using h id

/-- **Reordering** goes through for a repetition-free list of exactly the ids there are. -/
theorem reordered_eq_ok {s : String} {given : Value} {rules : List Rule}
    (h : reordered s given b = .ok (rules, after)) :
    ∃ items ids, Node.itemsOf given = .ok items ∧ Value.asTexts items = .ok ids ∧
      b.idsOf s ⊆ ids ∧ ids ⊆ b.idsOf s ∧ ids.Nodup ∧
      rules = renumber (inOrderOf (b.list s) ids) ∧ after = b.setRules s rules := by
  simp only [reordered, bind_eq_ok_iff, Outcome.ofFault_eq_ok_iff] at h
  obtain ⟨ids, ⟨items, hitems, hids⟩, h⟩ := h
  split at h
  · next hfits =>
    cases h
    simp only [Bool.and_eq_true, List.isEmpty_iff, without_eq_nil_iff, repeated_eq_nil_iff]
      at hfits
    obtain ⟨⟨hmissing, hextra⟩, hnodup⟩ := hfits
    exact ⟨items, ids, hitems, hids, hmissing, hextra, hnodup, rfl, rfl⟩
  · simp at h

end DialPlan.RuleBook
