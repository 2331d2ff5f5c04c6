import DialPlan.Proofs.RuleBook.FreshId
import DialPlan.Proofs.RuleBook.Import

/-!
# Changes keep a book coherent

One lemma for every change of a rule book.  Each says that a coherent book is coherent again
afterwards, whether the change went through or was refused.

A change of one rule writes a list with the same ids (`CoherentBut.rewrite`); the others write the
owners as well and come from `CoherentBut.write`.
-/

namespace DialPlan.RuleBook

/-! ## Rules in the order of ids -/

/-- The rules of ids that are all there have those ids, in that order. -/
theorem map_id_inOrderOf {rules : List Rule} {ids : List String} (h : ∀ id ∈ ids, Lists rules id) :
    (inOrderOf rules ids).map (·.id) = ids.map Value.str := by
  induction ids with
  | nil => rfl
  | cons id ids ih =>
    obtain ⟨hid, hids⟩ := List.forall_mem_cons.mp h
    cases hfound : rules.find? (·.id = .str id) with
    | none =>
      obtain ⟨r, hr, heq⟩ := hid
      exact absurd heq (by simpa using List.find?_eq_none.mp hfound r hr)
    | some r =>
      have hr : r.id = .str id := by simpa using List.find?_some hfound
      have hcons : inOrderOf rules (id :: ids) = r :: inOrderOf rules ids := by
        simp only [inOrderOf, List.filterMap_cons, hfound]
      rw [hcons, List.map_cons, List.map_cons, hr, ih hids]

theorem mem_of_mem_inOrderOf {rules : List Rule} {ids : List String} {r : Rule}
    (h : r ∈ inOrderOf rules ids) : r ∈ rules := by
  obtain ⟨id, -, hfound⟩ := List.mem_filterMap.mp h
  exact List.mem_of_find?_eq_some hfound

/-! ## Keeping -/

/-- A book that is coherent and still has its vocabulary. -/
def Keeps (b after : RuleBook) : Prop := Coherent after ∧ after.vocabulary = b.vocabulary

theorem Coherent.empty (v : Vocabulary) (ids : IdSource) :
    Coherent { vocabulary := v, ids } where
  names := List.nodup_nil
  ownedOnce := List.nodup_nil
  tidy s := Tidy.nil v s
  listed id s h := by cases h
  owned s _ r hr := by cases hr

namespace Keeps

variable {b after : RuleBook}

theorem refl (h : Coherent b) : Keeps b b := ⟨h, rfl⟩

theorem trans {mid : RuleBook} (h : Keeps b mid) (h' : Keeps mid after) : Keeps b after :=
  ⟨h'.1, h'.2.trans h.2⟩

/-- Where ids come from does not matter. -/
theorem supplied (h : Coherent b) (ids : IdSource) : Keeps b { b with ids } :=
  ⟨⟨h.names, h.ownedOnce, h.tidy, h.listed, h.owned⟩, rfl⟩

/-- A change that may fail keeps what it keeps when it goes through. -/
theorem attempt {α : Type} {change : RuleBook → Outcome (α × RuleBook)} (h : Coherent b)
    (hchange : ∀ a after, change b = .ok (a, after) → Keeps b after) :
    Keeps b (b.attempt change).2 := by
  rcases attempt_cases b change with ⟨a, after, hok, heq⟩ | ⟨f, -, heq⟩
  · rw [heq]
    exact hchange a after hok
  · rw [heq]
    exact refl h

/-! ## Adding -/

theorem append {now : DateTime} {d : Draft} {id : String} {r : Rule} (h : Coherent b)
    (hfresh : id ∉ b.owners.keys) (hok : append now d id b = .ok (r, after)) : Keeps b after := by
  obtain ⟨chain, -, hr, haccepts, rfl⟩ := append_eq_ok hok
  have hid : r.id = .str id := by rw [hr]; rfl
  have hunowned := Table.get?_eq_none_iff.mpr hfresh
  have hnew : ∀ r' ∈ b.list d.subscription, r'.id ≠ .str id := by
    intro r' hr' hid'
    have howned := (h.owner_iff id d.subscription).mpr ⟨r', hr', hid'⟩
    rw [hunowned] at howned
    cases howned
  have htidy : Tidy b.vocabulary d.subscription (b.list d.subscription ++ [r]) :=
    (h.tidy d.subscription).append hid hnew (by rw [hr]; rfl) (by rw [hr]; rfl) haccepts
  have hlists : ∀ id', Lists (b.list d.subscription ++ [r]) id' ↔
      Lists (b.list d.subscription) id' ∨ id' = id := by
    intro id'
    rw [lists_iff, lists_iff, List.map_append, List.mem_append, List.map_singleton,
      List.mem_singleton, hid, Value.str.injEq]
  refine ⟨(h.weaken [d.subscription]).write rfl (Table.nodup_keys_put h.names _ _)
    (Table.nodup_keys_put h.ownedOnce _ _) (fun t => list_setRules b d.subscription t _) htidy
    ?_ ?_, rfl⟩
  -- the new id gets its first owner, any other keeps the one it has
  · intro id' t
    rw [Table.get?_put, hlists, ← h.owner_iff]
    by_cases heq : id' = id
    · subst heq
      simp [hunowned, eq_comm]
    · simp only [heq, if_false, or_false]
      constructor
      · intro hown
        by_cases hs : t = d.subscription
        · exact Or.inl ⟨hs, hs ▸ hown⟩
        · exact Or.inr ⟨hs, fun hs' => hs (Option.some.inj (hown.symm.trans hs')), hown⟩
      · rintro (⟨rfl, hown⟩ | ⟨-, -, hown⟩)
        · exact hown
        · exact hown
  · intro id' t hmem hown
    rcases (hlists id').mp hmem with hold | rfl
    · rw [← h.owner_iff, hown] at hold
      rw [Option.some.inj hold]
      exact List.mem_cons_self
    · rw [hunowned] at hown
      cases hown

theorem create (h : Coherent b) (now : DateTime) (d : Draft) : Keeps b (b.create now d).2 := by
  unfold RuleBook.create
  split
  · exact refl h
  · have hsupplied := supplied h (b.ids.fresh b.owners.keys).2
    refine hsupplied.trans (attempt hsupplied.1 fun r after hok => ?_)
    exact append hsupplied.1 (IdSource.fresh_not_mem b.ids b.owners.keys) hok

/-! ## Changing -/

/-- A rule takes the place of the one of its id. -/
theorem replace {s : String} {r current : Rule} (h : Coherent b) (hmem : current ∈ b.list s)
    (hid : r.id = current.id) (hs : r.subscription = current.subscription)
    (hposition : r.position = current.position) (haccepts : b.vocabulary.Accepts r) :
    Keeps b (b.replace s r) := by
  refine ⟨CoherentBut.rewrite h ((h.tidy s).replace hmem hid hs hposition haccepts) ?_, rfl⟩
  exact lists_congr (by rw [map_id_replace])

theorem update (h : Coherent b) (now : DateTime) (id : String) (p : Patch)
    (subscription : Option String) : Keeps b (b.update now id p subscription).2 := by
  refine attempt h fun r after hok => ?_
  obtain ⟨s, chain, current, -, hmem, -, rfl, haccepts, rfl⟩ := updated_eq_ok hok
  exact replace h hmem rfl rfl rfl haccepts

theorem toggle (h : Coherent b) (now : DateTime) (id : String) (subscription : Option String) :
    Keeps b (b.toggle now id subscription).2 := by
  refine attempt h fun r after hok => ?_
  obtain ⟨s, current, -, hmem, -, rfl, rfl⟩ := switched_eq_ok hok
  have haccepts := (h.tidy s).accepted current hmem
  exact replace h hmem rfl rfl rfl (Vocabulary.accepts_switched haccepts _ now)

/-! ## Removing -/

theorem delete (h : Coherent b) (id : String) (subscription : Option String) :
    Keeps b (b.delete id subscription).2 := by
  refine attempt h fun r after hok => ?_
  obtain ⟨s, howner, -, -, rfl⟩ := removed_eq_ok hok
  have htidy : Tidy b.vocabulary s (renumber ((b.list s).filter (·.id ≠ .str id))) :=
    ((h.tidy s).toSound.sublist List.filter_sublist).tidy_renumber
  have hlists : ∀ id', Lists (renumber ((b.list s).filter (·.id ≠ .str id))) id' ↔
      id' ≠ id ∧ b.owners.get? id' = some s := by
    intro id'
    rw [h.owner_iff, lists_renumber]
    constructor
    · rintro ⟨r', hr', hid'⟩
      obtain ⟨hmem, hne⟩ := List.mem_filter.mp hr'
      refine ⟨?_, r', hmem, hid'⟩
      rintro rfl
      exact (decide_eq_true_eq.mp hne) hid'
    · rintro ⟨hne, r', hmem, hid'⟩
      refine ⟨r', List.mem_filter.mpr ⟨hmem, ?_⟩, hid'⟩
      rw [decide_eq_true_eq, hid', Ne, Value.str.injEq]
      exact hne
  refine ⟨(h.weaken [s]).write rfl (Table.nodup_keys_put h.names _ _)
    (Table.nodup_keys_erase h.ownedOnce id) (fun t => list_setRules b s t _) htidy ?_ ?_, rfl⟩
  · intro id' t
    rw [Table.get?_erase, hlists]
    by_cases hid' : id' = id
    · -- the removed id had the one owner `s`
      subst hid'
      rw [howner]
      simp [eq_comm]
    · simp only [hid', if_false, ne_eq, not_false_eq_true, true_and]
      by_cases ht : t = s
      · simp [ht]
      · simp only [ht, false_and, false_or, not_false_eq_true, true_and]
        constructor
        · intro hown
          rw [hown, Option.some.injEq]
          exact ⟨ht, rfl⟩
        · exact fun hown => hown.2
  · intro id' t hlisted hown
    rw [hlists, hown] at hlisted
    rw [Option.some.inj hlisted.2]
    exact List.mem_cons_self

theorem deleteSubscription (h : Coherent b) (s : String) :
    Keeps b (b.deleteSubscription s).2 := by
  have howners : (b.deleteSubscription s).2.owners = (b.idsOf s).foldl Table.erase b.owners := by
    rw [idsOf, List.foldl_map]
    rfl
  have hlist : ∀ t, (b.deleteSubscription s).2.list t = if t = s then [] else b.list t := by
    intro t
    show ((b.rules.erase s).get? t).getD [] = _
    rw [Table.get?_erase]
    by_cases ht : t = s
    · rw [if_pos ht, if_pos ht]
      rfl
    · rw [if_neg ht, if_neg ht]
      rfl
  have hnone : ∀ id, ¬ Lists [] id := by
    rintro id ⟨r, hr, -⟩
    cases hr
  refine ⟨(h.weaken [s]).write rfl (Table.nodup_keys_erase h.names s) ?_ hlist
    (Tidy.nil b.vocabulary s) ?_ ?_, rfl⟩
  · rw [howners]
    exact Table.nodup_keys_foldl (fun _ id hn => Table.nodup_keys_erase hn id) _ h.ownedOnce
  · intro id t
    have hids : id ∈ b.idsOf s ↔ b.owners.get? id = some s := by
      rw [h.owner_iff, lists_iff_mem_texts (h.tidy s).named]
      rfl
    rw [howners, Table.get?_foldl_erase]
    by_cases hown : b.owners.get? id = some s
    · rw [if_pos (hids.mpr hown), hown]
      simp [hnone, eq_comm]
    · rw [if_neg (hown ∘ hids.mp)]
      simp only [hnone, and_false, not_false_eq_true, true_and, false_or]
      constructor
      · intro ht
        exact ⟨fun heq => hown (heq ▸ ht), ht⟩
      · exact fun ht => ht.2
  · intro id t hlists
    exact absurd hlists (hnone id)

/-! ## Reordering and importing -/

theorem reorder (h : Coherent b) (s : String) (given : Value) : Keeps b (b.reorder s given).2 := by
  refine attempt h fun rules after hok => ?_
  obtain ⟨items, ids, -, -, hall, hknown, hnodup, rfl, rfl⟩ := reordered_eq_ok hok
  have hids : ∀ id, id ∈ ids ↔ Lists (b.list s) id := by
    intro id
    rw [lists_iff_mem_texts (h.tidy s).named]
    exact ⟨fun hid => hknown hid, fun hid => hall hid⟩
  have hmap := map_id_inOrderOf fun id hid => (hids id).mp hid
  have hsound : Sound b.vocabulary s (inOrderOf (b.list s) ids) := {
    belongs := fun r hr => (h.tidy s).belongs r (mem_of_mem_inOrderOf hr)
    named := fun r hr => (h.tidy s).named r (mem_of_mem_inOrderOf hr)
    distinct := by
      rw [hmap]
      exact hnodup.map fun _ _ heq => Value.str.inj heq
    accepted := fun r hr => (h.tidy s).accepted r (mem_of_mem_inOrderOf hr) }
  refine ⟨CoherentBut.rewrite h hsound.tidy_renumber fun id => ?_, rfl⟩
  rw [← hids, lists_renumber, lists_iff, hmap]
  exact List.mem_map_of_injective fun _ _ heq => Value.str.inj heq

theorem importRecords (h : Coherent b) (now : DateTime) (records : Value) :
    Keeps b (b.importRecords now records).2 :=
  attempt h fun _ _ hok => coherent_imported h hok

end Keeps

end DialPlan.RuleBook
