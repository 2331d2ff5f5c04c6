import DialPlan.Proofs.FirstOccurrence
import DialPlan.Proofs.RuleBook.Isolation

/-!
# Orders of a subscription

The rules of a subscription can be put in any order of their ids, and in no other: a row of ids is
taken exactly when it is a permutation of the ids there are (`reorder_exact`).  The book does not
compare the two rows; it asks which ids are missing, which are too many and which come up twice.  As
no two rules have the same id, the three answers are empty for permutations only
(`perm_iff_eq_nil`), and else they are what a refusal reports.

`OrderedBy` says what becomes of the rules.  It leaves nothing open (`OrderedBy.unique`) and does
not remember the order before (`OrderedBy.trans`), so of orders given one after the other only the
last one counts (`reorder_reorder`).
-/

namespace DialPlan

/-! ## Sets of ids -/

/-- **A set of ids as it is reported**: in ascending order, each of them once. -/
structure SortedSetOf (ids : List String) (belongs : String → Prop) : Prop where
  ascending : ids.Pairwise (· ≤ ·)
  once : ids.Nodup
  mem : ∀ id, id ∈ ids ↔ belongs id

/-- **Rules put in the order of ids**: they have these ids one after the other, and each is one of
the rules there were, in all parts but its position, which is its place. -/
structure OrderedBy (ids : List String) (rules sorted : List Rule) : Prop where
  texts : sorted.map (·.id.text) = ids
  placed : ∀ (i : Nat) (r : Rule), sorted[i]? = some r →
    ∃ old ∈ rules, r = { old with position := i }

namespace RuleBook

variable {b : RuleBook} {s : String} {ids current : List String} {given : Value}
  {items : List Value}

theorem sortedSetOf_sortedSet (ids : List String) : SortedSetOf (sortedSet ids) (· ∈ ids) where
  ascending := pairwise_mergeSort_key (fun id : String => id) _
  once := (List.mergeSort_perm _ _).nodup_iff.mpr (nodup_eraseDups ids)
  mem id := by rw [sortedSet, List.mem_mergeSort, List.mem_eraseDups]

theorem sortedSetOf_without (ids others : List String) :
    SortedSetOf (without ids others) fun id => id ∈ ids ∧ id ∉ others :=
  { sortedSetOf_sortedSet _ with
    mem := fun id => by
      rw [without, (sortedSetOf_sortedSet _).mem, List.mem_filter]
      simp }

theorem sortedSetOf_repeated (ids : List String) :
    SortedSetOf (repeated ids) fun id => 1 < ids.count id :=
  { sortedSetOf_sortedSet _ with
    mem := fun id => by
      rw [repeated, (sortedSetOf_sortedSet _).mem, List.mem_filter, decide_eq_true_eq,
        and_iff_right_iff_imp]
      exact fun hcount => List.count_pos_iff.mp (Nat.lt_of_succ_lt hcount) }

/-- **A row of ids is a permutation** of distinct ones exactly when none is missing, too many or
repeated. -/
theorem perm_iff (h : current.Nodup) :
    ids.Perm current ↔ current ⊆ ids ∧ ids ⊆ current ∧ ids.Nodup := by
  constructor
  · intro hperm
    exact ⟨hperm.symm.subset, hperm.subset, hperm.nodup_iff.mpr h⟩
  · rintro ⟨hmissing, hextra, hnodup⟩
    exact (List.perm_ext_iff_of_nodup hnodup h).mpr fun id =>
      ⟨fun hid => hextra hid, fun hid => hmissing hid⟩

/-- The three answers are empty for permutations only. -/
theorem perm_iff_eq_nil (h : current.Nodup) :
    ids.Perm current ↔ without current ids = [] ∧ without ids current = [] ∧ repeated ids = [] := by
  rw [perm_iff h, without_eq_nil_iff, without_eq_nil_iff, repeated_eq_nil_iff]

end RuleBook

/-! ## Rules in the order of ids -/

namespace OrderedBy

variable {v : Vocabulary} {s : String} {ids later : List String} {rules sorted again : List Rule}

/-- **An order leaves nothing open.** -/
theorem unique (h : OrderedBy ids rules sorted) (h' : OrderedBy ids rules again)
    (hrules : Sound v s rules) : sorted = again := by
  have hlength : sorted.length = again.length := by
    rw [← List.length_map (f := (·.id.text)), h.texts, ← h'.texts, List.length_map]
  refine List.ext_getElem hlength fun i hi hi' => ?_
  obtain ⟨old, hold, hr⟩ := h.placed i sorted[i] (List.getElem?_eq_getElem hi)
  obtain ⟨old', hold', hr'⟩ := h'.placed i again[i] (List.getElem?_eq_getElem hi')
  have htext : old.id.text = old'.id.text := by
    have hids : (sorted.map (·.id.text))[i]? = (again.map (·.id.text))[i]? := by
      rw [h.texts, h'.texts]
    rw [List.getElem?_map, List.getElem?_map, List.getElem?_eq_getElem hi,
      List.getElem?_eq_getElem hi', hr, hr'] at hids
    exact Option.some.inj hids
  have hid := RuleBook.id_eq_of_text_eq (hrules.named old' hold') (hrules.named old hold) htext
  rw [hr, hr', hrules.eq_of_id_eq hold hold' hid]

/-- **An order does not remember** the one before it. -/
theorem trans (h : OrderedBy ids rules sorted) (h' : OrderedBy later sorted again) :
    OrderedBy later rules again where
  texts := h'.texts
  placed i r hr := by
    obtain ⟨mid, hmid, rfl⟩ := h'.placed i r hr
    obtain ⟨j, hj⟩ := List.mem_iff_getElem?.mp hmid
    obtain ⟨old, hold, rfl⟩ := h.placed j mid hj
    exact ⟨old, hold, rfl⟩

end OrderedBy

namespace RuleBook

variable {v : Vocabulary} {b : RuleBook} {s : String} {ids : List String} {given : Value}
  {items : List Value}

/-- Rules that are looked up one by one and numbered anew are in the order of their ids. -/
theorem orderedBy_renumber {rules : List Rule} {texts : List String}
    (h : ∀ id ∈ texts, Lists rules id) :
    OrderedBy texts rules (renumber (inOrderOf rules texts)) where
  texts := by
    have htext : ∀ some : List Rule, some.map (·.id.text) = (some.map (·.id)).map Value.text := by
      intro some
      rw [List.map_map]
      rfl
    rw [htext, map_id_renumber, map_id_inOrderOf h, List.map_map]
    exact List.map_id texts
  placed i r hr := by
    rw [getElem?_renumber, Option.map_eq_some_iff] at hr
    obtain ⟨old, hold, rfl⟩ := hr
    exact ⟨old, mem_of_mem_inOrderOf (List.mem_of_getElem? hold), rfl⟩

/-! ## Reordering -/

/-- Of two lists that are written for a subscription, the last one counts. -/
theorem setRules_setRules (b : RuleBook) (s : String) (rules others : List Rule) :
    (b.setRules s rules).setRules s others = b.setRules s others := by
  rw [setRules, setRules, setRules, Table.put_put]

section Reorder

variable (h : Coherent b) (hitems : Node.itemsOf given = .ok items)
  (hids : Value.asTexts items = .ok ids)
include h hitems hids

/-- **A permutation is written down.** -/
theorem reorder_of_perm (hperm : ids.Perm (b.idsOf s)) :
    ∃ rules, b.reorder s given = (.ok rules, b.setRules s rules) ∧
      OrderedBy ids (b.list s) rules := by
  obtain ⟨hmissing, hextra, hrepeated⟩ := (perm_iff_eq_nil (nodup_idsOf h s)).mp hperm
  refine ⟨renumber (inOrderOf (b.list s) ids), attempt_of_ok ?_,
    orderedBy_renumber fun id hid => ?_⟩
  · rw [reordered, hitems, ok_bind, hids, Outcome.ofFault_ok, ok_bind]
    simp only [hmissing, hextra, hrepeated, List.isEmpty_nil, Bool.and_self, if_true]
  · exact (lists_iff_mem_texts (h.tidy s).named id).mpr (hperm.subset hid)

/-- **Anything else is refused** with what is wrong about it. -/
theorem reorder_of_not_perm (hperm : ¬ ids.Perm (b.idsOf s)) :
    b.reorder s given =
      (Outcome.refuse (.orderMismatch (without (b.idsOf s) ids) (without ids (b.idsOf s))
        (repeated ids) s), b) := by
  refine attempt_of_error ?_
  rw [reordered, hitems, ok_bind, hids, Outcome.ofFault_ok, ok_bind]
  refine if_neg fun hempty => hperm ((perm_iff_eq_nil (nodup_idsOf h s)).mpr ?_)
  simpa only [Bool.and_eq_true, List.isEmpty_iff, and_assoc] using hempty

/-- **An earlier order does not matter**, whether it was taken or refused. -/
theorem reorder_reorder (hperm : ids.Perm (b.idsOf s)) (earlier : Value) :
    (b.reorder s earlier).2.reorder s given = b.reorder s given := by
  obtain ⟨rules, hreorder, hrules⟩ := reorder_of_perm h hitems hids hperm
  rcases attempt_cases b (reordered s earlier) with ⟨mid, after, hok, heq⟩ | ⟨f, -, heq⟩
  · obtain ⟨-, before, -, -, hmissing, hextra, hnodup, rfl, rfl⟩ := reordered_eq_ok hok
    have hcoherent := (Keeps.reorder h s earlier).1
    change b.reorder s earlier = _ at heq
    rw [heq] at hcoherent ⊢
    have hmid : OrderedBy before (b.list s) (renumber (inOrderOf (b.list s) before)) :=
      orderedBy_renumber fun id hid => (lists_iff_mem_texts (h.tidy s).named id).mpr (hextra hid)
    have hfirst : before.Perm (b.idsOf s) :=
      (perm_iff (nodup_idsOf h s)).mpr ⟨hmissing, hextra, hnodup⟩
    obtain ⟨again, hagain, hsorted⟩ := reorder_of_perm (s := s) hcoherent hitems hids (by
      rw [idsOf, list_setRules, if_pos rfl, hmid.texts]
      exact hperm.trans hfirst.symm)
    rw [list_setRules, if_pos rfl] at hsorted
    rw [hagain, hreorder, setRules_setRules,
      (hmid.trans hsorted).unique hrules (h.tidy s).toSound]
  · change b.reorder s earlier = _ at heq
    rw [heq]

end Reorder

/-- **The orders of a subscription are the permutations of its ids.**  In a book that a run led to,
a row of ids is taken exactly when it is one.  Then the rules are in the order of the ids, whatever
order was given before, and all other subscriptions are as they were.  Anything else is refused,
with the ids that are missing, too many or repeated, and the book stays as it was.  A row with an id
that cannot be put into words breaks off, and the book stays as it was then, too. -/
theorem reorder_exact (h : Reachable v b) (s : String) (hitems : Node.itemsOf given = .ok items) :
    (∀ f, Value.asTexts items = .error f → b.reorder s given = (.error (.fault f), b)) ∧
    ∀ ids, Value.asTexts items = .ok ids →
      let after := (b.reorder s given).2
      ((∃ rules, (b.reorder s given).1 = .ok rules) ↔ ids.Perm (b.idsOf s)) ∧
      (ids.Perm (b.idsOf s) →
        (b.reorder s given).1 = .ok (after.list s) ∧ OrderedBy ids (b.list s) (after.list s) ∧
        (∀ t, t ≠ s → Untouched t b after) ∧
        ∀ earlier, (b.reorder s earlier).2.reorder s given = b.reorder s given) ∧
      (¬ ids.Perm (b.idsOf s) → ∃ missing extra duplicates,
        b.reorder s given = (Outcome.refuse (.orderMismatch missing extra duplicates s), b) ∧
        SortedSetOf missing (fun id => id ∈ b.idsOf s ∧ id ∉ ids) ∧
        SortedSetOf extra (fun id => id ∈ ids ∧ id ∉ b.idsOf s) ∧
        SortedSetOf duplicates (fun id => 1 < ids.count id) ∧
        ¬ (missing = [] ∧ extra = [] ∧ duplicates = [])) := by
  have hb := h.keeps.1
  refine ⟨fun f hf => attempt_of_error ?_, fun ids hids => ?_⟩
  · rw [reordered, hitems, ok_bind, hf, Outcome.ofFault_error, error_bind]
  refine ⟨⟨?_, fun hperm => ?_⟩, fun hperm => ?_, fun hperm => ?_⟩
  · rintro ⟨rules, hok⟩
    by_contra hperm
    rw [reorder_of_not_perm hb hitems hids hperm] at hok
    exact Outcome.refuse_ne_ok hok
  · obtain ⟨rules, hreorder, -⟩ := reorder_of_perm hb hitems hids hperm
    exact ⟨rules, congrArg Prod.fst hreorder⟩
  · obtain ⟨rules, hreorder, hrules⟩ := reorder_of_perm hb hitems hids hperm
    have hlist : (b.reorder s given).2.list s = rules := by
      rw [hreorder, list_setRules, if_pos rfl]
    refine ⟨?_, hlist ▸ hrules, fun t ht => ?_, reorder_reorder hb hitems hids hperm⟩
    · rw [hlist, hreorder]
    · exact untouched_of_list hb (Keeps.reorder hb s given).1 (list_reorder given (Ne.symm ht))
  · exact ⟨_, _, _, reorder_of_not_perm hb hitems hids hperm, sortedSetOf_without _ _,
      sortedSetOf_without _ _, sortedSetOf_repeated _,
      mt (perm_iff_eq_nil (nodup_idsOf hb s)).mpr hperm⟩

/-- An order that repeats an id is refused; the one that does not is taken. -/
theorem reorder_exact_two_rules :
    let draft : Draft := { subscription := "a", target := .holds .all }
    let requests : List Request := [.create default draft, .create default draft]
    let b := requests.foldl (fun b q => (b.perform q).2)
      { vocabulary := .standard, ids := { given := ["x", "y"] } }
    let given : Value := .list [.str "y", .str "x"]
    let repeating : Value := .list [.str "y", .str "y", .str "z"]
    Reachable .standard b ∧ b.idsOf "a" = ["x", "y"] ∧
      OrderedBy ["y", "x"] (b.list "a") ((b.reorder "a" given).2.list "a") ∧
      ∃ missing extra duplicates, b.reorder "a" repeating =
        (Outcome.refuse (.orderMismatch missing extra duplicates "a"), b) := by
  intro draft requests b given repeating
  have hids : b.idsOf "a" = ["x", "y"] := by
    subst b requests draft
    decide +kernel
  have hreachable : Reachable .standard b :=
    Reachable.foldl (Reachable.empty { given := ["x", "y"] }) requests
  have htexts : Value.asTexts [.str "y", .str "x"] = .ok ["y", "x"] := by decide +kernel
  have hagain : Value.asTexts [.str "y", .str "y", .str "z"] = .ok ["y", "y", "z"] := by
    decide +kernel
  have hgiven : Node.itemsOf given = .ok [.str "y", .str "x"] := rfl
  have hrepeating : Node.itemsOf repeating = .ok [.str "y", .str "y", .str "z"] := rfl
  have htaken := ((reorder_exact hreachable "a" hgiven).2 _ htexts).2.1 (by
    rw [hids]
    decide)
  have hrefused := ((reorder_exact hreachable "a" hrepeating).2 _ hagain).2.2 (by
    rw [hids]
    decide)
  obtain ⟨missing, extra, duplicates, heq, -⟩ := hrefused
  exact ⟨hreachable, hids, htaken.2.1, missing, extra, duplicates, heq⟩

end RuleBook

end DialPlan
