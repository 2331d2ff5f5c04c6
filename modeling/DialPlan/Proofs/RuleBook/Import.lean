import DialPlan.Proofs.RuleBook.Coherence

/-!
# What an import does

An import reads and checks all records, groups their rules by subscription and installs one group
after the other.  `readAll_eq_ok` says what went through the check, `get?_bySubscription` what the
groups are, and `coherent_installAll` that the book is coherent once the last group is in.
-/

namespace DialPlan

/-- A rule that was read has a text for an id. -/
theorem id_of_readRecord {now : DateTime} {w : Value} {r : Rule} (h : readRecord now w = .ok r) :
    ∃ id, r.id = .str id := by
  unfold readRecord at h
  obtain ⟨entries, -, h⟩ := bind_eq_ok_iff.mp h
  split at h
  · cases h
    exact ⟨_, rfl⟩
  all_goals cases h

namespace RuleBook

/-! ## Reading -/

/-- **Records that are taken in** are read one by one; their rules are accepted and have ids of
their own. -/
theorem readAll_eq_ok {now : DateTime} {v : Vocabulary} {seen : List String} {items : List Value}
    {rules : List Rule} (h : readAll now v seen items = .ok rules) :
    List.Forall₂ (fun w r => readRecord now w = .ok r) items rules ∧
      (∀ r ∈ rules, v.Accepts r) ∧ (∀ r ∈ rules, ∃ id, r.id = .str id ∧ id ∉ seen) ∧
      (rules.map (·.id)).Nodup := by
  induction items generalizing seen rules with
  | nil =>
    cases h
    exact ⟨List.Forall₂.nil, by simp, by simp, List.nodup_nil⟩
  | cons w ws ih =>
    simp only [readAll, bind_eq_ok_iff] at h
    obtain ⟨r, hread, h⟩ := h
    split at h
    · obtain ⟨_, hrefused, _⟩ := bind_eq_ok_iff.mp h
      simp at hrefused
    · next hnew =>
      obtain ⟨⟨⟩, haccepts, h⟩ := bind_eq_ok_iff.mp h
      obtain ⟨rest, hrest, h⟩ := bind_eq_ok_iff.mp h
      cases h
      obtain ⟨hforall, hall, hnames, hnodup⟩ := ih hrest
      obtain ⟨id, hid⟩ := id_of_readRecord hread
      rw [hid, Value.text_str] at hnew hnames
      refine ⟨List.Forall₂.cons hread hforall, ?_, ?_, ?_⟩
      · exact List.forall_mem_cons.mpr ⟨Vocabulary.require_eq_ok_iff.mp haccepts, hall⟩
      · refine List.forall_mem_cons.mpr ⟨⟨id, hid, by simpa using hnew⟩, fun r' hr' => ?_⟩
        obtain ⟨id', hid', hseen⟩ := hnames r' hr'
        exact ⟨id', hid', fun hmem => hseen (List.mem_cons_of_mem _ hmem)⟩
      · rw [List.map_cons, List.nodup_cons]
        refine ⟨fun hmem => ?_, hnodup⟩
        obtain ⟨r', hr', heq⟩ := List.mem_map.mp hmem
        obtain ⟨id', hid', hseen⟩ := hnames r' hr'
        rw [hid, hid', Value.str.injEq] at heq
        exact hseen (heq ▸ List.mem_cons_self)

/-! ## Grouping -/

/-- The rules that belong to a subscription. -/
def rulesFor (s : String) (rules : List Rule) : List Rule :=
  rules.filter (·.subscription = s)

/-- One more rule in its group. -/
def joinGroup (t : Table (List Rule)) (r : Rule) : Table (List Rule) :=
  t.put r.subscription ((t.get? r.subscription).getD [] ++ [r])

theorem bySubscription_eq (rules : List Rule) : bySubscription rules = rules.foldl joinGroup [] :=
  rfl

theorem get?_foldl_joinGroup (rules : List Rule) (t : Table (List Rule)) (s : String) :
    (rules.foldl joinGroup t).get? s =
      if rulesFor s rules = [] then t.get? s
      else some ((t.get? s).getD [] ++ rulesFor s rules) := by
  induction rules generalizing t with
  | nil => simp [rulesFor]
  | cons r rules ih =>
    rw [List.foldl_cons, ih, joinGroup, Table.get?_put]
    by_cases hs : s = r.subscription
    · subst hs
      by_cases hrest : rulesFor r.subscription rules = []
      · simp_all [rulesFor]
      · simp_all [rulesFor]
    · have hcons : rulesFor s (r :: rules) = rulesFor s rules := by
        rw [rulesFor, List.filter_cons_of_neg (by simpa using Ne.symm hs)]
        rfl
      rw [hcons, if_neg hs]

/-- **The groups of rules**: the rules of a subscription in the order of their coming, for those
subscriptions that have any. -/
theorem get?_bySubscription (rules : List Rule) (s : String) :
    (bySubscription rules).get? s =
      if rulesFor s rules = [] then none else some (rulesFor s rules) := by
  rw [bySubscription_eq, get?_foldl_joinGroup]
  simp

theorem nodup_keys_bySubscription (rules : List Rule) : (bySubscription rules).keys.Nodup :=
  Table.nodup_keys_foldl (fun _ _ h => Table.nodup_keys_put h _ _) rules List.nodup_nil

/-- **Only ids of replaced subscriptions** are taken over. -/
theorem checkOwners_eq_ok {b : RuleBook} {groups : Table (List Rule)} {rules : List Rule}
    (h : b.checkOwners groups rules = .ok ()) :
    ∀ r ∈ rules, ∀ s, b.owners.get? r.id.text = some s → s ∈ groups.keys := by
  induction rules with
  | nil => simp
  | cons r rules ih =>
    rw [checkOwners] at h
    intro r' hr' s hs
    rcases List.mem_cons.mp hr' with rfl | hmem
    · simp only [hs] at h
      split at h
      · next hgroup =>
        obtain ⟨group, hgroup⟩ := Option.isSome_iff_exists.mp hgroup
        exact Table.mem_keys_iff.mpr ⟨group, hgroup⟩
      · simp at h
    · refine ih ?_ r' hmem s hs
      split at h
      · exact h
      · split at h
        · exact h
        · simp at h

/-! ## Installing a group -/

theorem get?_foldl_disown (s id : String) (ids : List String) (owners : Table String) :
    (ids.foldl (disown s) owners).get? id =
      if id ∈ ids ∧ owners.get? id = some s then none else owners.get? id := by
  induction ids generalizing owners with
  | nil => simp
  | cons first ids ih =>
    have hfirst : (disown s owners first).get? id =
        if id = first ∧ owners.get? id = some s then none else owners.get? id := by
      unfold disown
      by_cases hown : owners.get? first = some s
      · rw [if_pos hown, Table.get?_erase]
        by_cases hid : id = first
        · rw [if_pos hid, if_pos ⟨hid, hid ▸ hown⟩]
        · rw [if_neg hid, if_neg (fun h => hid h.1)]
      · rw [if_neg hown, if_neg]
        rintro ⟨rfl, h⟩
        exact hown h
    rw [List.foldl_cons, ih, hfirst]
    simp only [List.mem_cons]
    by_cases hown : owners.get? id = some s
    · by_cases hid : id = first
      · simp [← hid, hown]
      · simp [hid, hown]
    · simp [hown]

theorem get?_foldl_own (s id : String) (rules : List Rule) (owners : Table String) :
    (rules.foldl (fun owners r => owners.put r.id.text s) owners).get? id =
      if id ∈ rules.map (·.id.text) then some s else owners.get? id := by
  induction rules generalizing owners with
  | nil => simp
  | cons r rules ih =>
    rw [List.foldl_cons, ih, Table.get?_put, List.map_cons]
    simp only [List.mem_cons]
    by_cases hrest : id ∈ rules.map (·.id.text)
    · simp [hrest]
    · by_cases hid : id = r.id.text <;> simp [hrest, hid]

theorem nodup_keys_install {b : RuleBook} (h : b.owners.keys.Nodup) (s : String)
    (rules : List Rule) : (b.install s rules).owners.keys.Nodup := by
  have hleft : ((b.idsOf s).foldl (disown s) b.owners).keys.Nodup := by
    refine Table.nodup_keys_foldl (fun owners id hn => ?_) _ h
    unfold disown
    split
    · exact Table.nodup_keys_erase hn id
    · exact hn
  exact Table.nodup_keys_foldl (fun _ _ hn => Table.nodup_keys_put hn _ _) rules hleft

theorem list_install (b : RuleBook) (s t : String) (rules : List Rule) :
    (b.install s rules).list t = if t = s then rules else b.list t :=
  list_setRules b s t rules

/-- **The owners after a group is in**: its ids belong to its subscription, the old ids of that
subscription to nobody, and all others to whom they belonged. -/
theorem owner_install {b : RuleBook} {s : String} {rules : List Rule}
    (hlisted : ∀ id, b.owners.get? id = some s → Lists (b.list s) id)
    (hold : ∀ r ∈ b.list s, ∃ id, r.id = .str id) (hnew : ∀ r ∈ rules, ∃ id, r.id = .str id)
    (id t : String) :
    (b.install s rules).owners.get? id = some t ↔
      (t = s ∧ Lists rules id) ∨ (t ≠ s ∧ ¬ Lists rules id ∧ b.owners.get? id = some t) := by
  have hget : (b.install s rules).owners.get? id =
      if Lists rules id then some s
      else if b.owners.get? id = some s then none else b.owners.get? id := by
    have hidsOf : b.owners.get? id = some s → id ∈ b.idsOf s := fun hown =>
      (lists_iff_mem_texts hold id).mp (hlisted id hown)
    rw [install, get?_foldl_own, get?_foldl_disown]
    simp only [lists_iff_mem_texts hnew]
    by_cases hown : b.owners.get? id = some s
    · simp [hown, hidsOf hown]
    · simp [hown]
  rw [hget]
  by_cases hlists : Lists rules id
  · simp [hlists, eq_comm]
  · by_cases hown : b.owners.get? id = some s
    · rw [if_neg hlists, if_pos hown, hown]
      simp only [reduceCtorEq, hlists, Option.some.injEq, false_iff]
      rintro (⟨-, hfalse⟩ | ⟨hne, -, heq⟩)
      · exact hfalse
      · exact hne heq.symm
    · rw [if_neg hlists, if_neg hown]
      constructor
      · intro ht
        refine Or.inr ⟨fun heq => hown (heq ▸ ht), hlists, ht⟩
      · rintro (⟨-, hfalse⟩ | ⟨-, -, ht⟩)
        · exact absurd hfalse hlists
        · exact ht

/-! ## Installing all groups -/

theorem map_id_ordered (rules : List Rule) :
    ((ordered rules).map (·.id)).Perm (rules.map (·.id)) := by
  rw [ordered, map_id_renumber]
  exact (List.mergeSort_perm rules _).map _

/-- Rules in the order of their recorded positions are in order. -/
theorem tidy_ordered {v : Vocabulary} {s : String} {rules : List Rule} (h : Sound v s rules) :
    Tidy v s (ordered rules) :=
  (h.perm (List.mergeSort_perm rules _)).tidy_renumber

@[simp] theorem vocabulary_installAll (groups : Table (List Rule)) (b : RuleBook) :
    (b.installAll groups).2.vocabulary = b.vocabulary := by
  induction groups generalizing b with
  | nil => rfl
  | cons e groups ih => exact ih (b.install e.1 (ordered e.2))

/-- **The book is coherent once the last group is in.**  The groups have ids of their own, and take
over ids from one another's subscriptions only. -/
theorem coherent_installAll {groups : Table (List Rule)} {b : RuleBook}
    (h : CoherentBut groups.keys b) (hkeys : groups.keys.Nodup)
    (hsound : ∀ e ∈ groups, Sound b.vocabulary e.1 e.2)
    (hapart : ∀ e ∈ groups, ∀ e' ∈ groups, ∀ id, Lists e.2 id → Lists e'.2 id → e.1 = e'.1)
    (htaken : ∀ e ∈ groups, ∀ id t, Lists e.2 id → b.owners.get? id = some t → t ∈ groups.keys) :
    Coherent (b.installAll groups).2 := by
  induction groups generalizing b with
  | nil => exact h
  | cons e groups ih =>
    obtain ⟨s, rules⟩ := e
    rw [Table.keys_cons, List.nodup_cons] at hkeys
    obtain ⟨hs, hkeys⟩ := hkeys
    have hfirst := hsound _ List.mem_cons_self
    have hids := lists_congr (map_id_ordered rules)
    have howner := owner_install (h.listed · s) (h.tidy s).named (tidy_ordered hfirst).named
    refine ih (b := b.install s (ordered rules)) ?_ hkeys ?_ ?_ ?_
    · refine h.write rfl (Table.nodup_keys_put h.names _ _) (nodup_keys_install h.ownedOnce _ _)
        (fun t => list_install b s t _) (tidy_ordered hfirst) howner ?_
      intro id t hlists hown
      exact htaken _ List.mem_cons_self id t ((hids id).mp hlists) hown
    · exact fun e he => hsound e (List.mem_cons_of_mem _ he)
    · exact fun e he e' he' => hapart e (List.mem_cons_of_mem _ he) e' (List.mem_cons_of_mem _ he')
    · intro e he id t hlists hown
      have hmem := List.mem_cons_of_mem (s, rules) he
      rcases (howner id t).mp hown with ⟨-, hfirstLists⟩ | ⟨hne, -, hold⟩
      · -- an id of the group just installed is no id of a later one
        have heq : s = e.1 :=
          hapart _ List.mem_cons_self e hmem id ((hids id).mp hfirstLists) hlists
        exact absurd (heq ▸ List.mem_map_of_mem (f := (·.1)) he) hs
      · exact (List.mem_cons.mp (htaken e hmem id t hlists hold)).resolve_left hne

/-- **Taking records in keeps a book coherent.** -/
theorem coherent_imported {now : DateTime} {records : Value} {b after : RuleBook}
    {rules : List Rule} (h : Coherent b) (himport : imported now records b = .ok (rules, after)) :
    Coherent after ∧ after.vocabulary = b.vocabulary := by
  simp only [imported, bind_eq_ok_iff] at himport
  obtain ⟨items, -, read, hread, ⟨⟩, howners, himport⟩ := himport
  obtain ⟨-, haccepts, hnames, hnodup⟩ := readAll_eq_ok hread
  -- a group is what was read for its subscription, so its rules are among those checked
  have hgroup : ∀ e ∈ bySubscription read, e.2 = rulesFor e.1 read := by
    intro e he
    have hget := Table.get?_of_mem (nodup_keys_bySubscription read) he
    rw [get?_bySubscription] at hget
    split at hget
    · cases hget
    · exact (Option.some.inj hget).symm
  have hmember : ∀ e ∈ bySubscription read, ∀ id, Lists e.2 id →
      ∃ r ∈ read, r.subscription = e.1 ∧ r.id = .str id := by
    rintro e he id ⟨r, hr, hid⟩
    rw [hgroup e he, rulesFor, List.mem_filter, decide_eq_true_eq] at hr
    exact ⟨r, hr.1, hr.2, hid⟩
  have hafter : after = (b.installAll (bySubscription read)).2 := by
    rw [Except.ok.inj himport]
  rw [hafter]
  refine ⟨coherent_installAll (h.weaken _) (nodup_keys_bySubscription read) ?_ ?_ ?_, by simp⟩
  · intro e he
    rw [hgroup e he]
    exact {
      belongs := fun r hr => by simpa using (List.mem_filter.mp hr).2
      named := fun r hr => by
        obtain ⟨id, hid, -⟩ := hnames r (List.mem_filter.mp hr).1
        exact ⟨id, hid⟩
      distinct := hnodup.sublist (List.filter_sublist.map _)
      accepted := fun r hr => haccepts r (List.mem_filter.mp hr).1 }
  · intro e he e' he' id hlists hlists'
    obtain ⟨r, hr, hs, hid⟩ := hmember e he id hlists
    obtain ⟨r', hr', hs', hid'⟩ := hmember e' he' id hlists'
    rw [← hs, ← hs', List.inj_on_of_nodup_map hnodup hr hr' (hid.trans hid'.symm)]
  · intro e he id t hlists hown
    obtain ⟨r, hr, -, hid⟩ := hmember e he id hlists
    refine checkOwners_eq_ok howners r hr t ?_
    rw [hid, Value.text_str]
    exact hown

end RuleBook

end DialPlan
