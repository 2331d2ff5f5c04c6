import DialPlan.Proofs.RuleBook.Run
import Mathlib.Data.List.Perm.Basic

/-!
# What an import replaces

An import goes through exactly when its records are *importable*: all of them are read, their rules
are accepted and have ids of their own, and no id has to be taken from a subscription that no record
mentions.  Then every subscription that is mentioned has the rules that were read for it, in their
recorded order, and no other subscription has changed (`import_replaces`).

The groups are installed one after the other, and an id may move between two of them in either
direction.  That the order of the groups does not matter comes from coherence: after the import an
id is owned where it is listed, and what is listed depends on the groups alone.
-/

namespace DialPlan

/-! ## Sorting by a key -/

section Key

variable {α β : Type} [LE β] [DecidableLE β] [Std.IsLinearPreorder β] (key : α → β)

theorem key_le_trans (a b c : α) (hab : decide (key a ≤ key b) = true)
    (hbc : decide (key b ≤ key c) = true) : decide (key a ≤ key c) = true := by
  rw [decide_eq_true_eq] at hab hbc ⊢
  exact Std.le_trans hab hbc

theorem key_le_total (a b : α) : (decide (key a ≤ key b) || decide (key b ≤ key a)) = true := by
  rw [Bool.or_eq_true, decide_eq_true_eq, decide_eq_true_eq]
  exact Std.le_total

theorem pairwise_mergeSort_key (items : List α) :
    (items.mergeSort fun a b => key a ≤ key b).Pairwise fun a b => key a ≤ key b :=
  (List.pairwise_mergeSort (key_le_trans key) (key_le_total key) items).imp of_decide_eq_true

/-- Items that are in order whichever way they stand are not moved past one another. -/
theorem filter_mergeSort_key {p : α → Bool} {items : List α}
    (hp : ∀ a b, p a = true → p b = true → key a ≤ key b) :
    (items.mergeSort fun a b => key a ≤ key b).filter p = items.filter p := by
  have hordered : (items.filter p).Pairwise fun a b => decide (key a ≤ key b) = true := by
    refine List.pairwise_of_forall_mem_list fun a ha b hb => decide_eq_true ?_
    exact hp a b (List.mem_filter.mp ha).2 (List.mem_filter.mp hb).2
  have hsub := (List.sublist_mergeSort (key_le_trans key) (key_le_total key) hordered
    List.filter_sublist).filter p
  rw [List.filter_filter] at hsub
  simp only [Bool.and_self] at hsub
  have hperm := (List.mergeSort_perm items fun a b => decide (key a ≤ key b)).filter p
  exact (hsub.eq_of_length hperm.length_eq.symm).symm

end Key

/-! ## Recorded order -/

/-- **The recorded order of rules**: by position, and those of one position as they came. -/
structure InRecordedOrder (rules sorted : List Rule) : Prop where
  perm : sorted.Perm rules
  ascending : sorted.Pairwise fun r r' => r.position ≤ r'.position
  stable : ∀ i : Int, sorted.filter (·.position = i) = rules.filter (·.position = i)

namespace RuleBook

/-- Rules sorted by their positions. -/
def byPosition (rules : List Rule) : List Rule :=
  rules.mergeSort fun r r' => r.position ≤ r'.position

theorem ordered_eq (rules : List Rule) : ordered rules = renumber (byPosition rules) := rfl

theorem byPosition_inRecordedOrder (rules : List Rule) :
    InRecordedOrder rules (byPosition rules) where
  perm := List.mergeSort_perm rules _
  ascending := pairwise_mergeSort_key Rule.position rules
  stable i := by
    refine filter_mergeSort_key Rule.position fun r r' hr hr' => ?_
    exact Int.le_of_eq ((of_decide_eq_true hr).trans (of_decide_eq_true hr').symm)

/-- Where no two rules have one position, only which rules there are matters. -/
theorem byPosition_congr {rules others : List Rule} (hperm : rules.Perm others)
    (hdistinct : (rules.map (·.position)).Nodup) : byPosition rules = byPosition others := by
  have hrules := byPosition_inRecordedOrder rules
  have hothers := byPosition_inRecordedOrder others
  have hsame := (hrules.perm.trans hperm).trans hothers.perm.symm
  refine hsame.eq_of_pairwise (fun r r' hr hr' hle hge => ?_) hrules.ascending hothers.ascending
  have hmem : r ∈ rules := hrules.perm.mem_iff.mp hr
  have hmem' : r' ∈ rules := hperm.mem_iff.mpr (hothers.perm.mem_iff.mp hr')
  exact List.inj_on_of_nodup_map hdistinct hmem hmem' (Int.le_antisymm hle hge)

/-! ## Importable records -/

/-- **Records that a book takes in**, and the rules that they are read as. -/
structure Importable (now : DateTime) (b : RuleBook) (items : List Value) (rules : List Rule) :
    Prop where
  read : List.Forall₂ (fun w r => readRecord now w = .ok r) items rules
  accepted : ∀ r ∈ rules, b.vocabulary.Accepts r
  distinct : (rules.map (·.id)).Nodup
  /-- An id that is owned is owned by a subscription that is replaced. -/
  available : ∀ r ∈ rules, ∀ id s, r.id = .str id → b.owners.get? id = some s →
    s ∈ rules.map (·.subscription)

theorem exists_of_forall₂ {α β : Type} {R : α → β → Prop} {as : List α} {bs : List β}
    (h : List.Forall₂ R as bs) : ∀ a ∈ as, ∃ b ∈ bs, R a b := by
  induction h with
  | nil => exact fun a ha => absurd ha List.not_mem_nil
  | @cons a b as bs hab _ ih =>
    refine List.forall_mem_cons.mpr ⟨⟨b, List.mem_cons_self, hab⟩, fun a' ha' => ?_⟩
    obtain ⟨b', hb', hab'⟩ := ih a' ha'
    exact ⟨b', List.mem_cons_of_mem b hb', hab'⟩

theorem named_of_read {now : DateTime} {items : List Value} {rules : List Rule}
    (h : List.Forall₂ (fun w r => readRecord now w = .ok r) items rules) :
    ∀ r ∈ rules, ∃ id, r.id = .str id := by
  have hflip : List.Forall₂ (fun r w => readRecord now w = .ok r) rules items := h.flip
  intro r hr
  obtain ⟨w, -, hread⟩ := exists_of_forall₂ hflip r hr
  exact id_of_readRecord hread

/-- Rules of one text are rules of one id. -/
theorem id_eq_of_text_eq {r r' : Rule} (hr : ∃ id, r.id = .str id) (hr' : ∃ id, r'.id = .str id)
    (htext : r'.id.text = r.id.text) : r'.id = r.id := by
  obtain ⟨id, hid⟩ := hr
  obtain ⟨id', hid'⟩ := hr'
  rw [hid, hid', Value.text_str, Value.text_str] at htext
  rw [hid, hid', htext]

theorem readAll_of_forall₂ {now : DateTime} {v : Vocabulary} {seen : List String}
    {items : List Value} {rules : List Rule}
    (hread : List.Forall₂ (fun w r => readRecord now w = .ok r) items rules)
    (haccepts : ∀ r ∈ rules, v.Accepts r) (hnew : ∀ r ∈ rules, r.id.text ∉ seen)
    (hdistinct : (rules.map (·.id)).Nodup) : readAll now v seen items = .ok rules := by
  induction hread generalizing seen with
  | nil => rfl
  | @cons w r items rules hw hread ih =>
    obtain ⟨haccept, haccepts⟩ := List.forall_mem_cons.mp haccepts
    obtain ⟨hr, hnew⟩ := List.forall_mem_cons.mp hnew
    rw [List.map_cons, List.nodup_cons] at hdistinct
    have hrest : readAll now v (r.id.text :: seen) items = .ok rules := by
      refine ih haccepts (fun r' hr' => ?_) hdistinct.2
      rw [List.mem_cons, not_or]
      refine ⟨fun htext => ?_, hnew r' hr'⟩
      have hid := id_eq_of_text_eq (id_of_readRecord hw) (named_of_read hread r' hr') htext
      exact hdistinct.1 (List.mem_map.mpr ⟨r', hr', hid⟩)
    simp only [readAll, hw, ok_bind]
    rw [if_neg (by simpa using hr), Vocabulary.require_eq_ok_iff.mpr haccept, hrest]
    rfl

theorem checkOwners_of_available {b : RuleBook} {groups : Table (List Rule)} {rules : List Rule}
    (h : ∀ r ∈ rules, ∀ s, b.owners.get? r.id.text = some s → s ∈ groups.keys) :
    b.checkOwners groups rules = .ok () := by
  induction rules with
  | nil => rfl
  | cons r rules ih =>
    obtain ⟨hr, hrules⟩ := List.forall_mem_cons.mp h
    rw [checkOwners]
    cases hown : b.owners.get? r.id.text with
    | none => exact ih hrules
    | some s =>
      obtain ⟨group, hgroup⟩ := Table.mem_keys_iff.mp (hr s hown)
      simp only [hgroup, Option.isSome_some, if_true]
      exact ih hrules

/-- The groups are those of the subscriptions that are mentioned. -/
theorem mem_keys_bySubscription_iff {rules : List Rule} {s : String} :
    s ∈ (bySubscription rules).keys ↔ s ∈ rules.map (·.subscription) := by
  rw [Table.mem_keys_iff, List.mem_map]
  simp only [get?_bySubscription]
  constructor
  · rintro ⟨group, hgroup⟩
    split at hgroup
    · cases hgroup
    · next hne =>
      obtain ⟨r, hr⟩ := List.exists_mem_of_ne_nil _ hne
      obtain ⟨hmem, hs⟩ := List.mem_filter.mp hr
      exact ⟨r, hmem, of_decide_eq_true hs⟩
  · rintro ⟨r, hr, rfl⟩
    have hne : rulesFor r.subscription rules ≠ [] :=
      List.ne_nil_of_mem (List.mem_filter.mpr ⟨hr, decide_eq_true rfl⟩)
    exact ⟨rulesFor r.subscription rules, if_neg hne⟩

/-- **An import goes through exactly for importable records**, and then installs the groups. -/
theorem imported_eq_ok_iff {now : DateTime} {b : RuleBook} {items : List Value}
    {answer : List Rule × RuleBook} :
    imported now (.list items) b = .ok answer ↔
      ∃ rules, Importable now b items rules ∧ answer = b.installAll (bySubscription rules) := by
  constructor
  · intro h
    simp only [imported, bind_eq_ok_iff] at h
    obtain ⟨_, hitems, rules, hread, ⟨⟩, howners, h⟩ := h
    cases hitems
    obtain ⟨hforall, haccepts, hnames, hnodup⟩ := readAll_eq_ok hread
    refine ⟨rules, ⟨hforall, haccepts, hnodup, ?_⟩, (Except.ok.inj h).symm⟩
    intro r hr id s hid hown
    refine mem_keys_bySubscription_iff.mp (checkOwners_eq_ok howners r hr s ?_)
    rw [hid, Value.text_str]
    exact hown
  · rintro ⟨rules, h, rfl⟩
    have hread : readAll now b.vocabulary [] items = .ok rules :=
      readAll_of_forall₂ h.read h.accepted (fun _ _ => List.not_mem_nil) h.distinct
    have howners : b.checkOwners (bySubscription rules) rules = .ok () := by
      refine checkOwners_of_available fun r hr s hown => ?_
      obtain ⟨id, hid⟩ := named_of_read h.read r hr
      rw [hid, Value.text_str] at hown
      exact mem_keys_bySubscription_iff.mpr (h.available r hr id s hid hown)
    show (readAll now b.vocabulary [] items >>= fun rules =>
      b.checkOwners (bySubscription rules) rules >>= fun _ =>
        .ok (b.installAll (bySubscription rules))) = _
    rw [hread, ok_bind, howners, ok_bind]

/-! ## What is listed and owned afterwards -/

theorem list_installAll {groups : Table (List Rule)} {b : RuleBook} (hkeys : groups.keys.Nodup)
    (s : String) :
    (b.installAll groups).2.list s = ((groups.get? s).map ordered).getD (b.list s) := by
  induction groups generalizing b with
  | nil => rfl
  | cons e groups ih =>
    obtain ⟨t, group⟩ := e
    rw [Table.keys_cons, List.nodup_cons] at hkeys
    show ((b.install t (ordered group)).installAll groups).2.list s = _
    rw [ih hkeys.2, Table.get?_cons]
    by_cases hs : t = s
    · subst hs
      rw [Table.get?_eq_none_iff.mpr hkeys.1, if_pos rfl]
      show (b.install t (ordered group)).list t = ordered group
      rw [list_install, if_pos rfl]
    · rw [if_neg hs, list_install, if_neg (Ne.symm hs)]

/-- **The rules of every subscription after an import.** -/
theorem list_installAll_bySubscription (b : RuleBook) (rules : List Rule) (s : String) :
    (b.installAll (bySubscription rules)).2.list s =
      if s ∈ rules.map (·.subscription) then ordered (rulesFor s rules) else b.list s := by
  rw [list_installAll (nodup_keys_bySubscription rules)]
  by_cases hmem : s ∈ rules.map (·.subscription)
  · obtain ⟨group, hgroup⟩ := Table.mem_keys_iff.mp (mem_keys_bySubscription_iff.mpr hmem)
    have hrules : group = rulesFor s rules := by
      rw [get?_bySubscription] at hgroup
      split at hgroup
      · cases hgroup
      · exact (Option.some.inj hgroup).symm
    rw [if_pos hmem, hgroup, hrules]
    rfl
  · have hnone := Table.get?_eq_none_iff.mpr (hmem ∘ mem_keys_bySubscription_iff.mp)
    rw [if_neg hmem, hnone]
    rfl

section Answers

variable {b : RuleBook} {id s t : String}

theorem get_of_unowned (h : b.owners.get? id = none) (asked : Option String) :
    b.get id asked = Outcome.refuse (.ruleMissing id asked) := by
  rw [get, owner, h]
  rfl

theorem get_of_owner (h : b.owners.get? id = some s) : b.get id (some s) = b.get id none := by
  rw [get, get, owner, owner, h]
  dsimp only
  rw [if_pos rfl]

theorem get_of_other_owner (h : b.owners.get? id = some s) (hne : s ≠ t) :
    b.get id (some t) = Outcome.refuse (.ruleElsewhere id (some t)) := by
  rw [get, owner, h]
  dsimp only
  rw [if_neg hne]
  rfl

end Answers

/-- **What an import leaves behind**, given the rules that were read. -/
structure Replaces (b : RuleBook) (rules : List Rule) (after : RuleBook) : Prop where
  /-- A subscription that is mentioned has the rules read for it, in their recorded order and
  numbered anew; they are as they were read in all other parts. -/
  mentioned : ∀ s ∈ rules.map (·.subscription), ∃ sorted,
    InRecordedOrder (rulesFor s rules) sorted ∧ after.list s = renumber sorted
  unmentioned : ∀ s, s ∉ rules.map (·.subscription) → after.list s = b.list s
  /-- What was in a subscription that is mentioned, and was not read again, is gone. -/
  gone : ∀ id s asked, b.owners.get? id = some s → s ∈ rules.map (·.subscription) →
    (∀ r ∈ rules, r.id ≠ .str id) →
    after.get id asked = Outcome.refuse (.ruleMissing id asked)
  /-- What was read is found in its subscription, and nowhere else, wherever it was before. -/
  found : ∀ r ∈ rules, ∀ id, r.id = .str id →
    (∃ i : Nat, after.get id none = .ok { r with position := i } ∧
      after.get id (some r.subscription) = .ok { r with position := i }) ∧
    ∀ t, t ≠ r.subscription → after.get id (some t) = Outcome.refuse (.ruleElsewhere id (some t)) ∧
      ¬ Lists (after.list t) id

section Import

variable {now : DateTime} {b : RuleBook} {items : List Value} {rules : List Rule}

theorem importRecords_of_importable (h : Importable now b items rules) :
    b.importRecords now (.list items) =
      (.ok (b.installAll (bySubscription rules)).1,
        (b.installAll (bySubscription rules)).2) :=
  attempt_of_ok (imported_eq_ok_iff.mpr ⟨rules, h, rfl⟩)

theorem list_of_importable (h : Importable now b items rules) (s : String) :
    (b.importRecords now (.list items)).2.list s =
      if s ∈ rules.map (·.subscription) then ordered (rulesFor s rules) else b.list s := by
  rw [importRecords_of_importable h, list_installAll_bySubscription]

/-- A rule that was read stands in its subscription, with a position of its own. -/
theorem mem_list_of_importable (h : Importable now b items rules) {r : Rule} (hr : r ∈ rules) :
    ∃ i : Nat,
      { r with position := i } ∈ (b.importRecords now (.list items)).2.list r.subscription := by
  have hmem : r ∈ byPosition (rulesFor r.subscription rules) := by
    rw [(byPosition_inRecordedOrder _).perm.mem_iff]
    exact List.mem_filter.mpr ⟨hr, decide_eq_true rfl⟩
  obtain ⟨i, hi⟩ := List.mem_iff_getElem?.mp hmem
  refine ⟨i, ?_⟩
  rw [list_of_importable h, if_pos (List.mem_map_of_mem hr), ordered_eq, mem_renumber]
  exact ⟨i, r, hi, rfl⟩

/-- And what stands in a subscription that is mentioned was read for it. -/
theorem exists_of_mem_list {s : String} (h : Importable now b items rules)
    (hs : s ∈ rules.map (·.subscription)) {r : Rule}
    (hr : r ∈ (b.importRecords now (.list items)).2.list s) :
    ∃ r' ∈ rules, r'.subscription = s ∧ r'.id = r.id := by
  rw [list_of_importable h, if_pos hs, ordered_eq, mem_renumber] at hr
  obtain ⟨i, r', hi, rfl⟩ := hr
  have hmem := (byPosition_inRecordedOrder _).perm.mem_iff.mp (List.mem_of_getElem? hi)
  obtain ⟨hread, hsub⟩ := List.mem_filter.mp hmem
  exact ⟨r', hread, of_decide_eq_true hsub, rfl⟩

theorem replaces_of_importable (hb : Coherent b) (h : Importable now b items rules) :
    Replaces b rules (b.importRecords now (.list items)).2 where
  mentioned s hs :=
    ⟨byPosition (rulesFor s rules), byPosition_inRecordedOrder _, by
      rw [list_of_importable h, if_pos hs, ordered_eq]⟩
  unmentioned s hs := by rw [list_of_importable h, if_neg hs]
  gone id s asked hown hs hnew := by
    have hafter := (Keeps.importRecords hb now (.list items)).1
    apply get_of_unowned
    cases hget : (b.importRecords now (.list items)).2.owners.get? id with
    | none => rfl
    | some t =>
      -- an owner would list the id, and it is neither read again nor listed where nothing changed
      exfalso
      obtain ⟨r, hr, hid⟩ := hafter.listed id t hget
      by_cases ht : t ∈ rules.map (·.subscription)
      · obtain ⟨r', hr', -, hsame⟩ := exists_of_mem_list h ht hr
        exact hnew r' hr' (hsame.trans hid)
      · rw [list_of_importable h, if_neg ht] at hr
        have hold := (hb.owner_iff id t).mpr ⟨r, hr, hid⟩
        rw [hown] at hold
        exact ht (Option.some.inj hold ▸ hs)
  found r hr id hid := by
    have hafter := (Keeps.importRecords hb now (.list items)).1
    obtain ⟨i, hmem⟩ := mem_list_of_importable h hr
    have howner := (hafter.owner_iff id r.subscription).mpr ⟨_, hmem, hid⟩
    have hget := (get_eq_ok_iff hafter id { r with position := i }).mpr ⟨_, hmem, hid⟩
    refine ⟨⟨i, hget, (get_of_owner howner).trans hget⟩, fun t ht => ?_⟩
    refine ⟨get_of_other_owner howner (Ne.symm ht), fun hlists => ht ?_⟩
    have helsewhere := (hafter.owner_iff id t).mpr hlists
    rw [howner] at helsewhere
    exact (Option.some.inj helsewhere).symm

/-- An import goes through exactly for importable records. -/
theorem importRecords_eq_ok_iff :
    (∃ answer, (b.importRecords now (.list items)).1 = .ok answer) ↔
      ∃ rules, Importable now b items rules := by
  constructor
  · rintro ⟨answer, hok⟩
    rcases attempt_cases b (imported now (.list items)) with ⟨_, _, himported, -⟩ | ⟨f, -, heq⟩
    · obtain ⟨rules, h, -⟩ := imported_eq_ok_iff.mp himported
      exact ⟨rules, h⟩
    · rw [importRecords, heq] at hok
      cases hok
  · rintro ⟨rules, h⟩
    exact ⟨_, by rw [importRecords_of_importable h]⟩

theorem importRecords_of_not_importable (h : ¬ ∃ rules, Importable now b items rules) :
    (b.importRecords now (.list items)).2 = b := by
  rcases attempt_cases b (imported now (.list items)) with ⟨_, _, himported, -⟩ | ⟨f, -, heq⟩
  · obtain ⟨rules, hrules, -⟩ := imported_eq_ok_iff.mp himported
    exact absurd ⟨rules, hrules⟩ h
  · rw [importRecords, heq]

end Import

/-! ## The order of the records -/

/-- **Books that agree**: whatever is asked, they give the same answer. -/
structure Agrees (b other : RuleBook) : Prop where
  listed : ∀ s, other.list s = b.list s
  owned : ∀ id, other.owners.get? id = b.owners.get? id
  found : ∀ id asked, other.get id asked = b.get id asked
  subscriptions : other.subscriptions = b.subscriptions

theorem subscriptions_ascending (b : RuleBook) : b.subscriptions.Pairwise (· ≤ ·) :=
  pairwise_mergeSort_key (fun s : String => s) _

/-- **A coherent book is known by its lists.** -/
theorem agrees_of_list {b other : RuleBook} (hb : Coherent b) (hother : Coherent other)
    (h : ∀ s, other.list s = b.list s) : Agrees b other := by
  have howned : ∀ id, other.owners.get? id = b.owners.get? id := by
    intro id
    refine Option.ext fun s => ?_
    rw [hother.owner_iff, hb.owner_iff, h]
  refine ⟨h, howned, fun id asked => ?_, ?_⟩
  · have howner : other.owner id asked = b.owner id asked := by rw [owner, owner, howned]
    have hfind : ∀ s, other.find s id = b.find s id := fun s => by rw [find, find, h]
    simp only [get, howner, hfind]
  · have hmem : ∀ s, s ∈ other.subscriptions ↔ s ∈ b.subscriptions := by
      intro s
      rw [mem_subscriptions_iff hother, mem_subscriptions_iff hb, h]
    have hperm := (List.perm_ext_iff_of_nodup (nodup_subscriptions hother)
      (nodup_subscriptions hb)).mpr hmem
    exact hperm.eq_of_pairwise (fun s t _ _ hle hge => String.le_antisymm hle hge)
      (subscriptions_ascending other) (subscriptions_ascending b)

/-- No two rules of one subscription have one position. -/
def DistinctPositions (rules : List Rule) : Prop :=
  ∀ s, ((rulesFor s rules).map (·.position)).Nodup

variable {now : DateTime} {b : RuleBook} {items shuffled : List Value} {rules : List Rule}

/-- Records that are shuffled are as importable as before. -/
theorem Importable.perm (h : Importable now b items rules) (hperm : shuffled.Perm items) :
    ∃ others, others.Perm rules ∧ Importable now b shuffled others := by
  obtain ⟨others, hread, hrules⟩ := List.perm_comp_forall₂ hperm h.read
  refine ⟨others, hrules, hread, ?_, ?_, ?_⟩
  · intro r hr
    exact h.accepted r (hrules.mem_iff.mp hr)
  · exact (hrules.map _).nodup_iff.mpr h.distinct
  · intro r hr id s hid hown
    exact (hrules.map _).mem_iff.mpr (h.available r (hrules.mem_iff.mp hr) id s hid hown)

theorem agrees_of_perm (hb : Coherent b) (hperm : shuffled.Perm items)
    (hdistinct : ∀ rules, List.Forall₂ (fun w r => readRecord now w = .ok r) items rules →
      DistinctPositions rules) :
    Agrees (b.importRecords now (.list items)).2 (b.importRecords now (.list shuffled)).2 := by
  have hafter := (Keeps.importRecords hb now (.list items)).1
  have hshuffled := (Keeps.importRecords hb now (.list shuffled)).1
  refine agrees_of_list hafter hshuffled fun s => ?_
  by_cases himportable : ∃ rules, Importable now b items rules
  · obtain ⟨rules, h⟩ := himportable
    obtain ⟨others, hrules, hothers⟩ := h.perm hperm
    have hmentioned : s ∈ others.map (·.subscription) ↔ s ∈ rules.map (·.subscription) :=
      (hrules.map _).mem_iff
    have hgroup : ordered (rulesFor s rules) = ordered (rulesFor s others) := by
      have hrulesFor : (rulesFor s rules).Perm (rulesFor s others) := hrules.symm.filter _
      rw [ordered_eq, ordered_eq, byPosition_congr hrulesFor (hdistinct rules h.read s)]
    simp only [list_of_importable h, list_of_importable hothers, hmentioned, hgroup]
  · -- then the shuffled records are not importable either, and nothing has changed
    have hnone : ¬ ∃ rules, Importable now b shuffled rules := by
      rintro ⟨others, hothers⟩
      obtain ⟨rules, -, h⟩ := hothers.perm hperm.symm
      exact himportable ⟨rules, h⟩
    rw [importRecords_of_not_importable himportable, importRecords_of_not_importable hnone]

/-- **An import replaces what its records mention.**  In a book that a run led to, an import goes
through exactly when the records are importable; then `Replaces` says what is in the book.  Where
recorded positions are distinct, the order of the records does not matter. -/
theorem import_replaces {v : Vocabulary} {b : RuleBook} (h : Reachable v b) (now : DateTime)
    (items : List Value) :
    ((∃ answer, (b.importRecords now (.list items)).1 = .ok answer) ↔
      ∃ rules, Importable now b items rules) ∧
    (∀ rules, Importable now b items rules →
      Replaces b rules (b.importRecords now (.list items)).2) ∧
    ∀ shuffled : List Value, shuffled.Perm items →
      (∀ rules, List.Forall₂ (fun w r => readRecord now w = .ok r) items rules →
        DistinctPositions rules) →
      Agrees (b.importRecords now (.list items)).2 (b.importRecords now (.list shuffled)).2 := by
  have hb := h.keeps.1
  refine ⟨importRecords_eq_ok_iff, fun rules hrules => ?_, fun shuffled hperm hdistinct => ?_⟩
  · exact replaces_of_importable hb hrules
  · exact agrees_of_perm hb hperm hdistinct

/-- A record with little in it. -/
def shortRecord (id subscription : String) (position : Int) : Value :=
  .dict [(.str "id", .str id), (.str "subscriptionId", .str subscription),
    (.str "sortOrder", .int position)]

/-- The rule that such a record stands for. -/
def shortRule (id subscription : String) (position : Int) : Rule where
  id := .str id
  subscription := subscription
  position := position
  target := .holds .all
  created := default
  updated := default

/-- An id moves from one subscription to another and comes to stand behind a new one. -/
theorem import_replaces_moved_id :
    let draft : Draft := { subscription := "b", target := .holds .all }
    let requests : List Request := [.create default draft, .create default draft]
    let b := requests.foldl (fun b q => (b.perform q).2)
      { vocabulary := .standard, ids := { given := ["x", "z"] } }
    let items := [shortRecord "x" "a" 7, shortRecord "w" "b" 0, shortRecord "y" "a" 3]
    let rules := [shortRule "x" "a" 7, shortRule "w" "b" 0, shortRule "y" "a" 3]
    let after := (b.importRecords default (.list items)).2
    b.owners = [("x", "b"), ("z", "b")] ∧ Reachable .standard b ∧
      Importable default b items rules ∧ Replaces b rules after := by
  intro draft requests b items rules after
  have howners : b.owners = [("x", "b"), ("z", "b")] := by
    subst b requests draft
    decide +kernel
  have hreachable : Reachable .standard b :=
    Reachable.foldl (Reachable.empty { given := ["x", "z"] }) requests
  have himportable : Importable default b items rules := {
    read := .cons rfl (.cons rfl (.cons rfl .nil))
    accepted := by
      have hvocabulary : b.vocabulary = .standard := hreachable.keeps.2
      rw [hvocabulary]
      exact List.forall_mem_cons.mpr ⟨rfl, List.forall_mem_cons.mpr
        ⟨rfl, List.forall_mem_singleton.mpr rfl⟩⟩
    distinct := by
      subst rules
      decide
    available := by
      intro r hr id s hid hown
      have hs : s = "b" := by
        have hmem := Table.mem_of_get? hown
        rw [howners, List.mem_cons, List.mem_singleton] at hmem
        rcases hmem with heq | heq
        · exact (Prod.mk.inj heq).2
        · exact (Prod.mk.inj heq).2
      rw [hs]
      exact List.mem_cons_of_mem _ List.mem_cons_self }
  exact ⟨howners, hreachable, himportable,
    (import_replaces hreachable default items).2.1 rules himportable⟩

end RuleBook

end DialPlan
