import DialPlan.Proofs.RuleBook.Replacement

/-!
# Subscriptions are isolated

A change that is about one subscription leaves every other subscription as it was, whether it goes
through or is refused, and it cannot reach a rule of another subscription by its id
(`subscriptions_isolated`).

Two facts carry this.  A coherent book is known by its lists, so a change that keeps the list of a
subscription keeps the ids that it owns and what is found by them as well (`untouched_of_list`); and
no step of a change gets past an id that another subscription owns (`owner_of_other`).
-/

namespace DialPlan.RuleBook

/-- **A change that is about one subscription.**  A change by id names the subscription that the id
has to belong to; an import takes in records of that subscription only. -/
def Request.Concerns (s : String) : Request → Prop
  | .create _ draft => draft.subscription = s
  | .update _ _ _ asked => asked = some s
  | .toggle _ _ asked => asked = some s
  | .delete _ asked => asked = some s
  | .reorder subscription _ => subscription = s
  | .deleteSubscription subscription => subscription = s
  | .importRecords now records => ∀ items, Node.itemsOf records = .ok items →
      ∀ w ∈ items, ∀ r, readRecord now w = .ok r → r.subscription = s

/-- **A subscription that is as it was**: the same list, the same ids, and the same rules found by
them, whatever subscription is asked for. -/
structure Untouched (t : String) (b after : RuleBook) : Prop where
  listed : after.list t = b.list t
  owned : ∀ id, after.owners.get? id = some t ↔ b.owners.get? id = some t
  found : ∀ id, Lists (b.list t) id → ∀ asked, after.get id asked = b.get id asked

variable {b after : RuleBook} {s t : String}

/-- **The list of a subscription decides** what is known of it. -/
theorem untouched_of_list (hb : Coherent b) (hafter : Coherent after)
    (h : after.list t = b.list t) : Untouched t b after where
  listed := h
  owned id := by rw [hafter.owner_iff, hb.owner_iff, h]
  found id hid asked := by
    have hold := (hb.owner_iff id t).mpr hid
    have hnew := (hafter.owner_iff id t).mpr (h ▸ hid)
    have howner : after.owner id asked = b.owner id asked := by rw [owner, owner, hold, hnew]
    rw [get, get, howner]
    cases hu : b.owner id asked with
    | error f => rfl
    | ok u =>
      have hut : u = t := Option.some.inj ((owner_eq_ok hu).symm.trans hold)
      rw [ok_bind, ok_bind, find, find, hut, h]

/-! ## Rules of another subscription -/

section Other

variable {id : String} (h : b.owners.get? id = some t) (hne : s ≠ t)
include h hne

theorem owner_of_other : b.owner id (some s) = Outcome.refuse (.ruleElsewhere id (some s)) := by
  rw [owner, h]
  exact if_neg (Ne.symm hne)

theorem switched_of_other (now : DateTime) :
    switched now id (some s) b = Outcome.refuse (.ruleElsewhere id (some s)) := by
  rw [switched, owner_of_other h hne]
  rfl

theorem removed_of_other :
    removed id (some s) b = Outcome.refuse (.ruleElsewhere id (some s)) := by
  rw [removed, owner_of_other h hne]
  rfl

/-- An update may be refused for what it says before anyone looks for the rule. -/
theorem updated_of_other (now : DateTime) (p : Patch) :
    ∃ f, updated now id p (some s) b = .error f := by
  cases hresult : updated now id p (some s) b with
  | error f => exact ⟨f, rfl⟩
  | ok answer =>
    exfalso
    simp only [updated, owner_of_other h hne, bind_eq_ok_iff] at hresult
    obtain ⟨-, -, chain, -, hresult⟩ := hresult
    split at hresult
    · obtain ⟨_, hrefused, -⟩ := bind_eq_ok_iff.mp hresult
      exact Outcome.refuse_ne_ok hrefused
    · obtain ⟨_, hrefused, -⟩ := bind_eq_ok_iff.mp hresult
      exact Outcome.refuse_ne_ok hrefused

end Other

/-! ## Lists of other subscriptions -/

/-- What a change writes decides; a refused one writes nothing. -/
theorem list_attempt {α : Type} {change : RuleBook → Outcome (α × RuleBook)}
    (h : ∀ a after, change b = .ok (a, after) → after.list t = b.list t) :
    (b.attempt change).2.list t = b.list t := by
  rcases attempt_cases b change with ⟨a, after, hok, heq⟩ | ⟨f, -, heq⟩
  · rw [heq]
    exact h a after hok
  · rw [heq]

theorem list_setRules_of_ne (rules : List Rule) (hne : s ≠ t) :
    (b.setRules s rules).list t = b.list t := by
  rw [list_setRules, if_neg (Ne.symm hne)]

theorem list_create (now : DateTime) {d : Draft} (hne : d.subscription ≠ t) :
    (b.create now d).2.list t = b.list t := by
  unfold create
  split
  · rfl
  · refine list_attempt (b := { b with ids := (b.ids.fresh b.owners.keys).2 }) fun r after hok => ?_
    obtain ⟨_, -, -, -, rfl⟩ := append_eq_ok hok
    exact list_setRules_of_ne _ hne

theorem list_update (now : DateTime) (id : String) (p : Patch) (hne : s ≠ t) :
    (b.update now id p (some s)).2.list t = b.list t := by
  refine list_attempt fun r after hok => ?_
  obtain ⟨u, _, _, hown, -, -, -, -, rfl⟩ := updated_eq_ok hok
  -- the owner is written, whatever subscription was asked for
  refine list_setRules_of_ne _ ?_
  rintro rfl
  obtain ⟨f, hrefused⟩ := updated_of_other hown hne now p
  rw [hrefused] at hok
  cases hok

theorem list_toggle (now : DateTime) (id : String) (hne : s ≠ t) :
    (b.toggle now id (some s)).2.list t = b.list t := by
  refine list_attempt fun r after hok => ?_
  obtain ⟨u, _, hown, -, -, -, rfl⟩ := switched_eq_ok hok
  refine list_setRules_of_ne _ ?_
  rintro rfl
  rw [switched_of_other hown hne] at hok
  exact Outcome.refuse_ne_ok hok

theorem list_delete (id : String) (hne : s ≠ t) :
    (b.delete id (some s)).2.list t = b.list t := by
  refine list_attempt fun r after hok => ?_
  obtain ⟨u, hown, -, -, rfl⟩ := removed_eq_ok hok
  refine list_setRules_of_ne _ ?_
  rintro rfl
  rw [removed_of_other hown hne] at hok
  exact Outcome.refuse_ne_ok hok

theorem list_reorder (ids : Value) (hne : s ≠ t) : (b.reorder s ids).2.list t = b.list t := by
  refine list_attempt fun rules after hok => ?_
  obtain ⟨_, _, -, -, -, -, -, -, rfl⟩ := reordered_eq_ok hok
  exact list_setRules_of_ne rules hne

theorem list_deleteSubscription (hne : s ≠ t) :
    (b.deleteSubscription s).2.list t = b.list t := by
  show ((b.rules.erase s).get? t).getD [] = (b.rules.get? t).getD []
  rw [Table.get?_erase, if_neg (Ne.symm hne)]

theorem list_importRecords {now : DateTime} {records : Value}
    (h : (Request.importRecords now records).Concerns s) (hne : s ≠ t) :
    (b.importRecords now records).2.list t = b.list t := by
  refine list_attempt fun answer after hok => ?_
  simp only [imported, bind_eq_ok_iff, Outcome.ofFault_eq_ok_iff] at hok
  obtain ⟨items, hitems, rules, hread, -, -, hinstalled⟩ := hok
  have hmentioned : t ∉ rules.map (·.subscription) := by
    intro hmem
    obtain ⟨r, hr, hrt⟩ := List.mem_map.mp hmem
    obtain ⟨w, hw, hwr⟩ := exists_of_forall₂ (readAll_eq_ok hread).1.flip r hr
    exact hne ((h items hitems w hw r hwr).symm.trans hrt)
  have hafter : (b.installAll (bySubscription rules)).2 = after :=
    congrArg Prod.snd (Except.ok.inj hinstalled)
  rw [← hafter, list_installAll_bySubscription, if_neg hmentioned]

/-- **A change keeps the list of every subscription that it is not about.** -/
theorem list_perform {q : Request} (hq : q.Concerns s) (hne : s ≠ t) :
    (b.perform q).2.list t = b.list t := by
  cases q with
  | create now draft => exact list_create now (hq ▸ hne)
  | update now id patch asked =>
    cases hq
    exact list_update now id patch hne
  | toggle now id asked =>
    cases hq
    exact list_toggle now id hne
  | delete id asked =>
    cases hq
    exact list_delete id hne
  | reorder subscription ids =>
    cases hq
    exact list_reorder ids hne
  | deleteSubscription subscription =>
    cases hq
    exact list_deleteSubscription hne
  | importRecords now records => exact list_importRecords hq hne

/-- **Subscriptions are isolated.**  In a book that a run led to, a change that is about one
subscription, refused or not, leaves every other subscription untouched; and whoever names a rule of
another subscription is refused. -/
theorem subscriptions_isolated {v : Vocabulary} {b : RuleBook} (h : Reachable v b) {s t : String}
    (hne : s ≠ t) :
    (∀ q : Request, q.Concerns s → Untouched t b (b.perform q).2) ∧
    ∀ id, b.owners.get? id = some t →
      b.get id (some s) = Outcome.refuse (.ruleElsewhere id (some s)) ∧
      b.delete id (some s) = (Outcome.refuse (.ruleElsewhere id (some s)), b) ∧
      (∀ now, b.toggle now id (some s) = (Outcome.refuse (.ruleElsewhere id (some s)), b)) ∧
      ∀ now p, ∃ f, b.update now id p (some s) = (.error f, b) := by
  have hb := h.keeps.1
  refine ⟨fun q hq => ?_, fun id hid => ?_⟩
  · exact untouched_of_list hb (Keeps.perform hb q).1 (list_perform hq hne)
  · refine ⟨get_of_other_owner hid (Ne.symm hne), attempt_of_error (removed_of_other hid hne),
      fun now => attempt_of_error (switched_of_other hid hne now), fun now p => ?_⟩
    obtain ⟨f, hrefused⟩ := updated_of_other hid hne now p
    exact ⟨f, attempt_of_error hrefused⟩

/-- Neither an order, nor a record, nor a deletion gets hold of the rule of another subscription. -/
theorem subscriptions_isolated_taken_id :
    let draft : String → Draft := fun s => { subscription := s, target := .holds .all }
    let requests : List Request := [.create default (draft "a"), .create default (draft "b")]
    let b := requests.foldl (fun b q => (b.perform q).2)
      { vocabulary := .standard, ids := { given := ["x", "y"] } }
    let reordering := Request.reorder "a" (.list [.str "x", .str "y"])
    let importing := Request.importRecords default (.list [shortRecord "y" "a" 0])
    Reachable .standard b ∧ "a" ≠ "b" ∧ b.owners = [("x", "a"), ("y", "b")] ∧
      Untouched "b" b (b.perform reordering).2 ∧ Untouched "b" b (b.perform importing).2 ∧
      b.delete "y" (some "a") = (Outcome.refuse (.ruleElsewhere "y" (some "a")), b) := by
  intro draft requests b reordering importing
  have howners : b.owners = [("x", "a"), ("y", "b")] := by
    subst b requests draft
    decide +kernel
  have hreachable : Reachable .standard b :=
    Reachable.foldl (Reachable.empty { given := ["x", "y"] }) requests
  have himporting : importing.Concerns "a" := by
    intro items hitems w hw r hread
    cases hitems
    cases List.mem_singleton.mp hw
    cases hread
    rfl
  have hne : "a" ≠ "b" := by decide
  have hisolated := subscriptions_isolated hreachable hne
  have howned : b.owners.get? "y" = some "b" := by
    rw [howners]
    rfl
  exact ⟨hreachable, hne, howners, hisolated.1 reordering rfl, hisolated.1 importing himporting,
    (hisolated.2 "y" howned).2.1⟩

end DialPlan.RuleBook
