import DialPlan.Proofs.RuleBook.Effect
import DialPlan.Proofs.Table

/-!
# Coherent rule books

A rule book keeps the same facts twice: which rules a subscription has, and which subscription owns
a rule.  It is *coherent* when the two agree and every list of rules is in order.

An import replaces several subscriptions one after the other, and in between an id may already have
moved to its new subscription while its old one still lists it.  The invariant therefore names the
subscriptions whose turn is still to come (`CoherentBut`): their lists are in order as well, but
their ids may be owned elsewhere.  A coherent book is one without such subscriptions.

`CoherentBut.write` is the one argument that all changes share: writing the rules of a subscription,
with the owners to match, brings that subscription into agreement and spoils no other.
-/

namespace DialPlan

/-! ## The rules of one subscription -/

/-- **Rules that may stand in a subscription**, whatever their positions. -/
structure Sound (v : Vocabulary) (s : String) (rules : List Rule) : Prop where
  belongs : ∀ r ∈ rules, r.subscription = s
  named : ∀ r ∈ rules, ∃ id, r.id = .str id
  distinct : (rules.map (·.id)).Nodup
  accepted : ∀ r ∈ rules, v.Accepts r

/-- **Rules in order**: they may stand in the subscription, each at its own position. -/
structure Tidy (v : Vocabulary) (s : String) (rules : List Rule) : Prop extends
    Sound v s rules where
  placed : ∀ (i : Nat) (r : Rule), rules[i]? = some r → r.position = i

/-- A rule's position is none of the check's business. -/
theorem Vocabulary.accepts_at {v : Vocabulary} {r : Rule} (h : v.Accepts r) (i : Int) :
    v.Accepts { r with position := i } := h

/-- Neither is its switch, as long as it is one. -/
theorem Vocabulary.accepts_switched {v : Vocabulary} {r : Rule} (h : v.Accepts r) (on : Bool)
    (now : DateTime) : v.Accepts { r with enabled := .bool on, updated := now } := by
  unfold Accepts checkRule at h ⊢
  rw [bind_eq_ok_iff] at h ⊢
  obtain ⟨chain, hchain, h⟩ := h
  rw [bind_eq_ok_iff] at h
  obtain ⟨target, htarget, h⟩ := h
  refine ⟨chain, hchain, bind_eq_ok_iff.mpr ⟨target, htarget, ?_⟩⟩
  simp only [Except.ok.injEq, List.append_eq_nil_iff] at h ⊢
  exact ⟨⟨⟨h.1.1.1, trivial⟩, h.1.2⟩, h.2⟩

namespace Sound

variable {v : Vocabulary} {s : String} {rules : List Rule}

theorem nil (v : Vocabulary) (s : String) : Sound v s [] :=
  ⟨by simp, by simp, by simp, by simp⟩

/-- Fewer rules, in the same order. -/
theorem sublist {fewer : List Rule} (h : Sound v s rules) (hsub : fewer.Sublist rules) :
    Sound v s fewer where
  belongs r hr := h.belongs r (hsub.subset hr)
  named r hr := h.named r (hsub.subset hr)
  distinct := h.distinct.sublist (hsub.map _)
  accepted r hr := h.accepted r (hsub.subset hr)

/-- The same rules in another order. -/
theorem perm {others : List Rule} (h : Sound v s rules) (hperm : others.Perm rules) :
    Sound v s others where
  belongs r hr := h.belongs r (hperm.subset hr)
  named r hr := h.named r (hperm.subset hr)
  distinct := (hperm.map _).nodup_iff.mpr h.distinct
  accepted r hr := h.accepted r (hperm.subset hr)

/-- **One rule of an id.** -/
theorem eq_of_id_eq (h : Sound v s rules) {r r' : Rule} (hr : r ∈ rules) (hr' : r' ∈ rules)
    (hid : r.id = r'.id) : r = r' :=
  List.inj_on_of_nodup_map h.distinct hr hr' hid

end Sound

@[simp] theorem mem_renumber {rules : List Rule} {r : Rule} :
    r ∈ renumber rules ↔
      ∃ (i : Nat) (r' : Rule), rules[i]? = some r' ∧ { r' with position := i } = r := by
  rw [List.mem_iff_getElem?]
  simp only [getElem?_renumber, Option.map_eq_some_iff]

@[simp] theorem map_id_renumber (rules : List Rule) :
    (renumber rules).map (·.id) = rules.map (·.id) := by
  apply List.ext_getElem?
  intro i
  rw [List.getElem?_map, getElem?_renumber, List.getElem?_map, Option.map_map]
  rfl

/-- Putting a rule in the place of the one of its id keeps all ids. -/
theorem map_id_replace (rules : List Rule) (r : Rule) :
    (rules.map fun old => if old.id = r.id then r else old).map (·.id) = rules.map (·.id) := by
  rw [List.map_map]
  refine List.map_congr_left fun old _ => ?_
  rw [Function.comp_apply]
  split
  · next heq => exact heq.symm
  · rfl

/-- **Numbering rules anew puts them in order.** -/
theorem Sound.tidy_renumber {v : Vocabulary} {s : String} {rules : List Rule}
    (h : Sound v s rules) : Tidy v s (renumber rules) where
  belongs r hr := by
    obtain ⟨i, r', hi, rfl⟩ := mem_renumber.mp hr
    exact h.belongs r' (List.mem_of_getElem? hi)
  named r hr := by
    obtain ⟨i, r', hi, rfl⟩ := mem_renumber.mp hr
    exact h.named r' (List.mem_of_getElem? hi)
  distinct := by
    rw [map_id_renumber]
    exact h.distinct
  accepted r hr := by
    obtain ⟨i, r', hi, rfl⟩ := mem_renumber.mp hr
    exact Vocabulary.accepts_at (h.accepted r' (List.mem_of_getElem? hi)) i
  placed i r hi := by
    rw [getElem?_renumber, Option.map_eq_some_iff] at hi
    obtain ⟨r', -, rfl⟩ := hi
    rfl

namespace Tidy

variable {v : Vocabulary} {s : String} {rules : List Rule}

theorem nil (v : Vocabulary) (s : String) : Tidy v s [] :=
  ⟨Sound.nil v s, by simp⟩

/-- **A rule of a new id behind the others.** -/
theorem append (h : Tidy v s rules) {r : Rule} {id : String} (hid : r.id = .str id)
    (hnew : ∀ r' ∈ rules, r'.id ≠ .str id) (hs : r.subscription = s)
    (hposition : r.position = rules.length) (haccepts : v.Accepts r) :
    Tidy v s (rules ++ [r]) where
  belongs r' hr' := by
    rcases List.mem_append.mp hr' with hold | hlast
    · exact h.belongs r' hold
    · rw [List.mem_singleton.mp hlast, hs]
  named r' hr' := by
    rcases List.mem_append.mp hr' with hold | hlast
    · exact h.named r' hold
    · exact ⟨id, by rw [List.mem_singleton.mp hlast, hid]⟩
  distinct := by
    rw [List.map_append, List.nodup_append]
    refine ⟨h.distinct, List.nodup_singleton _, ?_⟩
    rintro a ha b hb rfl
    obtain ⟨r', hr', hrid⟩ := List.mem_map.mp ha
    rw [List.map_singleton, List.mem_singleton, hid] at hb
    exact hnew r' hr' (hrid.trans hb)
  accepted r' hr' := by
    rcases List.mem_append.mp hr' with hold | hlast
    · exact h.accepted r' hold
    · rw [List.mem_singleton.mp hlast]
      exact haccepts
  placed i r' hi := by
    rcases Nat.lt_trichotomy i rules.length with hlt | heq | hgt
    · rw [List.getElem?_append_left hlt] at hi
      exact h.placed i r' hi
    · rw [heq, List.getElem?_concat_length] at hi
      cases hi
      rw [hposition, heq]
    · have hlen : (rules ++ [r]).length ≤ i := by
        rw [List.length_append, List.length_singleton]
        omega
      rw [List.getElem?_eq_none hlen] at hi
      cases hi

/-- **A rule in the place of the one of its id.** -/
theorem replace (h : Tidy v s rules) {r current : Rule} (hmem : current ∈ rules)
    (hid : r.id = current.id) (hs : r.subscription = current.subscription)
    (hposition : r.position = current.position) (haccepts : v.Accepts r) :
    Tidy v s (rules.map fun old => if old.id = r.id then r else old) := by
  -- at every place stands the old rule, or `r` where `current` stood
  have hcases : ∀ old ∈ rules, (if old.id = r.id then r else old) = old ∨
      (old = current ∧ (if old.id = r.id then r else old) = r) := by
    intro old hold
    by_cases heq : old.id = r.id
    · exact Or.inr ⟨h.eq_of_id_eq hold hmem (heq.trans hid), if_pos heq⟩
    · exact Or.inl (if_neg heq)
  refine { belongs := ?_, named := ?_, distinct := ?_, accepted := ?_, placed := ?_ }
  · intro r' hr'
    obtain ⟨old, hold, rfl⟩ := List.mem_map.mp hr'
    rcases hcases old hold with heq | ⟨-, heq⟩
    · rw [heq]
      exact h.belongs old hold
    · rw [heq, hs]
      exact h.belongs current hmem
  · intro r' hr'
    obtain ⟨old, hold, rfl⟩ := List.mem_map.mp hr'
    rcases hcases old hold with heq | ⟨-, heq⟩
    · rw [heq]
      exact h.named old hold
    · rw [heq, hid]
      exact h.named current hmem
  · rw [map_id_replace]
    exact h.distinct
  · intro r' hr'
    obtain ⟨old, hold, rfl⟩ := List.mem_map.mp hr'
    rcases hcases old hold with heq | ⟨-, heq⟩
    · rw [heq]
      exact h.accepted old hold
    · rw [heq]
      exact haccepts
  · intro i r' hi
    rw [List.getElem?_map, Option.map_eq_some_iff] at hi
    obtain ⟨old, hold, rfl⟩ := hi
    rcases hcases old (List.mem_of_getElem? hold) with heq | ⟨hcur, heq⟩
    · rw [heq]
      exact h.placed i old hold
    · rw [heq, hposition, ← hcur]
      exact h.placed i old hold

end Tidy

/-! ## The whole book -/

namespace RuleBook

/-- The ids that a list of rules has. -/
def Lists (rules : List Rule) (id : String) : Prop := ∃ r ∈ rules, r.id = .str id

instance (rules : List Rule) (id : String) : Decidable (Lists rules id) :=
  inferInstanceAs (Decidable (∃ r ∈ rules, r.id = .str id))

theorem lists_iff {rules : List Rule} {id : String} :
    Lists rules id ↔ Value.str id ∈ rules.map (·.id) := by
  rw [List.mem_map]
  exact Iff.rfl

/-- Only the ids of rules matter. -/
theorem lists_congr {rules others : List Rule} (h : (rules.map (·.id)).Perm (others.map (·.id)))
    (id : String) : Lists rules id ↔ Lists others id := by
  rw [lists_iff, lists_iff, h.mem_iff]

@[simp] theorem lists_renumber {rules : List Rule} {id : String} :
    Lists (renumber rules) id ↔ Lists rules id :=
  lists_congr (by rw [map_id_renumber]) id

/-- The ids of rules are the texts they are looked up by. -/
theorem lists_iff_mem_texts {rules : List Rule} (h : ∀ r ∈ rules, ∃ id, r.id = .str id)
    (id : String) : Lists rules id ↔ id ∈ rules.map (·.id.text) := by
  rw [List.mem_map]
  refine exists_congr fun r => and_congr_right fun hr => ?_
  obtain ⟨id', hid'⟩ := h r hr
  rw [hid', Value.text_str, Value.str.injEq]

/-- **Coherence, but for the subscriptions whose turn is still to come.**  All lists are in order;
an owned id is listed where it is owned; and a listed id is owned where it is listed, unless its
subscription is one of those. -/
structure CoherentBut (pending : List String) (b : RuleBook) : Prop where
  names : b.rules.keys.Nodup
  ownedOnce : b.owners.keys.Nodup
  tidy : ∀ s, Tidy b.vocabulary s (b.list s)
  listed : ∀ id s, b.owners.get? id = some s → Lists (b.list s) id
  owned : ∀ s, s ∉ pending → ∀ r ∈ b.list s, ∀ id, r.id = .str id → b.owners.get? id = some s

/-- **Coherence**: lists of rules and owners agree. -/
abbrev Coherent (b : RuleBook) : Prop := CoherentBut [] b

namespace CoherentBut

variable {b after : RuleBook} {pending : List String} {s : String}

theorem weaken (h : Coherent b) (pending : List String) : CoherentBut pending b :=
  { h with owned := fun s _ => h.owned s List.not_mem_nil }

/-- In a coherent book an id is owned by a subscription exactly when that subscription lists it. -/
theorem owner_iff (h : Coherent b) (id s : String) :
    b.owners.get? id = some s ↔ Lists (b.list s) id := by
  constructor
  · exact h.listed id s
  · rintro ⟨r, hr, hid⟩
    exact h.owned s List.not_mem_nil r hr id hid

/-- **Writing the rules of a subscription.**  The new rules are in order and may take over ids from
subscriptions whose turn is still to come only; the owners say so.  Then that subscription agrees,
and all that agreed before still do. -/
theorem write {rules : List Rule} (h : CoherentBut (s :: pending) b)
    (hvocabulary : after.vocabulary = b.vocabulary)
    (hnames : after.rules.keys.Nodup) (hownedOnce : after.owners.keys.Nodup)
    (hlist : ∀ t, after.list t = if t = s then rules else b.list t)
    (htidy : Tidy b.vocabulary s rules)
    (howners : ∀ id t, after.owners.get? id = some t ↔
      (t = s ∧ Lists rules id) ∨ (t ≠ s ∧ ¬ Lists rules id ∧ b.owners.get? id = some t))
    (htaken : ∀ id t, Lists rules id → b.owners.get? id = some t → t ∈ s :: pending) :
    CoherentBut pending after where
  names := hnames
  ownedOnce := hownedOnce
  tidy t := by
    rw [hvocabulary, hlist]
    split
    · next heq =>
      rw [heq]
      exact htidy
    · exact h.tidy t
  listed id t hown := by
    rw [hlist]
    rcases (howners id t).mp hown with ⟨heq, hlists⟩ | ⟨hne, -, hold⟩
    · rw [if_pos heq]
      exact hlists
    · rw [if_neg hne]
      exact h.listed id t hold
  owned t ht r hr id hid := by
    rw [howners]
    rw [hlist] at hr
    by_cases heq : t = s
    · rw [if_pos heq] at hr
      exact Or.inl ⟨heq, r, hr, hid⟩
    · rw [if_neg heq] at hr
      have hnotPending : t ∉ s :: pending := by
        rw [List.mem_cons, not_or]
        exact ⟨heq, ht⟩
      have hold := h.owned t hnotPending r hr id hid
      exact Or.inr ⟨heq, fun hlists => hnotPending (htaken id t hlists hold), hold⟩

/-- Writing rules with the same ids leaves the owners as they are. -/
theorem rewrite {rules : List Rule} (h : Coherent b) (htidy : Tidy b.vocabulary s rules)
    (hids : ∀ id, Lists rules id ↔ Lists (b.list s) id) : Coherent (b.setRules s rules) := by
  refine (h.weaken [s]).write rfl (Table.nodup_keys_put h.names _ _) h.ownedOnce
    (fun t => list_setRules b s t rules) htidy ?_ ?_
  · intro id t
    rw [owners_setRules, hids, ← h.owner_iff]
    constructor
    · intro hown
      by_cases heq : t = s
      · exact Or.inl ⟨heq, heq ▸ hown⟩
      · refine Or.inr ⟨heq, fun hs => heq ?_, hown⟩
        rw [hown] at hs
        exact Option.some.inj hs
    · rintro (⟨rfl, hown⟩ | ⟨-, -, hown⟩)
      · exact hown
      · exact hown
  · intro id t hlists hown
    rw [hids, ← h.owner_iff, hown] at hlists
    rw [Option.some.inj hlists]
    exact List.mem_cons_self

end CoherentBut

end RuleBook

end DialPlan
