import DialPlan.Proofs.RuleBook.Preservation
import Mathlib.Algebra.Ring.Nat

/-!
# Runs of a rule book

A run starts with an empty book and makes any changes, in any order and with any arguments; a change
that is refused is part of the run.  The source of ids may be exchanged at any time, so that nothing
depends on where ids come from.

Every change keeps a book coherent (`Keeps.perform`), and therefore every book that a run leads to
is (`Reachable.keeps`).  What coherence means for those who use a book stands in
`reachable_consistent`.
-/

namespace DialPlan.RuleBook

/-! ## Requests -/

/-- **A change that is asked for**, with its arguments. -/
inductive Request
  | create (now : DateTime) (draft : Draft)
  | update (now : DateTime) (id : String) (patch : Patch) (subscription : Option String)
  | toggle (now : DateTime) (id : String) (subscription : Option String)
  | delete (id : String) (subscription : Option String)
  | reorder (subscription : String) (ids : Value)
  | deleteSubscription (subscription : String)
  | importRecords (now : DateTime) (records : Value)

/-- The outcome of a change without its answer. -/
def withoutAnswer {α : Type} (r : Outcome α × RuleBook) : Outcome Unit × RuleBook :=
  (r.1.map fun _ => (), r.2)

/-- **Making a change**: whether it went through, and the book afterwards. -/
def perform (b : RuleBook) : Request → Outcome Unit × RuleBook
  | .create now draft => withoutAnswer (b.create now draft)
  | .update now id patch subscription => withoutAnswer (b.update now id patch subscription)
  | .toggle now id subscription => withoutAnswer (b.toggle now id subscription)
  | .delete id subscription => withoutAnswer (b.delete id subscription)
  | .reorder subscription ids => withoutAnswer (b.reorder subscription ids)
  | .deleteSubscription subscription => (.ok (), (b.deleteSubscription subscription).2)
  | .importRecords now records => withoutAnswer (b.importRecords now records)

/-- **The books that runs lead to**, for a vocabulary. -/
inductive Reachable (v : Vocabulary) : RuleBook → Prop
  | empty (ids : IdSource) : Reachable v { vocabulary := v, ids }
  | supplied {b : RuleBook} (ids : IdSource) : Reachable v b → Reachable v { b with ids }
  | performed {b : RuleBook} (q : Request) : Reachable v b → Reachable v (b.perform q).2

/-- A row of changes. -/
theorem Reachable.foldl {v : Vocabulary} {b : RuleBook} (h : Reachable v b)
    (requests : List Request) :
    Reachable v (requests.foldl (fun b q => (b.perform q).2) b) := by
  induction requests generalizing b with
  | nil => exact h
  | cons q requests ih => exact ih (h.performed q)

/-- **Every change keeps a book coherent.** -/
theorem Keeps.perform {b : RuleBook} (h : Coherent b) (q : Request) : Keeps b (b.perform q).2 := by
  cases q with
  | create now draft => exact Keeps.create h now draft
  | update now id patch subscription => exact Keeps.update h now id patch subscription
  | toggle now id subscription => exact Keeps.toggle h now id subscription
  | delete id subscription => exact Keeps.delete h id subscription
  | reorder subscription ids => exact Keeps.reorder h subscription ids
  | deleteSubscription subscription => exact Keeps.deleteSubscription h subscription
  | importRecords now records => exact Keeps.importRecords h now records

/-- **Runs lead to coherent books.** -/
theorem Reachable.keeps {v : Vocabulary} {b : RuleBook} (h : Reachable v b) :
    Coherent b ∧ b.vocabulary = v := by
  induction h with
  | empty ids => exact ⟨Coherent.empty v ids, rfl⟩
  | supplied ids _ ih => exact ⟨(Keeps.supplied ih.1 ids).1, ih.2⟩
  | performed q _ ih =>
    have hkeeps := Keeps.perform ih.1 q
    exact ⟨hkeeps.1, hkeeps.2.trans ih.2⟩

/-! ## What a coherent book answers -/

section Answers

variable {b : RuleBook} (h : Coherent b)
include h

/-- **A rule is found by its id exactly when it is listed.** -/
theorem get_eq_ok_iff (id : String) (r : Rule) :
    b.get id none = .ok r ↔ ∃ s, r ∈ b.list s ∧ r.id = .str id := by
  constructor
  · intro hget
    obtain ⟨s, -, hfind⟩ := bind_eq_ok_iff.mp hget
    exact ⟨s, find_eq_ok hfind⟩
  · rintro ⟨s, hr, hid⟩
    have howner : b.owner id none = .ok s := by
      rw [owner, h.owned s List.not_mem_nil r hr id hid]
    refine bind_eq_ok_iff.mpr ⟨s, howner, ?_⟩
    rw [find]
    cases hfound : (b.list s).find? (·.id = .str id) with
    | none => exact absurd hid (by simpa using List.find?_eq_none.mp hfound r hr)
    | some found =>
      have hfoundId : found.id = .str id := by simpa using List.find?_some hfound
      have hsame := (h.tidy s).eq_of_id_eq (List.mem_of_find?_eq_some hfound) hr
        (hfoundId.trans hid.symm)
      rw [hsame]

/-- **Ids are distinct in the whole book.** -/
theorem eq_of_ids_eq {s t : String} {i j : Nat} {r r' : Rule} (hr : (b.list s)[i]? = some r)
    (hr' : (b.list t)[j]? = some r') (hid : r.id = r'.id) : s = t ∧ i = j := by
  obtain ⟨id, hname⟩ := (h.tidy s).named r (List.mem_of_getElem? hr)
  have hs := h.owned s List.not_mem_nil r (List.mem_of_getElem? hr) id hname
  have ht := h.owned t List.not_mem_nil r' (List.mem_of_getElem? hr') id (hid.symm.trans hname)
  have heq : s = t := Option.some.inj (hs.symm.trans ht)
  subst heq
  have hsame := (h.tidy s).eq_of_id_eq (List.mem_of_getElem? hr) (List.mem_of_getElem? hr') hid
  have hi := (h.tidy s).placed i r hr
  have hj := (h.tidy s).placed j r' hr'
  rw [hsame, hj] at hi
  exact ⟨rfl, (Int.ofNat.inj hi).symm⟩

theorem nodup_subscriptions : b.subscriptions.Nodup := by
  rw [subscriptions, (List.mergeSort_perm _ _).nodup_iff]
  exact h.names.sublist (List.filter_sublist.map _)

theorem mem_subscriptions_iff (s : String) : s ∈ b.subscriptions ↔ b.list s ≠ [] := by
  rw [subscriptions, (List.mergeSort_perm _ _).mem_iff, List.mem_map]
  constructor
  · rintro ⟨⟨s', rules⟩, hmem, rfl⟩
    obtain ⟨hmem, hne⟩ := List.mem_filter.mp hmem
    rw [list, Table.get?_of_mem h.names hmem]
    simpa using hne
  · intro hne
    cases hget : b.rules.get? s with
    | none => simp [list, hget] at hne
    | some rules =>
      refine ⟨(s, rules), List.mem_filter.mpr ⟨Table.mem_of_get? hget, ?_⟩, rfl⟩
      simpa [list, hget] using hne

theorem nodup_idsOf (s : String) : (b.idsOf s).Nodup := by
  have hids : (b.idsOf s).map Value.str = (b.list s).map (·.id) := by
    rw [idsOf, List.map_map]
    refine List.map_congr_left fun r hr => ?_
    obtain ⟨id, hid⟩ := (h.tidy s).named r hr
    rw [Function.comp_apply, hid, Value.text_str]
  refine List.Nodup.of_map Value.str ?_
  rw [hids]
  exact (h.tidy s).distinct

theorem mem_idsOf_iff (id s : String) : id ∈ b.idsOf s ↔ b.owners.get? id = some s := by
  rw [h.owner_iff, lists_iff_mem_texts (h.tidy s).named]
  rfl

/-- The owned ids are the ids of all subscriptions in turn. -/
theorem keys_owners_perm : b.owners.keys.Perm (b.subscriptions.flatMap b.idsOf) := by
  refine (List.perm_ext_iff_of_nodup h.ownedOnce ?_).mpr fun id => ?_
  · refine List.nodup_flatMap.mpr ⟨fun s _ => nodup_idsOf h s, ?_⟩
    refine (nodup_subscriptions h).imp fun {s t} hne id hs ht => hne ?_
    rw [mem_idsOf_iff h] at hs ht
    exact Option.some.inj (hs.symm.trans ht)
  · rw [Table.mem_keys_iff, List.mem_flatMap]
    refine exists_congr fun s => ?_
    rw [← mem_idsOf_iff h, mem_subscriptions_iff h, iff_and_self]
    intro hid hnil
    rw [idsOf, hnil] at hid
    cases hid

/-- **The size of a book is the number of its rules.** -/
theorem size_eq_sum : b.size = (b.subscriptions.map fun s => (b.list s).length).sum := by
  have hlen := (keys_owners_perm h).length_eq
  rw [Table.keys, List.length_map, List.length_flatMap] at hlen
  rw [size, hlen]
  refine congrArg List.sum (List.map_congr_left fun s _ => ?_)
  rw [idsOf, List.length_map]

end Answers

/-! ## Books that runs lead to -/

/-- **Consistency**, in terms of what a book answers. -/
structure Consistent (v : Vocabulary) (b : RuleBook) : Prop where
  /-- Every rule stands at its own position in its own subscription. -/
  placed : ∀ s (i : Nat) r, (b.list s)[i]? = some r → r.position = i ∧ r.subscription = s
  /-- Every rule is accepted, and its id is a text. -/
  accepted : ∀ s, ∀ r ∈ b.list s, v.Accepts r ∧ ∃ id, r.id = .str id
  /-- No two places of the book hold rules of the same id. -/
  distinct : ∀ s t (i j : Nat) r r', (b.list s)[i]? = some r → (b.list t)[j]? = some r' →
    r.id = r'.id → s = t ∧ i = j
  /-- An id has one owner at most, and the owned ids are the listed ones. -/
  ownedOnce : b.owners.keys.Nodup
  owned : ∀ id s, b.owners.get? id = some s ↔ ∃ r ∈ b.list s, r.id = .str id
  /-- A rule is found by its id exactly when it is listed. -/
  found : ∀ id r, b.get id none = .ok r ↔ ∃ s, r ∈ b.list s ∧ r.id = .str id
  /-- The subscriptions are those that have rules, each once, and the size counts all rules. -/
  counted : b.subscriptions.Nodup ∧ (∀ s, s ∈ b.subscriptions ↔ b.list s ≠ []) ∧
    b.size = (b.subscriptions.map fun s => (b.list s).length).sum

/-- **Every book that a run leads to is consistent.** -/
theorem reachable_consistent {v : Vocabulary} {b : RuleBook} (h : Reachable v b) :
    Consistent v b := by
  obtain ⟨hcoherent, rfl⟩ := h.keeps
  have htidy := hcoherent.tidy
  exact {
    placed := fun s i r hr =>
      ⟨(htidy s).placed i r hr, (htidy s).belongs r (List.mem_of_getElem? hr)⟩
    accepted := fun s r hr => ⟨(htidy s).accepted r hr, (htidy s).named r hr⟩
    distinct := fun s t i j r r' hr hr' hid => eq_of_ids_eq hcoherent hr hr' hid
    ownedOnce := hcoherent.ownedOnce
    owned := hcoherent.owner_iff
    found := get_eq_ok_iff hcoherent
    counted := ⟨nodup_subscriptions hcoherent, mem_subscriptions_iff hcoherent,
      size_eq_sum hcoherent⟩ }

/-- Two rules in two subscriptions; the first switching names the wrong owner and is refused. -/
theorem reachable_consistent_two_subscriptions :
    let draft : String → Draft := fun s =>
      { subscription := s, chain := .holds [.holds (.ofNode "hop")], target := .holds .all }
    let requests : List Request := [.create default (draft "a"), .create default (draft "b"),
      .toggle default "y" (some "a"), .toggle default "y" none]
    let b := requests.foldl (fun b q => (b.perform q).2)
      { vocabulary := .standard, ids := { given := ["x", "y"] } }
    b.owners = [("x", "a"), ("y", "b")] ∧ (b.list "b").map Rule.isEnabled = [false] ∧
      Reachable .standard b ∧ Consistent .standard b := by
  intro draft requests b
  have howners : b.owners = [("x", "a"), ("y", "b")] ∧
      (b.list "b").map Rule.isEnabled = [false] := by
    subst b requests draft
    decide +kernel
  have hreachable : Reachable .standard b :=
    Reachable.foldl (Reachable.empty { given := ["x", "y"] }) requests
  exact ⟨howners.1, howners.2, hreachable, reachable_consistent hreachable⟩

end DialPlan.RuleBook
