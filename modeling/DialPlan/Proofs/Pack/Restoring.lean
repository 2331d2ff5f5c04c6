import DialPlan.Proofs.Pack.RuleIds
import DialPlan.Proofs.RuleBook.Isolation

/-!
# Packs in rule books

The rules of a pack that was loaded from JSON text come from data that can be written, pass the
check and stand at their own positions.  So their records are read as the same rules again, a rule
book with the vocabulary of the pack takes them in, and the subscription has the rules of the pack
afterwards, in every part (`loaded_pack_restored`).

The way leads through two readers, one for the rules of a pack and one for records, which share no
more than the readers of hops and targets.  `Rule.Decoded` is what the first gives and the second
gives back.
-/

namespace DialPlan

namespace Pack

variable {now : DateTime} {strict : Bool} {files : Files} {source : Option String} {base : Path}
  {v : Value} {pack : Pack}

/-! ## The rules of a pack are accepted -/

theorem ruleErrors_eq_nil_iff {v : Vocabulary} {r : Rule} :
    v.ruleErrors r = .ok [] ↔ v.Accepts r := by
  unfold Vocabulary.ruleErrors Vocabulary.Accepts
  cases v.checkRule r with
  | error f => simp [Except.map]
  | ok problems => simp [Except.map]

theorem rulesErrors_eq_nil_iff {v : Vocabulary} {rules : List Rule} :
    rulesErrors v rules = .ok [] ↔ ∀ r ∈ rules, v.Accepts r := by
  induction rules with
  | nil => simp [rulesErrors]
  | cons r rules ih =>
    rw [List.forall_mem_cons, ← ih, ← ruleErrors_eq_nil_iff, rulesErrors]
    simp only [bind_eq_ok_iff, Except.ok.injEq]
    constructor
    · rintro ⟨errors, herrors, rest, hrest, h⟩
      split at h
      · next hempty => exact ⟨List.isEmpty_iff.mp hempty ▸ herrors, h ▸ hrest⟩
      · cases h
    · rintro ⟨hr, hrules⟩
      exact ⟨[], hr, [], hrules, rfl⟩

/-- **A valid pack has accepted rules.** -/
theorem accepts_of_requireValid {v : Vocabulary} {templates : Table Hop} {rules : List Rule}
    (h : requireValid v templates rules = .ok ()) : ∀ r ∈ rules, v.Accepts r := by
  simp only [requireValid, bind_eq_ok_iff, Outcome.ofFault_eq_ok_iff] at h
  obtain ⟨ofTemplates, -, ofRules, hrules, h⟩ := h
  split at h
  · next hempty =>
    have hnone := Table.merge_eq_nil_iff.mp (List.isEmpty_iff.mp hempty)
    rw [(List.append_eq_nil_iff.mp hnone.2).2] at hrules
    exact rulesErrors_eq_nil_iff.mp hrules
  · exact absurd h Outcome.refuse_ne_ok

/-! ## The rules of a pack come from data that can be written -/

/-- What is read of the chain and of the target of a rule. -/
theorem decoded_of_readPackRule {entries : Entries} (hentries : ∀ e ∈ entries, e.2.Writable)
    {r : PackRule} (h : readPackRule entries = .good r) :
    (∀ hop ∈ r.chain, hop.Decoded Value.Writable) ∧ r.target.Decoded Value.Writable := by
  obtain ⟨hchain, htarget⟩ := PackParts.fields_of_readPackRule h
  constructor
  · exact Schema.of_field (P := fun hops => ∀ hop ∈ hops, hop.Decoded Value.Writable) hchain nofun
      fun v hlookup => decoded_of_readHops Value.Writable.kept (Schema.of_lookup hentries hlookup)
  · exact Schema.of_field htarget trivial fun v hlookup =>
      decoded_of_readTarget Value.Writable.hereditary (Schema.of_lookup hentries hlookup)

/-- **The rules of a pack come from data that can be written** when the pack does. -/
theorem decoded_rulesOf {entries : Entries} (hentries : ∀ e ∈ entries, e.2.Writable)
    {p : PackParts} (h : readPackEntries entries = .good p) (subscription : String) :
    ∀ r ∈ rulesOf now subscription p.rules, r.Decoded Value.Writable := by
  have hread : ∀ r ∈ p.rules,
      (∀ hop ∈ r.chain, hop.Decoded Value.Writable) ∧ r.target.Decoded Value.Writable := by
    refine Schema.of_field
      (P := fun rules => ∀ r ∈ rules,
        (∀ hop ∈ r.chain, hop.Decoded Value.Writable) ∧ r.target.Decoded Value.Writable)
      (PackParts.fields_of_readPackEntries h).2 nofun fun v hlookup hlist => ?_
    have hv : v.Writable := Schema.of_lookup hentries hlookup
    have hplain := hv.plain
    cases hplain with
    | @list items _ =>
      intro r hr
      have hmem : Checked.good r ∈ items.map (Schema.model readPackRule) :=
        Schema.list_eq_good_iff.mp hlist ▸ List.mem_map_of_mem hr
      obtain ⟨item, hitem, hmodel⟩ := List.mem_map.mp hmem
      have hwritable := Value.Writable.hereditary.items hv item hitem
      cases item with
      | dict fields =>
        exact decoded_of_readPackRule (Value.Writable.hereditary.values hwritable) hmodel
      | _ => cases hmodel
    | _ => cases hlist
  intro r hr
  obtain ⟨i, hi, rfl⟩ := List.mem_mapIdx.mp hr
  obtain ⟨hchain, htarget⟩ := hread _ (List.getElem_mem hi)
  exact ⟨⟨_, rfl⟩, ⟨_, rfl⟩, ⟨_, rfl⟩, Int.natCast_nonneg i, ⟨_, rfl, hchain⟩, ⟨_, rfl, htarget⟩⟩

theorem tidy_rulesOf {v : Vocabulary} {subscription : String} {rules : List PackRule}
    (hids : ((rulesOf now subscription rules).map (·.id)).Nodup)
    (haccepts : ∀ r ∈ rulesOf now subscription rules, v.Accepts r) :
    Tidy v subscription (rulesOf now subscription rules) where
  belongs r hr := by
    obtain ⟨i, hi, rfl⟩ := List.mem_mapIdx.mp hr
    rfl
  named r hr := by
    obtain ⟨i, hi, rfl⟩ := List.mem_mapIdx.mp hr
    exact ⟨_, rfl⟩
  distinct := hids
  accepted := haccepts
  placed i r hr := by
    rw [rulesOf, List.getElem?_mapIdx, Option.map_eq_some_iff] at hr
    obtain ⟨r', -, rfl⟩ := hr
    rfl

/-! ## The records of a pack in a rule book -/

theorem rulesFor_eq_self {s : String} {rules : List Rule} (h : ∀ r ∈ rules, r.subscription = s) :
    RuleBook.rulesFor s rules = rules :=
  List.filter_eq_self.mpr fun r hr => decide_eq_true (h r hr)

/-- Rules of one subscription are one group. -/
theorem bySubscription_eq_singleton {s : String} {rules : List Rule} (hne : rules ≠ [])
    (h : ∀ r ∈ rules, r.subscription = s) : RuleBook.bySubscription rules = [(s, rules)] := by
  have hgrow : ∀ more : List Rule, (∀ r ∈ more, r.subscription = s) → ∀ group,
      more.foldl RuleBook.joinGroup [(s, group)] = [(s, group ++ more)] := by
    intro more
    induction more with
    | nil => exact fun _ group => by rw [List.append_nil]; rfl
    | cons r more ih =>
      intro hmore group
      obtain ⟨hr, hmore⟩ := List.forall_mem_cons.mp hmore
      have hjoin : RuleBook.joinGroup [(s, group)] r = [(s, group ++ [r])] := by
        simp [RuleBook.joinGroup, hr, Table.put, Table.get?]
      rw [List.foldl_cons, hjoin, ih hmore, List.append_assoc, List.singleton_append]
  cases rules with
  | nil => exact absurd rfl hne
  | cons r rules =>
    obtain ⟨hr, hrules⟩ := List.forall_mem_cons.mp h
    have hjoin : RuleBook.joinGroup [] r = [(s, [r])] := by
      simp [RuleBook.joinGroup, hr, Table.put]
    rw [RuleBook.bySubscription_eq, List.foldl_cons, hjoin, hgrow rules hrules,
      List.singleton_append]

/-- **A book takes in the records of rules in order**, which none of its other subscriptions has an
id of. -/
theorem importRecords_of_tidy {later : DateTime} {b : RuleBook} {s : String} {rules : List Rule}
    {items : List Value} (hne : rules ≠ []) (htidy : Tidy b.vocabulary s rules)
    (hread : List.Forall₂ (fun w r => readRecord later w = .ok r) items rules)
    (hfree : ∀ id, RuleBook.Lists rules id → ∀ t, b.owners.get? id = some t → t = s) :
    (b.importRecords later (.list items)).1 = .ok rules ∧
      (b.importRecords later (.list items)).2.list s = rules ∧
      ∀ t, t ≠ s → (b.importRecords later (.list items)).2.list t = b.list t := by
  have hmentioned : ∀ t, t ∈ rules.map (·.subscription) ↔ t = s := by
    intro t
    constructor
    · intro ht
      obtain ⟨r, hr, rfl⟩ := List.mem_map.mp ht
      exact htidy.belongs r hr
    · rintro rfl
      obtain ⟨r, hr⟩ := List.exists_mem_of_ne_nil rules hne
      exact List.mem_map.mpr ⟨r, hr, htidy.belongs r hr⟩
  have himportable : RuleBook.Importable later b items rules := {
    read := hread
    accepted := htidy.accepted
    distinct := htidy.distinct
    available := fun r hr id t hid hown => (hmentioned t).mpr (hfree id ⟨r, hr, hid⟩ t hown) }
  have hlist := RuleBook.list_of_importable himportable
  refine ⟨?_, ?_, fun t ht => ?_⟩
  · rw [RuleBook.importRecords_of_importable himportable,
      bySubscription_eq_singleton hne htidy.belongs]
    show Except.ok (RuleBook.ordered rules ++ []) = _
    rw [List.append_nil, RuleBook.ordered_of_tidy htidy]
  · rw [hlist, if_pos ((hmentioned s).mpr rfl), rulesFor_eq_self htidy.belongs,
      RuleBook.ordered_of_tidy htidy]
  · rw [hlist, if_neg (mt (hmentioned t).mp ht)]

/-- What becomes of a pack that was loaded from a value that can be written. -/
theorem restored_of_writable (hwritable : v.Writable)
    (hload : ofValue now strict files source base v = .ok pack) (hne : pack.rules ≠ [])
    (hids : (pack.rules.map (·.id)).Nodup) {b : RuleBook}
    (hvocabulary : b.vocabulary = pack.vocabulary)
    (hfree : ∀ id, RuleBook.Lists pack.rules id → ∀ t, b.owners.get? id = some t →
      t = pack.subscription) (later : DateTime) :
    ∃ records, pack.records = .ok records ∧
      let imported := b.importRecords later (.list (records.map Record.toValue))
      imported.1 = .ok pack.rules ∧ imported.2.list pack.subscription = pack.rules ∧
        ∀ t, t ≠ pack.subscription → imported.2.list t = b.list t := by
  obtain ⟨entries, parts, clashGroups, rfl, -, hparts, -, -, hvalid, rfl⟩ :=
    ofValue_eq_ok_iff.mp hload
  have htidy : Tidy b.vocabulary parts.subscription.text
      (rulesOf now parts.subscription.text parts.rules) := by
    rw [hvocabulary]
    exact tidy_rulesOf hids (accepts_of_requireValid hvalid)
  obtain ⟨records, hrecords, hread⟩ :=
    RuleBook.exists_records (decoded_rulesOf (Value.Writable.hereditary.values hwritable) hparts
      parts.subscription.text) later
  exact ⟨records, hrecords, importRecords_of_tidy hne htidy hread hfree⟩

/-- **A loaded pack survives the trip through a rule book.**  The pack is loaded from JSON text, has
rules, and their ids are pairwise distinct; the book is one that a run led to, with the vocabulary
of the pack, and no other subscription owns one of these ids.  Then the pack has records, the book
takes them in, its subscription has the rules of the pack afterwards, and every other subscription
is untouched. -/
theorem loaded_pack_restored {format text : String} (hformat : Text.lower format = "json")
    (hload : ofText now strict files format text = .ok pack) (hne : pack.rules ≠ [])
    (hids : (pack.rules.map (·.id)).Nodup) {b : RuleBook}
    (hb : RuleBook.Reachable pack.vocabulary b)
    (hfree : ∀ id, RuleBook.Lists pack.rules id → ∀ t, b.owners.get? id = some t →
      t = pack.subscription) (later : DateTime) :
    ∃ records after, pack.records = .ok records ∧
      b.importRecords later (.list (records.map Record.toValue)) = (.ok pack.rules, after) ∧
      after.list pack.subscription = pack.rules ∧
      ∀ t, t ≠ pack.subscription → RuleBook.Untouched t b after := by
  obtain ⟨v, hread, hvalue⟩ : ∃ v, Json.read text = .ok v ∧
      ofValue now strict files none {} v = .ok pack := by
    unfold ofText at hload
    rw [if_pos hformat] at hload
    split at hload
    · next v hv => exact ⟨v, Files.json_eq_ok_iff.mp hv, hload⟩
    · exact absurd hload Outcome.refuse_ne_ok
    · cases hload
  -- the text matters only in that it holds values that can be written, which records can hold too
  obtain ⟨hcoherent, hvocabulary⟩ := hb.keeps
  obtain ⟨records, hrecords, hanswer, hlist, hothers⟩ :=
    restored_of_writable (Json.writable_of_read hread) hvalue hne hids hvocabulary hfree later
  refine ⟨records, _, hrecords, Prod.ext hanswer rfl, hlist, fun t ht => ?_⟩
  have hafter := (RuleBook.Keeps.importRecords hcoherent later
    (.list (records.map Record.toValue))).1
  exact RuleBook.untouched_of_list hcoherent hafter (hothers t ht)

/-- A pair of rules that meets an older rule of one of their ids, and a rule of another
subscription. -/
theorem loaded_pack_restored_pair :
    let text := "\x7b\"subscription_id\":\"S\",\"rules\":[\x7b\"id\":\"x\"\x7d,\x7b\x7d]\x7d"
    let draft : String → Draft := fun s => { subscription := s, target := .holds .all }
    let requests : List RuleBook.Request :=
      [.create default (draft "S"), .create default (draft "T")]
    let b := requests.foldl (fun b q => (b.perform q).2)
      { vocabulary := (pairPack "x").vocabulary, ids := { given := ["x", "y"] } }
    ofText default true [] "JSON" text = .ok (pairPack "x") ∧ b.owners = [("x", "S"), ("y", "T")] ∧
      ∃ records after, (pairPack "x").records = .ok records ∧
        b.importRecords default (.list (records.map Record.toValue)) =
          (.ok (pairPack "x").rules, after) ∧
        after.list "S" = (pairPack "x").rules ∧ RuleBook.Untouched "T" b after := by
  intro text draft requests b
  have hparts : readPackEntries (pairData "x") = .good (pairParts "x") := by
    with_unfolding_all rfl
  have hread : Files.json text = .ok (.dict (pairData "x")) := by
    subst text
    decide +kernel
  have hload : ofText default true [] "JSON" text = .ok (pairPack "x") := by
    have hformat : Text.lower "JSON" = "json" := by decide +kernel
    rw [ofText, if_pos hformat, hread]
    exact ofValue_pairData hparts rfl
  have howners : b.owners = [("x", "S"), ("y", "T")] := by
    subst b requests draft
    decide +kernel
  have hreachable : RuleBook.Reachable (pairPack "x").vocabulary b :=
    RuleBook.Reachable.foldl (RuleBook.Reachable.empty { given := ["x", "y"] }) requests
  have hfree : ∀ id, RuleBook.Lists (pairPack "x").rules id → ∀ t, b.owners.get? id = some t →
      t = (pairPack "x").subscription := by
    intro id hid t hown
    rw [howners, Table.get?_cons, Table.get?_cons, Table.get?_nil] at hown
    split at hown
    · exact (Option.some.inj hown).symm
    · split at hown
      · next hy =>
        subst hy
        exact absurd hid (by decide)
      · cases hown
  obtain ⟨records, after, hrecords, himport, hlist, hothers⟩ :=
    loaded_pack_restored (by decide +kernel) hload (by decide) (by decide) hreachable hfree default
  exact ⟨hload, howners, records, after, hrecords, himport, hlist, hothers "T" (by decide)⟩

end Pack

end DialPlan
