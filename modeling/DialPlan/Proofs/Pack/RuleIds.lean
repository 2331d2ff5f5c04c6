import DialPlan.Pack.Loading
import DialPlan.Proofs.RuleBook.Backup

/-!
# The ids of a pack's rules

A rule of a pack may give its id, and gets one made of the subscription and its position when it
does not.  Given ids are checked against each other when the pack is read; made ids are pairwise
distinct because positions are.  But a given id is not checked against the made ones: where it
anticipates the id that another rule gets, the two rules share it, and no rule book takes the
records of such a pack in (`loaded_ids_nodup_iff`).
-/

namespace DialPlan

namespace PackParts

/-- **A given id anticipates a made one**: some rule is without an id, and another one gives itself
the id that is made for the position of the first. -/
def Anticipates (p : PackParts) : Prop :=
  ∃ (i : Nat) (r s : PackRule) (id : Value), p.rules[i]? = some r ∧ r.id = none ∧
    s ∈ p.rules ∧ s.id = some id ∧ id.text = p.subscription.text ++ "-" ++ toString (i + 1)

variable {p : PackParts}

/-- Where no id is repeated, two rules that both give their ids give different ones. -/
theorem pairwise_of_repeatedIds (h : p.repeatedIds.isEmpty = true) :
    p.rules.Pairwise fun r s => ∀ a ∈ r.id, ∀ b ∈ s.id, a.text ≠ b.text := by
  have hcount : ∀ id ∈ p.givenIds, p.givenIds.count id ≤ 1 := by
    intro id hid
    by_contra hmore
    have hmem : id ∈ p.repeatedIds := by
      rw [repeatedIds, List.mem_mergeSort, List.mem_eraseDups, List.mem_filter]
      exact ⟨hid, decide_eq_true (by omega)⟩
    rw [List.isEmpty_iff.mp h] at hmem
    exact absurd hmem List.not_mem_nil
  have hnodup : p.givenIds.Nodup := by
    rw [List.nodup_iff_count_le_one]
    intro id
    by_cases hid : id ∈ p.givenIds
    · exact hcount id hid
    · rw [List.count_eq_zero_of_not_mem hid]
      exact Nat.zero_le 1
  refine (List.pairwise_filterMap.mp hnodup).imp ?_
  intro r s hrs a ha b hb
  exact hrs a.text (Option.map_eq_some_iff.mpr ⟨a, ha, rfl⟩) b.text
    (Option.map_eq_some_iff.mpr ⟨b, hb, rfl⟩)

theorem checkIds_eq_good_iff {q : PackParts} : q.checkIds = .good p ↔
    (q.rules.all fun r => r.id.all Value.printable) = true ∧ q.repeatedIds.isEmpty = true ∧
      q = p := by
  unfold checkIds
  cases q.rules.all fun r => r.id.all Value.printable with
  | false => simp
  | true => cases q.repeatedIds.isEmpty <;> simp

theorem repeatedIds_of_readPackEntries {entries : Entries}
    (h : readPackEntries entries = .good p) : p.repeatedIds.isEmpty = true := by
  obtain ⟨q, -, hcheck⟩ := Checked.andThen_eq_good_iff.mp h
  obtain ⟨-, hempty, rfl⟩ := checkIds_eq_good_iff.mp hcheck
  exact hempty

/-- Where the templates and the rules of a pack are read. -/
theorem fields_of_readPackEntries {entries : Entries} (h : readPackEntries entries = .good p) :
    Schema.field entries "templates" "templates" (Schema.table readHop) [] = .good p.templates ∧
      Schema.field entries "rules" "rules" (Schema.list (Schema.model readPackRule)) [] =
        .good p.rules := by
  obtain ⟨q, hq, hcheck⟩ := Checked.andThen_eq_good_iff.mp h
  obtain ⟨-, -, rfl⟩ := checkIds_eq_good_iff.mp hcheck
  simp only [Checked.seq_eq_good_iff, Checked.map_apply_eq_good_iff] at hq
  obtain ⟨_, _, ⟨_, rules, ⟨_, _, ⟨_, _, ⟨_, templates, ⟨_, _, ⟨_, _, ⟨_, _, ⟨_, _, ⟨_, -, rfl⟩, -,
    rfl⟩, -, rfl⟩, -, rfl⟩, -, rfl⟩, htemplates, rfl⟩, -, rfl⟩, -, rfl⟩, hrules, rfl⟩, -, rfl⟩ := hq
  exact ⟨htemplates, hrules⟩

/-- Where the chain and the target of a rule of a pack are read. -/
theorem fields_of_readPackRule {entries : Entries} {r : PackRule}
    (h : readPackRule entries = .good r) :
    Schema.field entries "chain" "chain" (Schema.list readHop) [] = .good r.chain ∧
      Schema.field entries "target" "target" readTarget .all = .good r.target := by
  simp only [readPackRule, Checked.seq_eq_good_iff, Checked.map_apply_eq_good_iff] at h
  obtain ⟨_, _, ⟨_, target, ⟨_, chain, ⟨_, _, ⟨_, _, ⟨_, -, rfl⟩, -, rfl⟩, -, rfl⟩, hchain, rfl⟩,
    htarget, rfl⟩, -, rfl⟩ := h
  exact ⟨hchain, htarget⟩

end PackParts

namespace Pack

variable {now : DateTime} {strict : Bool} {files : Files} {source : Option String} {base : Path}
  {v : Value} {pack : Pack} {subscription : String}

/-! ## Given and made ids -/

theorem madeId_injective {i j : Nat}
    (h : subscription ++ "-" ++ toString (i + 1) = subscription ++ "-" ++ toString (j + 1)) :
    i = j := by
  have hdigits : decimalDigits (i + 1) = decimalDigits (j + 1) := by
    simpa [decimalDigits] using congrArg String.toList h
  exact Nat.succ.inj (decimalDigits_injective hdigits)

theorem ids_rulesOf (rules : List PackRule) :
    (rulesOf now subscription rules).map (·.id) =
      rules.mapIdx fun i r => .str (ruleId subscription i r) := by
  apply List.ext_getElem?
  intro i
  simp only [rulesOf, List.getElem?_map, List.getElem?_mapIdx, Option.map_map]
  rfl

/-- **Two rules share an id** exactly when one of them anticipates the id that is made for the
other. -/
theorem nodup_ids_iff {p : PackParts} (h : p.repeatedIds.isEmpty = true) :
    ((rulesOf now p.subscription.text p.rules).map (·.id)).Nodup ↔ ¬ p.Anticipates := by
  have hgiven := List.pairwise_iff_getElem.mp (PackParts.pairwise_of_repeatedIds h)
  rw [ids_rulesOf, List.nodup_iff_pairwise_ne, List.pairwise_iff_getElem]
  simp only [List.length_mapIdx, List.getElem_mapIdx, ne_eq, Value.str.injEq]
  constructor
  · rintro hdistinct ⟨i, r, s, id, hr, hnone, hs, hid, htext⟩
    obtain ⟨hi, rfl⟩ := List.getElem?_eq_some_iff.mp hr
    obtain ⟨j, hj, rfl⟩ := List.getElem_of_mem hs
    have hshared : ruleId p.subscription.text i p.rules[i] =
        ruleId p.subscription.text j p.rules[j] := by
      rw [ruleId, ruleId, hnone, hid]
      exact htext.symm
    rcases Nat.lt_trichotomy i j with hlt | rfl | hlt
    · exact hdistinct i j hi hj hlt hshared
    · rw [hnone] at hid
      cases hid
    · exact hdistinct j i hj hi hlt hshared.symm
  · -- two made ids differ in their positions and two given ones are checked, so one of each is left
    intro hnot i j hi hj hlt hshared
    unfold ruleId at hshared
    cases hr : p.rules[i].id with
    | none =>
      cases hs : p.rules[j].id with
      | none =>
        rw [hr, hs] at hshared
        exact absurd (madeId_injective hshared) (Nat.ne_of_lt hlt)
      | some b =>
        rw [hr, hs] at hshared
        exact hnot ⟨i, _, _, b, List.getElem?_eq_getElem hi, hr, List.getElem_mem hj, hs,
          hshared.symm⟩
    | some a =>
      cases hs : p.rules[j].id with
      | none =>
        rw [hr, hs] at hshared
        exact hnot ⟨j, _, _, a, List.getElem?_eq_getElem hj, hs, List.getElem_mem hi, hr, hshared⟩
      | some b =>
        rw [hr, hs] at hshared
        exact hgiven i j hi hj hlt a hr b hs hshared

/-! ## Loaded packs -/

/-- The templates that a pack with these parts knows. -/
def knownTemplates (clashGroups : List TemplateGroup) (p : PackParts) : Table Hop :=
  Table.merge (ProxyGroup.templates clashGroups) p.templates

theorem templates_vocabularyOf (parts : Option VocabularyParts) (templates : Table Hop) :
    (vocabularyOf parts templates).templates = templates.map fun e => (e.1, .holds e.2) := by
  cases parts <;> rfl

/-- The pack that is built of these parts. -/
def built (now : DateTime) (source : Option String) (clashGroups : List TemplateGroup)
    (p : PackParts) : Pack where
  subscription := p.subscription.text
  rules := rulesOf now p.subscription.text p.rules
  vocabulary := vocabularyOf p.vocabulary (knownTemplates clashGroups p)
  groups := p.groups
  clashGroups
  name := p.name
  description := p.description
  source

/-- **The parts of a pack** are read without a fault, or with one that comes later. -/
theorem readParts_eq_ok_iff {entries : Entries} {parts : PackParts} {late : Option Fault} :
    readParts entries = .ok (parts, late) ↔
      readPackEntries entries = .good parts ∧ late = none ∨
        ∃ f, readPackEntries entries = .stuck f parts ∧ late = some f := by
  unfold readParts
  cases readPackEntries entries with
  | good p => simp [eq_comm]
  | stuck f p => simp [eq_comm]
  | bad issues => simp

/-- The steps that parts of a fitting version are loaded in, once their subscription is put into
words. -/
theorem ofValue_of_parts {entries : Entries} {parts : PackParts} {late : Option Fault}
    (hversion : requireVersion strict entries = .ok ())
    (hparts : readParts entries = .ok (parts, late))
    (hprint : parts.subscription.printable = true) :
    ofValue now strict files source base (.dict entries) =
      readClashGroups files base parts.clashTemplate >>= fun clashGroups =>
        match late with
        | some f => .error (.fault f)
        | none =>
          requireValid (built now source clashGroups parts).vocabulary
            (knownTemplates clashGroups parts) (built now source clashGroups parts).rules >>=
              fun _ => .ok (built now source clashGroups parts) := by
  have hsubscription := Value.asText_eq_ok_iff.mpr ⟨hprint, rfl⟩
  simp only [ofValue, hversion, hparts, hsubscription, Outcome.ofFault_ok, ok_bind]
  cases late <;> rfl

/-- **What a pack that is loaded comes from**: parts that are read off an object of a fitting
version, with a readable template, whose templates and rules are valid. -/
theorem ofValue_eq_ok_iff : ofValue now strict files source base v = .ok pack ↔
    ∃ entries parts clashGroups, v = .dict entries ∧ requireVersion strict entries = .ok () ∧
      readPackEntries entries = .good parts ∧ parts.subscription.printable = true ∧
      readClashGroups files base parts.clashTemplate = .ok clashGroups ∧
      requireValid (built now source clashGroups parts).vocabulary
        (knownTemplates clashGroups parts) (built now source clashGroups parts).rules = .ok () ∧
      pack = built now source clashGroups parts := by
  cases v with
  | dict entries =>
    constructor
    · intro h
      obtain ⟨⟨⟩, hversion, hsteps⟩ := bind_eq_ok_iff.mp h
      obtain ⟨⟨parts, late⟩, hparts, hsteps⟩ := bind_eq_ok_iff.mp hsteps
      obtain ⟨_, hsubscription, -⟩ := bind_eq_ok_iff.mp hsteps
      have hprint := (Value.asText_eq_ok_iff.mp (Outcome.ofFault_eq_ok_iff.mp hsubscription)).1
      rw [ofValue_of_parts hversion hparts hprint] at h
      obtain ⟨clashGroups, hclash, h⟩ := bind_eq_ok_iff.mp h
      rcases readParts_eq_ok_iff.mp hparts with ⟨hgood, rfl⟩ | ⟨f, -, rfl⟩
      · obtain ⟨⟨⟩, hvalid, h⟩ := bind_eq_ok_iff.mp h
        cases h
        exact ⟨entries, parts, clashGroups, rfl, hversion, hgood, hprint, hclash, hvalid, rfl⟩
      · cases h
    · rintro ⟨_, parts, clashGroups, ⟨⟩, hversion, hgood, hprint, hclash, hvalid, rfl⟩
      rw [ofValue_of_parts hversion (readParts_eq_ok_iff.mpr (Or.inl ⟨hgood, rfl⟩)) hprint, hclash,
        ok_bind]
      exact bind_eq_ok_iff.mpr ⟨(), hvalid, rfl⟩
  | _ =>
    refine ⟨fun h => absurd h Outcome.refuse_ne_ok, ?_⟩
    rintro ⟨_, _, _, ⟨⟩, _⟩

/-- The rules that records are read as have the ids of the rules that the records were made of. -/
theorem ids_of_read {rules again : List Rule} {records : List Record}
    (hnamed : ∀ r ∈ rules, ∃ id, r.id = .str id)
    (hrecords : List.Forall₂ (fun r record => r.toRecord = .ok record) rules records)
    (hread : List.Forall₂ (fun w r => readRecord now w = .ok r) (records.map (·.toValue)) again) :
    again.map (·.id) = rules.map (·.id) := by
  induction hrecords generalizing again with
  | nil =>
    cases hread
    rfl
  | @cons r record rules records hrecord _ ih =>
    obtain ⟨⟨id, hid⟩, hnamed⟩ := List.forall_mem_cons.mp hnamed
    cases hread with
    | @cons _ r' _ again hr' hread =>
      have hkept : record.id = .str id := (id_of_toRecord hrecord).trans hid
      rw [List.map_cons, List.map_cons, ih hnamed hread, id_of_readRecord_toValue hr' hkept, hid]

/-- The records of a pack whose rules share an id go into no rule book, and leave it as it is. -/
theorem importRecords_of_not_nodup {p : Pack} (hshared : ¬ (p.rules.map (·.id)).Nodup)
    (hnamed : ∀ r ∈ p.rules, ∃ id, r.id = .str id) {records : List Record}
    (hrecords : p.records = .ok records) (later : DateTime) (b : RuleBook) :
    ∃ f, b.importRecords later (.list (records.map (·.toValue))) = (.error f, b) := by
  have hnot : ¬ ∃ again, RuleBook.Importable later b (records.map (·.toValue)) again := by
    rintro ⟨again, himportable⟩
    have hids := ids_of_read hnamed (recordsOf_eq_ok_iff.mp hrecords) himportable.read
    exact hshared (hids ▸ himportable.distinct)
  have hstate := RuleBook.importRecords_of_not_importable hnot
  cases hanswer : (b.importRecords later (.list (records.map (·.toValue)))).1 with
  | ok answer => exact absurd (RuleBook.importRecords_eq_ok_iff.mp ⟨answer, hanswer⟩) hnot
  | error f => exact ⟨f, Prod.ext hanswer hstate⟩

/-- **The ids of a loaded pack are pairwise distinct exactly when no given id anticipates a made
one.**  Where one does, every rule book refuses the records of the pack and stays as it is. -/
theorem loaded_ids_nodup_iff (h : ofValue now strict files source base v = .ok pack) :
    ∃ entries parts, v = .dict entries ∧ readPackEntries entries = .good parts ∧
      pack.subscription = parts.subscription.text ∧
      ((pack.rules.map (·.id)).Nodup ↔ ¬ parts.Anticipates) ∧
      (parts.Anticipates → ∀ records, pack.records = .ok records → ∀ (later : DateTime)
        (b : RuleBook), ∃ f,
          b.importRecords later (.list (records.map (·.toValue))) = (.error f, b)) := by
  obtain ⟨entries, parts, clashGroups, hv, -, hparts, -, -, -, hpack⟩ := ofValue_eq_ok_iff.mp h
  have hiff : (pack.rules.map (·.id)).Nodup ↔ ¬ parts.Anticipates := by
    rw [hpack]
    exact nodup_ids_iff (PackParts.repeatedIds_of_readPackEntries hparts)
  have hnamed : ∀ r ∈ pack.rules, ∃ id, r.id = .str id := by
    intro r hr
    rw [hpack, built, rulesOf] at hr
    obtain ⟨i, hi, rfl⟩ := List.mem_mapIdx.mp hr
    exact ⟨_, rfl⟩
  have hsubscription : pack.subscription = parts.subscription.text := by rw [hpack, built]
  refine ⟨entries, parts, hv, hparts, hsubscription, hiff, ?_⟩
  intro hshared records hrecords later b
  have hrepeated : ¬ (pack.rules.map (·.id)).Nodup := fun hnodup => hiff.mp hnodup hshared
  exact importRecords_of_not_nodup hrepeated hnamed hrecords later b

/-- A pack of two rules in data: the first gives itself an id, the second goes without. -/
def pairData (first : String) : Entries :=
  [(.str "subscription_id", .str "S"),
    (.str "rules", .list [.dict [(.str "id", .str first)], .dict []])]

/-- Its parts. -/
def pairParts (first : String) : PackParts where
  subscription := .str "S"
  name := none
  description := none
  vocabulary := none
  templates := []
  groups := []
  clashTemplate := none
  rules := [⟨some (.str first), "", true, [], .all⟩, ⟨none, "", true, [], .all⟩]

/-- The pack that is loaded from them. -/
def pairPack (first : String) : Pack := built default none [] (pairParts first)

theorem ofValue_pairData {first : String}
    (hparts : readPackEntries (pairData first) = .good (pairParts first))
    (hvalid : requireValid (pairPack first).vocabulary [] (pairPack first).rules = .ok ()) :
    ofValue default true [] none {} (.dict (pairData first)) = .ok (pairPack first) := by
  have hversion : requireVersion true (pairData first) = .ok () := by
    have hmissing : Entries.get? (pairData first) "schema_version" = none := by
      simp [pairData, Entries.get?]
    have hcompatible : isCompatible (pairData first) = .ok true := by
      simp only [isCompatible, hmissing, Option.getD_none, Value.asText_str, ok_bind]
      rfl
    simp only [requireVersion, if_true, hcompatible, Outcome.ofFault_ok, ok_bind]
    rfl
  exact ofValue_eq_ok_iff.mpr
    ⟨_, pairParts first, [], rfl, hversion, hparts, Value.printable_str "S", rfl, hvalid, rfl⟩

/-- A pair with distinct ids, and a pair that no rule book takes in. -/
theorem loaded_ids_nodup_iff_pair :
    (ofValue default true [] none {} (.dict (pairData "x")) = .ok (pairPack "x") ∧
        ((pairPack "x").rules.map (·.id)).Nodup) ∧
      ∃ records, (pairPack "S-2").records = .ok records ∧ ∀ (later : DateTime) (b : RuleBook),
        ∃ f, b.importRecords later (.list (records.map (·.toValue))) = (.error f, b) := by
  constructor
  · have hparts : readPackEntries (pairData "x") = .good (pairParts "x") := by
      with_unfolding_all rfl
    have hload := ofValue_pairData hparts rfl
    obtain ⟨_, parts, ⟨⟩, hread, -, hiff, -⟩ := loaded_ids_nodup_iff hload
    cases hparts.symm.trans hread
    refine ⟨hload, hiff.mpr ?_⟩
    rintro ⟨i, r, s, id, hr, hnone, hs, hid, htext⟩
    rcases List.mem_cons.mp hs with rfl | hs
    · cases hid
      cases i with
      | zero =>
        cases hr
        cases hnone
      | succ i =>
        cases i with
        | zero => exact absurd htext (by decide)
        | succ i => cases hr
    · cases List.mem_singleton.mp hs
      cases hid
  · have hparts : readPackEntries (pairData "S-2") = .good (pairParts "S-2") := by
      with_unfolding_all rfl
    obtain ⟨_, parts, ⟨⟩, hread, -, -, hrefused⟩ :=
      loaded_ids_nodup_iff (ofValue_pairData hparts rfl)
    cases hparts.symm.trans hread
    have hshared : (pairParts "S-2").Anticipates :=
      ⟨1, _, _, .str "S-2", rfl, rfl, List.mem_cons_self, rfl, by decide⟩
    exact ⟨_, rfl, fun later b => hrefused hshared _ rfl later b⟩

/-- The second of two rules gets the id that the first one gives itself. -/
theorem distinct_ids_not_ensured :
    ¬ ∀ (now : DateTime) (strict : Bool) (files : Files) (source : Option String) (base : Path)
      (v : Value) (pack : Pack), ofValue now strict files source base v = .ok pack →
        (pack.rules.map (·.id)).Nodup := by
  intro h
  have hparts : readPackEntries (pairData "S-2") = .good (pairParts "S-2") := by
    with_unfolding_all rfl
  have hnodup := h _ _ _ _ _ _ _ (ofValue_pairData hparts rfl)
  revert hnodup
  decide

end Pack

end DialPlan
