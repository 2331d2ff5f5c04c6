import DialPlan.Proofs.Chain.Acceptance
import DialPlan.Proofs.Pack.Restoring
import DialPlan.Proofs.Rule.Breakdown

/-!
# The names in the leaves of a pack

A leaf names a field and an operator.  The check of a pack looks both up in its vocabulary, and an
evaluation goes one step further: it asks which of its own operators goes by that name.  A pack may
add operators to its vocabulary, so there can be none, and then the leaf passes the check and
degrades on every node.  Apart from that the two agree, for any vocabulary that is written into a
pack (`loaded_leaf_misnamed_iff`).

The link is that such a vocabulary keeps its operators under their own names
(`Vocabulary.NamesOperators`).  Conditions that the check passes over belong to hops that name their
proxy, and those are resolved without them (`resolveHop_of_reference`).
-/

namespace DialPlan

variable {v : Vocabulary} {p : Predicate} {n : NodeView}

/-! ## Names of leaves -/

/-- **A leaf cannot be used because of its names**, whatever its value and the node are. -/
def Degradation.OfNames : Degradation → Prop
  | unusable .. => False
  | _ => True

/-- **A leaf degrades on a node because of its names.** -/
def Predicate.Misnamed (v : Vocabulary) (p : Predicate) (n : NodeView) : Prop :=
  ∃ r d, p.judge v n = .ok r ∧ r.degraded = some d ∧ d.OfNames

/-- A leaf whose names are known degrades over its value. -/
theorem not_ofNames_of_judge {t : FieldType} {o : Operator} {actual : Option Value} {r : Verdict}
    {d : Degradation} (h : judge p t o actual = .ok r) (hd : r.degraded = some d) :
    ¬ d.OfNames := by
  by_cases harity : Vocabulary.stockArity o = .none
  · obtain ⟨b, hb⟩ := judge_of_presence harity actual
    rw [hb] at h
    cases h
    cases hd
  · cases actual with
    | none =>
      rw [judge_of_absent harity] at h
      cases h
      cases hd
    | some a =>
      rw [Condition.judge_of_arity harity] at h
      split at h
      · cases h
        cases hd
      · split at h
        · obtain ⟨⟨⟩, -, h⟩ := bind_eq_ok_iff.mp h
          cases h
          cases hd
          exact id
        · cases h

theorem Vocabulary.ofNames_of_find {d : Degradation} (h : v.find p = .error d) : d.OfNames := by
  unfold find at h
  split at h
  · cases h
    exact trivial
  split at h
  · cases h
    exact trivial
  split at h
  · split at h
    · cases h
      exact trivial
    · cases h
  · cases h
    exact trivial

/-- **Whether a leaf is misnamed is settled** before it looks at the node. -/
theorem Predicate.misnamed_iff : p.Misnamed v n ↔ ∃ d, v.find p = .error d := by
  unfold Misnamed judge
  cases hfind : v.find p with
  | error d =>
    refine iff_of_true ⟨_, d, rfl, rfl, Vocabulary.ofNames_of_find hfind⟩ ⟨d, rfl⟩
  | ok found =>
    refine iff_of_false ?_ nofun
    rintro ⟨r, d, hr, hd, hnames⟩
    exact not_ofNames_of_judge hr hd hnames

namespace Vocabulary

/-- **What the check of a leaf ensures about its names.** -/
theorem find_of_checkLeaf (hnames : v.NamesOperators) (h : v.checkLeaf p = .ok none) :
    ∃ field, v.find p = match Operator.ofName? p.operator with
      | none => .error (.unsupported p.operator)
      | some operator => .ok (field, operator) := by
  unfold checkLeaf at h
  split at h
  · cases h
  next field hfield =>
  split at h
  · cases h
  next o ho =>
  split at h
  · cases h
  next happlies =>
  have happlies : o.appliesTo field.type = true := by simpa using happlies
  have hname : o.name = p.operator := hnames _ o ho
  refine ⟨field, ?_⟩
  cases hown : Operator.ofName? p.operator with
  | none => simp [find, hfield, ho, happlies, hname, hown]
  | some operator => simp [find, hfield, ho, happlies, hname, hown]

/-! ## What the check looks at -/

theorem checkCondition_of_checkPlace {s : Slot Condition} (hcheck : v.checkPlace s = .ok []) :
    ∀ c ∈ s.part?.toList, v.checkCondition c = .ok [] := by
  intro c hc
  cases s with
  | foreign w => cases hc
  | holds d =>
    cases List.mem_singleton.mp hc
    exact hcheck

/-- The conditions of a hop that passes its check pass theirs, if the check looks at them. -/
theorem checkCondition_of_checkHop {h : Hop} (hcheck : v.checkHop h = .ok []) :
    ∀ c ∈ h.examined, v.checkCondition c = .ok [] := by
  unfold Hop.examined
  split
  · next hselector =>
    have hconditions := checkConditions_of_checkHop hselector hcheck
    unfold checkHop.checkConditions at hconditions
    cases hplace : h.conditions with
    | none => simp
    | some s =>
      rw [hplace] at hconditions
      exact checkCondition_of_checkPlace hconditions
  · simp

theorem checkCondition_of_checkTarget {t : Target} (hcheck : v.checkTarget (.holds t) = .ok []) :
    ∀ c ∈ t.examined, v.checkCondition c = .ok [] := by
  cases t with
  | all | node => simp [Target.examined]
  | conditions root =>
    cases root with
    | none => simp [Target.examined]
    | some s => exact checkCondition_of_checkPlace hcheck

end Vocabulary

/-! ## Hops that name their proxy -/

namespace Resolver

variable {r : Resolver} {hop start other : Hop} {position : Nat} {seed : Option String}

theorem expandFrom_of_reference (h : other.reference = start.reference) {fuel : Nat}
    {names : List String} {current : Hop} :
    r.expandFrom other position fuel names current =
      r.expandFrom start position fuel names current := by
  induction fuel generalizing names current with
  | zero => rw [expandFrom, expandFrom, h]
  | succ fuel ih =>
    rw [expandFrom, expandFrom, h]
    simp only [ih]

/-- Only the name that a template hop refers to is followed. -/
theorem expand_of_reference (hother : other.selector = .template)
    (hhop : hop.selector = .template) (h : other.reference = hop.reference) :
    r.expand other position = r.expand hop position := by
  rw [expand, expand, expandFrom_of_reference h, expandFrom, expandFrom, hother, hhop, h]

/-- **A hop that names its proxy is known by its selector and its reference**; nothing asks for its
conditions. -/
theorem resolveHop_of_reference (h : ¬ (hop.selector = .dynamic ∨ hop.selector = .custom))
    (hselector : other.selector = hop.selector) (hreference : other.reference = hop.reference) :
    r.resolveHop other position seed = r.resolveHop hop position seed := by
  rw [resolveHop, resolveHop, hselector]
  cases hkind : hop.selector with
  | node => simp only [resolveNode, hreference]
  | group => simp only [resolveGroup, hreference]
  | dynamic | custom => simp [hkind] at h
  | template =>
    simp only
    rw [expand_of_reference (hselector.trans hkind) hkind hreference]

end Resolver

/-! ## Leaves of a pack -/

/-- The leaves of a hop. -/
def Hop.leaves (h : Hop) : List Predicate :=
  (h.conditions.bind Slot.part?).toList.flatMap Condition.leaves

namespace Pack

variable {now : DateTime} {strict : Bool} {files : Files} {source : Option String} {base : Path}
  {data : Value} {pack : Pack} {templates : Table Hop} {rules : List Rule}

/-- The hops of a pack: its templates, and those of its rules. -/
def hops (p : Pack) : List Hop :=
  (p.vocabulary.templates.values ++ p.rules.flatMap (·.chain)).filterMap Slot.part?

/-- The targets of a pack's rules. -/
def targets (p : Pack) : List Target :=
  p.rules.filterMap (·.target.part?)

/-- The leaves in the targets of a pack's rules. -/
def targetLeaves (p : Pack) : List Predicate :=
  (p.targets.flatMap Target.examined).flatMap Condition.leaves

/-- **All leaves of a pack.** -/
def leaves (p : Pack) : List Predicate :=
  p.hops.flatMap Hop.leaves ++ p.targetLeaves

/-- **The leaves of a pack that the check looks at.** -/
def checkedLeaves (p : Pack) : List Predicate :=
  (p.hops.flatMap Hop.examined).flatMap Condition.leaves ++ p.targetLeaves

theorem templateErrors_eq_nil (h : templateErrors v templates = .ok []) :
    ∀ e ∈ templates, v.checkHop e.2 = .ok [] := by
  induction templates with
  | nil => simp
  | cons e templates ih =>
    obtain ⟨problems, hproblems, h⟩ := bind_eq_ok_iff.mp h
    obtain ⟨rest, hrest, h⟩ := bind_eq_ok_iff.mp h
    have hempty : problems = [] ∧ rest = [] := by
      simp only [Except.ok.injEq] at h
      split at h
      · next hnil => exact ⟨List.isEmpty_iff.mp hnil, h⟩
      · cases h
    obtain ⟨rfl, rfl⟩ := hempty
    obtain ⟨hop, hhop, hcheck⟩ :=
      Vocabulary.checkHop_of_checkChainFrom hproblems (.holds e.2) List.mem_cons_self
    cases hhop
    exact List.forall_mem_cons.mpr ⟨hcheck, ih hrest⟩

/-- **A valid pack has accepted templates.** -/
theorem templates_of_requireValid (h : requireValid v templates rules = .ok ()) :
    ∀ e ∈ templates, v.checkHop e.2 = .ok [] := by
  simp only [requireValid, bind_eq_ok_iff, Outcome.ofFault_eq_ok_iff] at h
  obtain ⟨ofTemplates, htemplates, ofRules, -, h⟩ := h
  split at h
  · next hempty =>
    have hnone := Table.merge_eq_nil_iff.mp (List.isEmpty_iff.mp hempty)
    rw [(List.append_eq_nil_iff.mp hnone.2).1] at htemplates
    exact templateErrors_eq_nil htemplates
  · exact absurd h Outcome.refuse_ne_ok

/-- **A vocabulary that is written into a pack keeps its operators under their own names.** -/
theorem namesOperators_vocabularyOf (parts : Option VocabularyParts) (templates : Table Hop) :
    (vocabularyOf parts templates).NamesOperators := by
  intro name o ho
  cases parts with
  | none => exact Vocabulary.name_of_stockOperators ho
  | some p =>
    change (Table.merge (if p.extends_ then Vocabulary.stockOperators else [])
      (p.operators.map fun o => (o.name, o))).get? name = some o at ho
    rw [Table.get?_merge, Option.or_eq_some_iff] at ho
    rcases ho with hown | ⟨-, hbase⟩
    · obtain ⟨_, -, hname, rfl⟩ := Table.last?_map_eq_some hown
      exact hname
    · split at hbase
      · exact Vocabulary.name_of_stockOperators hbase
      · cases hbase

/-- **The hops and targets of a loaded pack have passed the check**, and its vocabulary keeps its
operators under their own names. -/
theorem checked_of_ofValue (h : ofValue now strict files source base data = .ok pack) :
    pack.vocabulary.NamesOperators ∧
      (∀ hop ∈ pack.hops, pack.vocabulary.checkHop hop = .ok []) ∧
      ∀ t ∈ pack.targets, pack.vocabulary.checkTarget (.holds t) = .ok [] := by
  obtain ⟨_, parts, clashGroups, -, -, -, -, -, hvalid, rfl⟩ := ofValue_eq_ok_iff.mp h
  have haccepts := accepts_of_requireValid hvalid
  refine ⟨namesOperators_vocabularyOf _ _, fun hop hhop => ?_, fun t ht => ?_⟩
  · obtain ⟨slot, hslot, hpart⟩ := List.mem_filterMap.mp hhop
    rcases List.mem_append.mp hslot with htemplate | hrule
    · obtain ⟨e, he, rfl⟩ := List.mem_map.mp htemplate
      change e ∈ (vocabularyOf parts.vocabulary (knownTemplates clashGroups parts)).templates at he
      rw [templates_vocabularyOf] at he
      obtain ⟨known, hknown, rfl⟩ := List.mem_map.mp he
      cases hpart
      exact templates_of_requireValid hvalid known hknown
    · obtain ⟨r, hr, hslot⟩ := List.mem_flatMap.mp hrule
      obtain ⟨_, rfl, hcheck⟩ :=
        Vocabulary.checkHop_of_checkChainFrom (haccepts r hr).parts.1 slot hslot
      cases hpart
      exact hcheck
  · obtain ⟨r, hr, hpart⟩ := List.mem_filterMap.mp ht
    have hcheck := (haccepts r hr).parts.2
    cases htarget : r.target with
    | foreign w =>
      rw [htarget] at hpart
      cases hpart
    | holds t' =>
      rw [htarget] at hpart hcheck
      cases hpart
      exact hcheck

theorem checkLeaf_of_mem_checkedLeaves
    (h : ofValue now strict files source base data = .ok pack) (hp : p ∈ pack.checkedLeaves) :
    pack.vocabulary.checkLeaf p = .ok none := by
  obtain ⟨-, hhops, htargets⟩ := checked_of_ofValue h
  rcases List.mem_append.mp hp with hp | hp
  · obtain ⟨c, hc, hp⟩ := List.mem_flatMap.mp hp
    obtain ⟨hop, hhop, hc⟩ := List.mem_flatMap.mp hc
    exact checkLeaf_of_checkCondition
      (Vocabulary.checkCondition_of_checkHop (hhops hop hhop) c hc) hp
  · obtain ⟨c, hc, hp⟩ := List.mem_flatMap.mp hp
    obtain ⟨t, ht, hc⟩ := List.mem_flatMap.mp hc
    exact checkLeaf_of_checkCondition
      (Vocabulary.checkCondition_of_checkTarget (htargets t ht) c hc) hp

/-- **A leaf of a loaded pack is misnamed exactly when its operator is none that can be
evaluated.**  It is then so on every node.  This is about the leaves that the check looks at; any
other belongs to a hop that names its proxy and never asks for its conditions. -/
theorem loaded_leaf_misnamed_iff (h : ofValue now strict files source base data = .ok pack) :
    (∀ p ∈ pack.checkedLeaves, ∀ n,
      (p.Misnamed pack.vocabulary n ↔ Operator.ofName? p.operator = none) ∧
      (Operator.ofName? p.operator = none →
        p.judge pack.vocabulary n = .ok (.degrade (.unsupported p.operator)))) ∧
    ∀ p ∈ pack.leaves, p ∈ pack.checkedLeaves ∨ ∃ hop ∈ pack.hops, p ∈ hop.leaves ∧
      ∀ (r : Resolver) (position : Nat) (seed : Option String)
        (conditions : Option (Slot Condition)),
        r.resolveHop { hop with conditions } position seed = r.resolveHop hop position seed := by
  constructor
  · intro p hp n
    obtain ⟨field, hfind⟩ := Vocabulary.find_of_checkLeaf (checked_of_ofValue h).1
      (checkLeaf_of_mem_checkedLeaves h hp)
    rw [Predicate.misnamed_iff, hfind]
    cases hname : Operator.ofName? p.operator with
    | none =>
      rw [hname] at hfind
      exact ⟨by simp, fun _ => by rw [Predicate.judge, hfind]⟩
    | some o => simp
  · intro p hp
    rcases List.mem_append.mp hp with hp | hp
    · obtain ⟨hop, hhop, hp⟩ := List.mem_flatMap.mp hp
      by_cases hselector : hop.selector = .dynamic ∨ hop.selector = .custom
      · have hexamined : hop.examined = (hop.conditions.bind Slot.part?).toList :=
          if_pos hselector
        obtain ⟨c, hc, hp⟩ := List.mem_flatMap.mp hp
        refine Or.inl (List.mem_append.mpr (Or.inl (List.mem_flatMap.mpr ⟨c, ?_, hp⟩)))
        exact List.mem_flatMap.mpr ⟨hop, hhop, hexamined ▸ hc⟩
      · exact Or.inr ⟨hop, hhop, hp, fun r position seed conditions =>
          Resolver.resolveHop_of_reference hselector rfl rfl⟩
    · exact Or.inl (List.mem_append.mpr (Or.inr hp))

/-- A pack in data that adds an operator which nothing evaluates, and uses it. -/
def addedOperatorData : Entries :=
  [(.str "subscription_id", .str "S"),
    (.str "vocabulary", .dict [(.str "operators", .list
      [.dict [(.str "name", .str "matches"), (.str "field_types", .list [.str "string"])]])]),
    (.str "rules", .list [.dict [(.str "id", .str "r1"),
      (.str "target", .dict [(.str "type", .str "conditions"),
        (.str "conditions", .dict [(.str "field", .str "name"), (.str "operator", .str "matches"),
          (.str "value", .str "x")])])]])]

/-- Its parts. -/
def addedOperatorParts : PackParts where
  subscription := .str "S"
  name := none
  description := none
  vocabulary := some { operators := [{ name := "matches", fieldTypes := [.string] }] }
  templates := []
  groups := []
  clashTemplate := none
  rules := [⟨some (.str "r1"), "", true, [],
    .conditions (some (.holds (.compare "name" "matches" (.str "x"))))⟩]

/-- The pack that is loaded from them. -/
def addedOperatorPack : Pack := built default none [] addedOperatorParts

theorem ofValue_addedOperatorData :
    ofValue default true [] none {} (.dict addedOperatorData) = .ok addedOperatorPack := by
  have hversion : requireVersion true addedOperatorData = .ok () := by decide +kernel
  have hparts : readPackEntries addedOperatorData = .good addedOperatorParts := by
    with_unfolding_all rfl
  exact ofValue_eq_ok_iff.mpr
    ⟨_, addedOperatorParts, [], rfl, hversion, hparts, Value.printable_str "S", rfl, rfl, rfl⟩

/-- The pack is loaded, and its one leaf degrades on every node. -/
theorem loaded_leaf_misnamed_iff_added :
    let p : Predicate := ⟨"name", "matches", .str "x"⟩
    ofValue default true [] none {} (.dict addedOperatorData) = .ok addedOperatorPack ∧
      addedOperatorPack.checkedLeaves = [p] ∧
      ∀ n, p.judge addedOperatorPack.vocabulary n = .ok (.degrade (.unsupported "matches")) := by
  intro p
  have hleaves : addedOperatorPack.checkedLeaves = [p] := rfl
  have hmem : p ∈ addedOperatorPack.checkedLeaves := hleaves ▸ List.mem_cons_self
  have hexact := loaded_leaf_misnamed_iff ofValue_addedOperatorData
  exact ⟨ofValue_addedOperatorData, hleaves, fun n => (hexact.1 p hmem n).2 (by decide)⟩

/-- An operator that a pack adds to its vocabulary need not be one that can be evaluated. -/
theorem known_names_not_ensured :
    ¬ ∀ (now : DateTime) (strict : Bool) (files : Files) (source : Option String) (base : Path)
      (data : Value) (pack : Pack), ofValue now strict files source base data = .ok pack →
        ∀ p ∈ pack.leaves, ∀ n, ¬ p.Misnamed pack.vocabulary n := by
  intro h
  have hmem : (⟨"name", "matches", .str "x"⟩ : Predicate) ∈ addedOperatorPack.leaves :=
    List.mem_cons_self
  refine h _ _ _ _ _ _ _ ofValue_addedOperatorData _ hmem (.mapping []) ?_
  exact Predicate.misnamed_iff.mpr ⟨.unsupported "matches", rfl⟩

end Pack

end DialPlan
