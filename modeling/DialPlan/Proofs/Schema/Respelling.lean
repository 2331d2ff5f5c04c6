import DialPlan.Proofs.Schema.Spelling

/-!
# Respelling keeps what is read

What a reader makes of conditions, hops and targets in the older spelling, it makes of the respelled
ones as well.  An object is read field by field, so the readings of the new fields are compared with
those of the fields that they stand for; the empty set of conditions, which never applies, is the
one place where the combinator is not the word that was written.
-/

namespace DialPlan

theorem Value.str_ne_null (s : String) : str s ≠ null := by
  intro h
  cases h

/-- Values that are read alike may be put in the place of each other. -/
theorem Checked.map_map_eq_good {α : Type} {read : Value → Checked α} {f : Value → Value}
    {items : List Value} {as : List α}
    (hkept : ∀ v ∈ items, ∀ a, read v = .good a → read (f v) = .good a)
    (h : items.map read = as.map .good) : (items.map f).map read = as.map .good := by
  rw [List.map_map, ← h]
  refine List.map_congr_left ?_
  intro v hv
  have hmem : read v ∈ as.map Checked.good := h ▸ List.mem_map_of_mem hv
  obtain ⟨a, -, ha⟩ := List.mem_map.mp hmem
  exact (hkept v hv a ha.symm).trans ha

namespace Schema

variable {α : Type}

/-- **An optional field comes to nothing** exactly when it is not given. -/
theorem optionalField_eq_none_iff {entries : Entries} {wire plain : String}
    {read : Value → Checked α} : optionalField entries wire plain read = .good none ↔
      isGiven (lookup entries wire plain) = false := by
  rw [isGiven_eq_false_iff, optionalField, field]
  cases lookup entries wire plain with
  | none => simp
  | some v =>
    rw [Checked.under_eq_good_iff]
    cases v with
    | null => simp [optional]
    | _ =>
      simp only [optional, reduceCtorEq, Option.some.injEq, or_false, iff_false]
      intro h
      obtain ⟨a, -, ha⟩ := Checked.map_eq_good_iff.mp h
      cases ha

/-- A field that is read comes to something exactly when it is given. -/
theorem eq_none_iff_of_optionalField {entries : Entries} {wire plain : String}
    {read : Value → Checked α} {o : Option α}
    (h : optionalField entries wire plain read = .good o) :
    o = none ↔ isGiven (lookup entries wire plain) = false := by
  rw [← @optionalField_eq_none_iff α entries wire plain read, h, Checked.good.injEq]

/-- Fields that hold the same come to the same. -/
theorem field_of_lookup_eq {entries others : Entries} {wire plain wire' plain' : String}
    {read : Value → Checked α} {absent a : α}
    (hlookup : lookup others wire' plain' = lookup entries wire plain)
    (h : field entries wire plain read absent = .good a) :
    field others wire' plain' read absent = .good a := by
  rw [field_eq_good_iff] at h ⊢
  rw [hlookup]
  exact h

theorem required_of_lookup_eq {entries others : Entries} {wire plain wire' plain' : String}
    {read : Value → Checked α} {a : α}
    (hlookup : lookup others wire' plain' = lookup entries wire plain)
    (h : required entries wire plain read = .good a) :
    required others wire' plain' read = .good a := by
  unfold required at h ⊢
  rw [hlookup]
  split at h
  · rw [Checked.under_eq_good_iff] at h ⊢
    exact h
  · rw [Checked.under_eq_good_iff] at h
    exact absurd h Checked.fail_ne_good

end Schema

/-! ## Conditions -/

/-- **What a list of children comes to**: nothing where it is not given, else its items, each of
which is read. -/
theorem childList_eq_good_iff {entries : Entries} {key : String}
    {children : Option (List Condition)} :
    childList entries (readingsOfEntries entries) key = .good children ↔
      (isGiven (entries.get? key) = false ∧ children = none) ∨
        ∃ v items cs, entries.get? key = some v ∧ v.collection? = some items ∧
          items.map readCondition = cs.map .good ∧ children = some cs := by
  rw [childList, readingsAt_readingsOfEntries, isGiven_eq_false_iff]
  cases entries.get? key with
  | none => simp [eq_comm]
  | some v =>
    cases v with
    | null => simp [eq_comm, Value.collection?]
    | list items | tuple items | set items =>
      simp only [Option.bind_some, itemReadings, Value.collection?, Checked.under_eq_good_iff,
        Checked.map_eq_good_iff, readConditions_eq_map, Checked.indexed_eq_good_iff]
      simp [eq_comm]
    | _ => simp [itemReadings, Value.collection?]

/-- The older parts of a set of conditions are a group, whose combinator is beside the point when it
has no children. -/
theorem ConditionParts.assemble_older {p : ConditionParts} (hcombinator : p.combinator = none)
    (hchildren : p.children = none) (hset : (p.logic.isSome || p.conditions.isSome) = true)
    {c : Condition} (h : p.assemble = .good c) :
    p.field = none ∧ p.operator = none ∧
      c = .group (if (p.conditions.getD []).isEmpty then .any else p.logic.getD .all)
        (p.conditions.getD []) := by
  have hgroup : p.isGroup = true := by
    simpa [isGroup, hcombinator, hchildren] using hset
  have hold : p.isOld = true := by simpa [isOld, hcombinator] using hset
  rw [assemble, if_pos hgroup] at h
  split at h
  · exact absurd h Checked.fail_ne_good
  next hleaf =>
  rw [isLeaf, Bool.or_eq_true, not_or, Option.not_isSome_iff_eq_none,
    Option.not_isSome_iff_eq_none] at hleaf
  rw [hchildren, hcombinator] at h
  simp only [Option.isSome_none, Bool.false_and, Bool.false_eq_true, if_false] at h
  refine ⟨hleaf.1, hleaf.2, ?_⟩
  rw [← Checked.good.inj h, toGroup, hold, hchildren, hcombinator]
  cases p.conditions.getD [] with
  | nil => rfl
  | cons d ds => rfl

/-- The canonical parts of a group. -/
theorem ConditionParts.assemble_group (value : Value) (combinator : Combinator)
    (children : List Condition) :
    assemble ⟨none, none, value, some combinator, some children, none, none⟩ =
      .good (.group combinator children) := by
  cases children <;> rfl

/-- The word for a combinator is that of the combinator that is read, *and* where none is. -/
theorem ofName?_combinatorWord {entries : Entries} {logic : Option Combinator}
    (h : Schema.optionalField entries "logic" "logic" readLogic = .good logic) :
    Combinator.ofName? (combinatorWord (entries.get? "logic")) = some (logic.getD .all) := by
  cases logic with
  | none =>
    rw [Schema.optionalField_eq_none_iff, Schema.lookup_self, isGiven_eq_false_iff] at h
    rcases h with hnone | hnull
    · rw [hnone]
      rfl
    · rw [hnull]
      rfl
  | some combinator =>
    obtain ⟨v, hv, hread⟩ := Schema.exists_of_optionalField h
    rw [Schema.lookup_self] at hv
    obtain ⟨text, htext, hword⟩ := Checked.andThen_eq_good_iff.mp hread
    rw [hv, combinatorWord, Option.bind_some, textOf?_eq_some_iff.mpr htext]
    dsimp only at hword ⊢
    split at hword
    · next c hc =>
      rw [hc, Checked.good.inj hword]
      rfl
    · exact absurd hword Checked.fail_ne_good

/-- A list of children, given or not, is read item by item. -/
theorem map_itemsAt_of_childList {entries : Entries} {key : String}
    {children : Option (List Condition)}
    (h : childList entries (readingsOfEntries entries) key = .good children) :
    (entries.itemsAt key).map readCondition = (children.getD []).map .good := by
  rcases childList_eq_good_iff.mp h with ⟨hnot, rfl⟩ | ⟨v, items, cs, hv, hitems, hreads, rfl⟩
  · rw [Entries.itemsAt_of_not_given hnot]
    rfl
  · rw [Entries.itemsAt, hv, Option.bind_some, hitems]
    exact hreads

/-- A list of children comes to nothing exactly when it is not given. -/
theorem eq_none_iff_of_childList {entries : Entries} {key : String}
    {children : Option (List Condition)}
    (h : childList entries (readingsOfEntries entries) key = .good children) :
    children = none ↔ isGiven (entries.get? key) = false := by
  rcases childList_eq_good_iff.mp h with ⟨hnot, rfl⟩ | ⟨v, items, cs, hv, hitems, -, rfl⟩
  · exact ⟨fun _ => hnot, fun _ => rfl⟩
  · refine ⟨fun hnone => absurd hnone (Option.some_ne_none cs), fun hnot => ?_⟩
    rw [hv] at hnot
    cases v with
    | null => cases hitems
    | _ => cases hnot

/-- **What a set of conditions in the older spelling is read as.** -/
theorem exists_of_olderSet {entries : Entries}
    (hothers : entries.GivesNone Spelling.older.conditionOthers)
    (hset : isOlderSet entries = true) {c : Condition}
    (hread : readCondition (.dict entries) = .good c) :
    ∃ value logic cs,
      Schema.optionalField entries "field" "field" Schema.text = .good none ∧
      Schema.optionalField entries "operator" "operator" Schema.text = .good none ∧
      Schema.field entries "value" "value" .good .null = .good value ∧
      Schema.optionalField entries "logic" "logic" readLogic = .good logic ∧
      (entries.itemsAt "conditions").map readCondition = cs.map .good ∧
      c = .group (if cs.isEmpty then .any else logic.getD .all) cs := by
  rw [readCondition] at hread
  obtain ⟨p, hfield, hoperator, hvalue, hcombinator, hchildren, hlogic, hconditions, hassemble⟩ :=
    readObject_eq_good_iff.mp hread
  have hnoCombinator : p.combinator = none :=
    (Schema.eq_none_iff_of_optionalField hcombinator).mpr
      (hothers ("combinator", "combinator") (by decide))
  have hnoChildren : p.children = none := by
    rw [eq_none_iff_of_childList hchildren, ← Schema.lookup_self]
    exact hothers ("children", "children") (by decide)
  have hgiven : (p.logic.isSome || p.conditions.isSome) = true := by
    rw [Bool.or_eq_true, Option.isSome_iff_ne_none, Option.isSome_iff_ne_none, ne_eq, ne_eq,
      Schema.eq_none_iff_of_optionalField hlogic, eq_none_iff_of_childList hconditions,
      Schema.lookup_self, Bool.not_eq_false, Bool.not_eq_false, ← Bool.or_eq_true]
    exact hset
  obtain ⟨hnoField, hnoOperator, hc⟩ :=
    ConditionParts.assemble_older hnoCombinator hnoChildren hgiven hassemble
  rw [hnoField] at hfield
  rw [hnoOperator] at hoperator
  exact ⟨p.value, p.logic, p.conditions.getD [], hfield, hoperator, hvalue, hlogic,
    map_itemsAt_of_childList hconditions, hc⟩

/-- **What it is read as with canonical fields.** -/
theorem readCondition_replace {entries : Entries} {value : Value} {logic : Option Value}
    {children : List Value} {combinator : Combinator} {cs : List Condition}
    (hfield : Schema.optionalField entries "field" "field" Schema.text = .good none)
    (hoperator : Schema.optionalField entries "operator" "operator" Schema.text = .good none)
    (hvalue : Schema.field entries "value" "value" .good .null = .good value)
    (hword : Combinator.ofName? (if children.isEmpty then "or" else combinatorWord logic) =
      some combinator)
    (hchildren : children.map readCondition = cs.map .good) :
    readCondition (.dict (entries.replace setKeys (setFields logic children))) =
      .good (.group combinator cs) := by
  have hother : ∀ {name : String}, name ∉ setKeys →
      Schema.lookup (entries.replace setKeys (setFields logic children)) name name =
        Schema.lookup entries name name := fun hname =>
    Entries.lookup_replace_other hname hname entries (keys_setFields logic children)
  have hnone := givesNone_replace_set entries logic children
  rw [readCondition]
  refine readObject_eq_good_iff.mpr
    ⟨⟨none, none, value, some combinator, some cs, none, none⟩, ?_, ?_, ?_, ?_, ?_, ?_, ?_,
      ConditionParts.assemble_group value combinator cs⟩
  · exact Schema.field_of_lookup_eq (hother (by decide)) hfield
  · exact Schema.field_of_lookup_eq (hother (by decide)) hoperator
  · exact Schema.field_of_lookup_eq (hother (by decide)) hvalue
  · refine Schema.field_eq_good_iff.mpr (Or.inr
      ⟨.str (if children.isEmpty then "or" else combinatorWord logic), ?_,
        Schema.optional_eq_good (Value.str_ne_null _) ?_⟩)
    · rw [Entries.lookup_replace (by decide) (by decide)]
      rfl
    · rw [Schema.oneOf, hword]
  · refine childList_eq_good_iff.mpr
      (Or.inr ⟨.list children, children, cs, ?_, rfl, hchildren, rfl⟩)
    rw [Entries.get?_replace]
    rfl
  · exact Schema.optionalField_eq_none_iff.mpr (hnone ("logic", "logic") (by decide))
  · refine childList_eq_good_iff.mpr (Or.inl ⟨?_, rfl⟩)
    rw [← Schema.lookup_self]
    exact hnone ("conditions", "conditions") (by decide)

/-- **A condition is read as it was when it is respelled**, at any depth. -/
theorem readCondition_respellCondition {v : Value} (h : Spelling.older.InCondition v)
    {c : Condition} (hread : readCondition v = .good c) :
    readCondition (respellCondition v) = .good c := by
  induction h generalizing c with
  | @object entries hothers _ ih =>
    rw [respellCondition, respellObject]
    split
    · next hset =>
      obtain ⟨value, logic, cs, hfield, hoperator, hvalue, hlogic, hitems, rfl⟩ :=
        exists_of_olderSet hothers hset hread
      have hchildren : (respellChildren entries).map readCondition = cs.map .good := by
        rw [respellChildren_eq_map]
        exact Checked.map_map_eq_good (fun v hv _ hd => ih v hv hd) hitems
      refine readCondition_replace hfield hoperator hvalue ?_ hchildren
      -- the empty set is an *or*, whatever its word is
      have hlength : (respellChildren entries).length = cs.length := by
        simpa only [List.length_map] using congrArg List.length hchildren
      have hempty : (respellChildren entries).isEmpty = cs.isEmpty := by
        rw [Bool.eq_iff_iff, List.isEmpty_iff_length_eq_zero, List.isEmpty_iff_length_eq_zero,
          hlength]
      rw [hempty]
      split
      · rfl
      · exact ofName?_combinatorWord hlogic
    · exact hread

theorem ne_null_of_readCondition {v : Value} {c : Condition} (h : readCondition v = .good c) :
    v ≠ .null := by
  rintro rfl
  cases h

/-- A field that holds a condition comes to the same when it holds the respelled one. -/
theorem optionalField_respellCondition {entries others : Entries}
    {wire plain wire' plain' : String} {condition : Option Condition}
    (hlookup : Schema.lookup others wire' plain' =
      (Schema.lookup entries wire plain).map respellCondition)
    (holder : ∀ v, Schema.lookup entries wire plain = some v → v ≠ .null →
      Spelling.older.InCondition v)
    (h : Schema.optionalField entries wire plain readCondition = .good condition) :
    Schema.optionalField others wire' plain' readCondition = .good condition := by
  cases condition with
  | none =>
    rw [Schema.optionalField_eq_none_iff, isGiven_eq_false_iff] at h ⊢
    rw [hlookup]
    rcases h with hnone | hnull
    · rw [hnone]
      exact Or.inl rfl
    · rw [hnull]
      exact Or.inr rfl
  | some c =>
    obtain ⟨v, hv, hread⟩ := Schema.exists_of_optionalField h
    have hrespelled := readCondition_respellCondition
      (holder v hv (ne_null_of_readCondition hread)) hread
    rw [hv] at hlookup
    exact Schema.field_eq_good_iff.mpr (Or.inr ⟨_, hlookup,
      Schema.optional_eq_good (ne_null_of_readCondition hrespelled) hrespelled⟩)

/-! ## Hops -/

theorem optionalNonBlank_of_lookup_eq {entries others : Entries} {wire plain : String}
    {text : Option String}
    (hlookup : Schema.lookup others wire plain = Schema.lookup entries wire plain)
    (h : optionalNonBlank entries wire plain = .good text) :
    optionalNonBlank others wire plain = .good text := by
  obtain ⟨o, ho, hjoin⟩ := Checked.map_eq_good_iff.mp h
  exact Checked.map_eq_good_iff.mpr ⟨o, Schema.field_of_lookup_eq hlookup ho, hjoin⟩

theorem ne_null_of_text {v : Value} {s : String} (h : Schema.text v = .good s) : v ≠ .null := by
  rintro rfl
  exact Checked.fail_ne_good h

theorem identifier_of_text {v : Value} {s : String} (h : Schema.text v = .good s) :
    Schema.identifier v = .good (.str s) := by
  rw [Schema.identifier, h]
  rfl

/-- A name is an identifier. -/
theorem optionalField_identifier_of_text {entries others : Entries}
    {wire plain wire' plain' : String} {name : Option String}
    (hlookup : Schema.lookup others wire' plain' = Schema.lookup entries wire plain)
    (h : Schema.optionalField entries wire plain Schema.text = .good name) :
    Schema.optionalField others wire' plain' Schema.identifier = .good (name.map .str) := by
  cases name with
  | none =>
    rw [Schema.optionalField_eq_none_iff] at h
    rw [Option.map_none, Schema.optionalField_eq_none_iff, hlookup]
    exact h
  | some s =>
    obtain ⟨v, hv, hread⟩ := Schema.exists_of_optionalField h
    exact Schema.field_eq_good_iff.mpr (Or.inr ⟨v, hlookup.trans hv,
      Schema.optional_eq_good (ne_null_of_text hread) (identifier_of_text hread)⟩)

theorem olderSelector?_cases {type : String} {selector : Selector}
    (h : olderSelector? type = some selector) :
    (type, selector) ∈ [("specified_node", Selector.node), ("template_group", .template),
      ("custom_group", .custom), ("dynamic_node", .dynamic)] := by
  unfold olderSelector? at h
  split at h
  · next htype =>
    cases h
    simp [htype]
  split at h
  · next htype =>
    cases h
    simp [htype]
  split at h
  · next htype =>
    cases h
    simp [htype]
  split at h
  · next htype =>
    cases h
    simp [htype]
  · cases h

/-- The selector's own name stands for the type; only one of them names a node. -/
theorem text_selectorWord {v : Value} {type : String} {selector : Selector}
    (htext : Schema.text v = .good type) (h : olderSelector? type = some selector) :
    Schema.text (selectorWord v) = .good selector.name ∧
      (type = "specified_node" ↔ selector = .node) := by
  rw [selectorWord, textOf?_eq_some_iff.mpr htext]
  have hcases := olderSelector?_cases h
  simp only [List.mem_cons, Prod.mk.injEq, List.not_mem_nil, or_false] at hcases
  rcases hcases with ⟨rfl, rfl⟩ | ⟨rfl, rfl⟩ | ⟨rfl, rfl⟩ | ⟨rfl, rfl⟩
  · exact ⟨rfl, by decide⟩
  all_goals exact ⟨htext, by decide⟩

/-- The canonical parts of a hop in the older spelling. -/
def HopParts.respelled (p : HopParts) (selector : Selector) : HopParts where
  selector := some selector.name
  reference := if selector = .node then p.nodeId else p.groupName.map .str
  conditions := p.nodeConditions
  selectMode := p.selectMode
  groupType := p.groupType
  urlTest := p.urlTest
  type := none
  groupName := none
  nodeId := none
  nodeConditions := none

/-- **They are put together to the same hop.** -/
theorem HopParts.assemble_respelled {p : HopParts} (hselector : p.selector = none)
    (hconditions : p.conditions = none) {h : Hop} (hassemble : p.assemble = .good h) :
    p.readSelector = .good h.selector ∧ (p.respelled h.selector).assemble = .good h := by
  simp only [assemble, Checked.andThen_eq_good_iff] at hassemble
  obtain ⟨selector, hread, mode, hmode, hassemble⟩ := hassemble
  rw [hconditions] at hassemble
  simp only [Option.isSome_none, Bool.false_and, Bool.false_eq_true, if_false] at hassemble
  obtain ⟨reference, hreference, rfl⟩ := Checked.map_eq_good_iff.mp hassemble
  refine ⟨hread, ?_⟩
  have hselector' : (p.respelled selector).readSelector = .good selector := by
    simp only [readSelector, respelled, Selector.ofName?_name]
  have hmode' : (p.respelled selector).readMode = .good mode := hmode
  have hreference' : (p.respelled selector).referenceFor selector = .good reference := by
    rw [← hreference]
    simp only [referenceFor, respelled, hselector, Option.isSome_some, Option.isSome_none, if_true,
      Bool.false_eq_true, if_false]
    split
    · rfl
    · cases p.groupName with
      | none => rfl
      | some s => exact identifierText_str s
  simp only [assemble, hselector', hmode', Checked.andThen_good, hreference']
  simp only [respelled, Option.isSome_none, Bool.and_false, Bool.false_eq_true, if_false,
    Option.or_none, Option.none_or, Checked.map_good]

/-- Where a hop gets its selector from in the older spelling. -/
theorem HopParts.exists_type {p : HopParts} {selector : Selector} {entries : Entries}
    (htype : Schema.optionalField entries "type" "type" Schema.text = .good p.type)
    (hselector : p.selector = none) (h : p.readSelector = .good selector) :
    ∃ v type, Schema.lookup entries "type" "type" = some v ∧ Schema.text v = .good type ∧
      olderSelector? type = some selector := by
  rw [readSelector, hselector] at h
  dsimp only at h
  split at h
  · exact absurd h Checked.fail_ne_good
  next type hpart =>
  split at h
  · next hknown =>
    cases h
    rw [hpart] at htype
    obtain ⟨v, hv, htext⟩ := Schema.exists_of_optionalField htype
    exact ⟨v, type, hv, htext, hknown⟩
  · exact absurd h Checked.fail_ne_good

/-- What the respelled hop refers to. -/
theorem optionalField_reference_respelledHop {entries : Entries} {p : HopParts} {v : Value}
    {type : String} {selector : Selector} (htype : Schema.lookup entries "type" "type" = some v)
    (htext : Schema.text v = .good type)
    (hnode : type = "specified_node" ↔ selector = .node)
    (hgroupName : Schema.optionalField entries "groupName" "group_name" Schema.text =
      .good p.groupName)
    (hnodeId : Schema.optionalField entries "nodeId" "node_id" Schema.identifier =
      .good p.nodeId) :
    Schema.optionalField (entries.replace hopKeys (respelledHop entries)) "reference" "reference"
      Schema.identifier = .good (p.respelled selector).reference := by
  have hreference :
      Schema.lookup (entries.replace hopKeys (respelledHop entries)) "reference" "reference" =
        olderReference entries := by
    rw [Entries.lookup_replace (by decide) (by decide), get?_respelledHop]
    simp
  rw [olderReference, htype, Option.bind_some, textOf?_eq_some_iff.mpr htext] at hreference
  by_cases hselector : selector = .node
  · rw [if_pos (by rw [hnode.mpr hselector])] at hreference
    rw [HopParts.respelled, if_pos hselector]
    exact Schema.field_of_lookup_eq hreference hnodeId
  · have hother : some type ≠ some "specified_node" := fun heq =>
      hselector (hnode.mp (Option.some.inj heq))
    rw [if_neg hother] at hreference
    rw [HopParts.respelled, if_neg hselector]
    exact optionalField_identifier_of_text hreference hgroupName

/-- **A hop is read as it was when it is respelled.** -/
theorem readHopEntries_respelledHop {entries : Entries} (hhop : Spelling.older.InHop entries)
    {h : Hop} (hread : readHopEntries entries = .good h) :
    readHopEntries (entries.replace hopKeys (respelledHop entries)) = .good h := by
  obtain ⟨p, hselector, -, hconditions, hselectMode, hgroupType, hurlTest, htype, hgroupName,
    hnodeId, hnodeConditions, hassemble⟩ := readHopEntries_eq_good_iff.mp hread
  have hnoSelector : p.selector = none :=
    (Schema.eq_none_iff_of_optionalField hselector).mpr
      (hhop.others ("selectorType", "selector_type") (by decide))
  have hnoConditions : p.conditions = none :=
    (Schema.eq_none_iff_of_optionalField hconditions).mpr
      (hhop.others ("conditions", "conditions") (by decide))
  obtain ⟨hreadSelector, hrespelled⟩ :=
    HopParts.assemble_respelled hnoSelector hnoConditions hassemble
  obtain ⟨v, type, htypeField, htext, hknown⟩ :=
    HopParts.exists_type htype hnoSelector hreadSelector
  obtain ⟨hword, hnode⟩ := text_selectorWord htext hknown
  have hothers := (canonical_respelledHop hhop).others
  have hkept : ∀ {wire plain : String}, wire ∉ hopKeys → plain ∉ hopKeys →
      Schema.lookup (entries.replace hopKeys (respelledHop entries)) wire plain =
        Schema.lookup entries wire plain := fun hwire hplain =>
    Entries.lookup_replace_other hwire hplain entries (keys_respelledHop_subset entries)
  -- the fields of the older spelling are gone, and all of a hop's own fields are kept
  refine readHopEntries_eq_good_iff.mpr ⟨p.respelled h.selector, ?_, ?_, ?_, ?_, ?_, ?_,
    Schema.optionalField_eq_none_iff.mpr (hothers ("type", "type") (by decide)),
    Schema.optionalField_eq_none_iff.mpr (hothers ("groupName", "group_name") (by decide)),
    Schema.optionalField_eq_none_iff.mpr (hothers ("nodeId", "node_id") (by decide)),
    Schema.optionalField_eq_none_iff.mpr
      (hothers ("nodeConditions", "node_conditions") (by decide)), hrespelled⟩
  · refine Schema.field_eq_good_iff.mpr (Or.inr ⟨selectorWord v, ?_,
      Schema.optional_eq_good (ne_null_of_text hword) hword⟩)
    rw [Entries.lookup_replace (by decide) (by decide), get?_respelledHop, htypeField,
      Option.map_some]
    simp
  · exact optionalField_reference_respelledHop htypeField htext hnode hgroupName hnodeId
  · exact optionalField_respellCondition (lookup_conditions_respelledHop entries) hhop.conditions
      hnodeConditions
  · exact optionalNonBlank_of_lookup_eq (hkept (by decide) (by decide)) hselectMode
  · exact optionalNonBlank_of_lookup_eq (hkept (by decide) (by decide)) hgroupType
  · exact Schema.field_of_lookup_eq (hkept (by decide) (by decide)) hurlTest

/-- **A chain is read as it was when it is respelled.** -/
theorem readChain_respellChain {v : Value} (hchain : Spelling.older.InChain v) {hops : List Hop}
    (hread : Schema.list readHop v = .good hops) :
    Schema.list readHop (respellChain v) = .good hops := by
  have hitems : ∀ items : List Value, v.collection? = some items →
      items.map readHop = hops.map .good → (items.map respellHop).map readHop = hops.map .good := by
    intro items hsequence
    refine Checked.map_map_eq_good ?_
    intro item hitem h hh
    cases item with
    | dict entries => exact readHopEntries_respelledHop (hchain items entries hsequence hitem) hh
    | _ => cases hh
  cases v with
  | list items =>
    exact Checked.indexed_eq_good_iff.mpr (hitems items rfl (Checked.indexed_eq_good_iff.mp hread))
  | tuple items =>
    exact Checked.indexed_eq_good_iff.mpr (hitems items rfl (Checked.indexed_eq_good_iff.mp hread))
  | set items =>
    exact Checked.indexed_eq_good_iff.mpr (hitems items rfl (Checked.indexed_eq_good_iff.mp hread))
  | _ => cases hread

/-! ## Targets -/

/-- **A target is read as it was when it is respelled.** -/
theorem readTarget_respellTarget {v : Value} (htarget : Spelling.older.InTarget v) {t : Target}
    (hread : readTarget v = .good t) : readTarget (respellTarget v) = .good t := by
  cases v with
  | dict entries =>
    obtain ⟨p, htype, hid, hroot, hassemble⟩ := readTargetEntries_eq_good_iff.mp hread
    have hkept : ∀ {wire plain : String}, wire ≠ "conditions" → plain ≠ "conditions" →
        Schema.lookup (Entries.replace entries ["conditions"] (respelledTarget entries))
          wire plain = Schema.lookup entries wire plain := fun hwire hplain =>
      Entries.lookup_replace_other (by simpa using hwire) (by simpa using hplain) entries
        (Table.keys_given_sublist "conditions" _).subset
    refine readTargetEntries_eq_good_iff.mpr ⟨p, ?_, ?_, ?_, hassemble⟩
    · exact Schema.field_of_lookup_eq (hkept (by decide) (by decide)) htype
    · exact Schema.field_of_lookup_eq (hkept (by decide) (by decide)) hid
    · refine optionalField_respellCondition ?_ ?_ hroot
      · rw [Schema.lookup_self, Schema.lookup_self]
        exact get?_respelledTarget entries
      · intro c hc hnull
        rw [Schema.lookup_self] at hc
        exact htarget entries c rfl hc hnull
  | _ => cases hread

end DialPlan
