import DialPlan.Proofs.Schema.Rule

/-!
# The two spellings

Conditions and hops are written in one of two spellings.  The older one has `logic` and `conditions`
for a set of conditions, and `type` with `nodeId` or `groupName` and `nodeConditions` for a hop.  A
`Spelling` says which fields belong to the other one and where it keeps what is nested; data is in a
spelling when no field of the other one is given, at any depth.

`respellCondition`, `respellHop`, `respellChain` and `respellTarget` put what is in the older
spelling into the canonical one.

Design decisions:

* Respelling puts new fields in the place of some old ones and keeps all others
  (`Entries.replace`), so that what a reader finds in the new object is known field by field.
* The recursion follows that of the reader, by the items of a set of conditions; it knows neither
  combinators nor selectors, but only words.
-/

namespace DialPlan

/-- Whether a field is given; null counts as absent. -/
def isGiven : Option Value → Bool
  | none | some .null => false
  | some _ => true

theorem isGiven_eq_false_iff {o : Option Value} :
    isGiven o = false ↔ o = none ∨ o = some .null := by
  rcases o with _ | v
  · simp [isGiven]
  · cases v <;> simp [isGiven]

theorem Schema.lookup_self (entries : Entries) (name : String) :
    lookup entries name name = entries.get? name := by
  rw [lookup]
  cases entries.get? name <;> rfl

/-! ## Objects -/

namespace Entries

/-- None of these fields is given. -/
def GivesNone (entries : Entries) (fields : List (String × String)) : Prop :=
  ∀ f ∈ fields, isGiven (Schema.lookup entries f.1 f.2) = false

instance (entries : Entries) (fields : List (String × String)) :
    Decidable (entries.GivesNone fields) :=
  inferInstanceAs (Decidable (∀ f ∈ fields, isGiven (Schema.lookup entries f.1 f.2) = false))

/-- The items of the list under a key. -/
def itemsAt (entries : Entries) (key : String) : List Value :=
  ((entries.get? key).bind Value.collection?).getD []

/-- The entries under other keys than these. -/
def without (entries : Entries) (keys : List String) : Entries :=
  entries.filter fun e => ∀ key ∈ keys, e.1 ≠ .str key

/-- **New fields in the place of old ones.** -/
def replace (entries : Entries) (keys : List String) (fields : Table Value) : Entries :=
  fields.toEntries ++ entries.without keys

theorem get?_append (entries more : Entries) (name : String) :
    get? (entries ++ more) name = (entries.get? name).or (more.get? name) := by
  induction entries with
  | nil => rfl
  | cons e entries ih =>
    obtain ⟨k, v⟩ := e
    rw [List.cons_append, get?_cons, get?_cons]
    split
    · rfl
    · exact ih

theorem get?_without (entries : Entries) (keys : List String) (name : String) :
    (entries.without keys).get? name = if name ∈ keys then none else entries.get? name := by
  induction entries with
  | nil => simp [without]
  | cons e entries ih =>
    obtain ⟨k, v⟩ := e
    rw [without] at ih ⊢
    rw [List.filter_cons, get?_cons]
    by_cases hk : k = .str name
    · subst hk
      by_cases hname : name ∈ keys
      · have hdrop : ¬ ∀ key ∈ keys, Value.str name ≠ .str key := fun h => h name hname rfl
        rw [if_neg (by simpa using hdrop), ih, if_pos hname, if_pos hname]
      · have hkeep : ∀ key ∈ keys, Value.str name ≠ .str key := by
          rintro key hkey ⟨⟩
          exact hname hkey
        rw [if_pos (decide_eq_true hkeep), get?_cons, if_pos rfl, if_neg hname, if_pos rfl]
    · rw [if_neg hk]
      split
      · rw [get?_cons, if_neg hk, ih]
      · exact ih

/-- **What stands under a key** after the replacement. -/
theorem get?_replace (entries : Entries) (keys : List String) (fields : Table Value)
    (name : String) : (entries.replace keys fields).get? name =
      (fields.get? name).or (if name ∈ keys then none else entries.get? name) := by
  rw [replace, get?_append, Table.get?_toEntries, get?_without]

theorem itemsAt_of_not_given {entries : Entries} {key : String}
    (h : isGiven (entries.get? key) = false) : entries.itemsAt key = [] := by
  rw [itemsAt]
  rcases isGiven_eq_false_iff.mp h with hnone | hnull
  · rw [hnone]
    rfl
  · rw [hnull]
    rfl

/-- A field that is replaced is one of the new ones. -/
theorem lookup_replace {wire plain : String} {keys : List String} (hwire : wire ∈ keys)
    (hplain : plain ∈ keys) (entries : Entries) (fields : Table Value) :
    Schema.lookup (entries.replace keys fields) wire plain =
      (fields.get? wire).or (fields.get? plain) := by
  rw [Schema.lookup, get?_replace, get?_replace, if_pos hwire, if_pos hplain, Option.or_none,
    Option.or_none]

/-- All other fields are what they were. -/
theorem lookup_replace_other {wire plain : String} {keys : List String} (hwire : wire ∉ keys)
    (hplain : plain ∉ keys) (entries : Entries) {fields : Table Value}
    (hsub : fields.keys ⊆ keys) :
    Schema.lookup (entries.replace keys fields) wire plain = Schema.lookup entries wire plain := by
  have hnone : ∀ {name : String}, name ∉ keys → fields.get? name = none := fun hname =>
    Table.get?_eq_none_iff.mpr fun hmem => hname (hsub hmem)
  rw [Schema.lookup, get?_replace, get?_replace, if_neg hwire, if_neg hplain, hnone hwire,
    hnone hplain, Option.none_or, Option.none_or, Schema.lookup]

/-- Where only replaced keys are used for the new fields, an object that has a text keeps one. -/
theorem writable_replace {entries : Entries} (h : (Value.dict entries).Writable)
    {keys : List String} {fields : Table Value} (hkeys : fields.keys.Nodup)
    (hsub : fields.keys ⊆ keys) (hfields : ∀ e ∈ fields, e.2.Writable) :
    (Value.dict (entries.replace keys fields)).Writable := by
  obtain ⟨t, rfl, ht, -⟩ := h.plain.exists_table
  -- what is left of a table is a table
  have hwithout : (Table.toEntries t).without keys =
      Table.toEntries (t.filter fun e => e.1 ∉ keys) := by
    rw [without, Table.toEntries, Table.toEntries, List.filter_map]
    congr 2
    funext e
    have hiff : (∀ key ∈ keys, Value.str e.1 ≠ .str key) ↔ e.1 ∉ keys :=
      ⟨fun h hmem => h _ hmem rfl, fun h _ hkey heq => h (Value.str.inj heq ▸ hkey)⟩
    exact decide_eq_decide.mpr hiff
  rw [replace, hwithout, Table.toEntries, Table.toEntries, ← List.map_append]
  refine .table ?_ ?_
  · rw [Table.keys_append]
    refine List.nodup_append.mpr ⟨hkeys, ht.sublist (List.Sublist.map _ List.filter_sublist), ?_⟩
    rintro a ha b hb rfl
    obtain ⟨e, he, rfl⟩ := List.mem_map.mp hb
    exact absurd (hsub ha) (of_decide_eq_true (List.mem_filter.mp he).2)
  · intro e he
    rcases List.mem_append.mp he with he | he
    · exact hfields e he
    · exact h.values _ (List.mem_map_of_mem (List.mem_filter.mp he).1)

end Entries

/-! ## Spellings -/

/-- **A spelling**: the fields that belong to the other one, with their two names, and where a set
of conditions and a hop keep what is nested in them. -/
structure Spelling where
  conditionOthers : List (String × String)
  hopOthers : List (String × String)
  recordOthers : List (String × String)
  children : String
  hopConditions : String × String

namespace Spelling

/-- The older spelling. -/
def older : Spelling where
  conditionOthers := [("combinator", "combinator"), ("children", "children")]
  hopOthers :=
    [("selectorType", "selector_type"), ("reference", "reference"), ("conditions", "conditions")]
  recordOthers := [("sortOrder", "sort_order")]
  children := "conditions"
  hopConditions := ("nodeConditions", "node_conditions")

/-- The spelling that is written. -/
def canonical : Spelling where
  conditionOthers := [("logic", "logic"), ("conditions", "conditions")]
  hopOthers :=
    [("type", "type"), ("nodeId", "node_id"), ("groupName", "group_name"),
      ("nodeConditions", "node_conditions")]
  recordOthers := [("sort", "sort")]
  children := "children"
  hopConditions := ("conditions", "conditions")

variable (s : Spelling)

/-- **Conditions in a spelling**, at every depth. -/
inductive InCondition : Value → Prop
  | object {entries : Entries} : entries.GivesNone s.conditionOthers →
    (∀ v ∈ entries.itemsAt s.children, InCondition v) → InCondition (.dict entries)

/-- **Hops in a spelling.** -/
structure InHop (entries : Entries) : Prop where
  others : entries.GivesNone s.hopOthers
  conditions : ∀ v, Schema.lookup entries s.hopConditions.1 s.hopConditions.2 = some v →
    v ≠ .null → s.InCondition v

/-- Chains in a spelling. -/
def InChain (v : Value) : Prop :=
  ∀ items entries, v.collection? = some items → .dict entries ∈ items → s.InHop entries

/-- Targets in a spelling; only their conditions have two. -/
def InTarget (v : Value) : Prop :=
  ∀ entries c, v = .dict entries → Entries.get? entries "conditions" = some c → c ≠ .null →
    s.InCondition c

end Spelling

/-! ## Respelling -/

/-- The text of a field that holds one. -/
def textOf? (v : Value) : Option String :=
  match Schema.text v with
  | .good s => some s
  | _ => none

theorem textOf?_eq_some_iff {v : Value} {s : String} :
    textOf? v = some s ↔ Schema.text v = .good s := by
  unfold textOf?
  split <;> simp_all

/-- The word for the combinator of a set of conditions: trimmed, in lower case, *and* for a blank or
missing one. -/
def combinatorWord (logic : Option Value) : String :=
  match logic.bind textOf? with
  | some s =>
    let word := Text.lower (Text.trim s)
    if word.isEmpty then "and" else word
  | none => "and"

/-- The fields that a set of conditions has in either spelling. -/
def setKeys : List String := ["logic", "conditions", "combinator", "children"]

/-- The canonical fields of a set of conditions.  A set without children is an empty *or*. -/
def setFields (logic : Option Value) (children : List Value) : Table Value :=
  [("combinator", .str (if children.isEmpty then "or" else combinatorWord logic)),
    ("children", .list children)]

/-- Whether a condition object is a set of conditions in the older spelling. -/
def isOlderSet (entries : Entries) : Bool :=
  isGiven (entries.get? "logic") || isGiven (entries.get? "conditions")

/-- A condition object with respelled children; only sets of conditions change. -/
def respellObject (entries : Entries) (children : List Value) : Entries :=
  if isOlderSet entries then
    entries.replace setKeys (setFields (entries.get? "logic") children)
  else entries

mutual

/-- **Respelling a condition.** -/
def respellCondition : Value → Value
  | .dict entries => .dict (respellObject entries (respellChildren entries))
  | v => v

/-- The respelled children of a set of conditions. -/
def respellChildren : List (Value × Value) → List Value
  | [] => []
  | (k, v) :: es => if k = .str "conditions" then respellItems v else respellChildren es

/-- The respelled items of a list. -/
def respellItems : Value → List Value
  | .list items | .tuple items | .set items => respellConditions items
  | _ => []

/-- Several conditions, respelled. -/
def respellConditions : List Value → List Value
  | [] => []
  | v :: vs => respellCondition v :: respellConditions vs

end

theorem respellConditions_eq_map (vs : List Value) :
    respellConditions vs = vs.map respellCondition := by
  induction vs with
  | nil => rw [respellConditions, List.map_nil]
  | cons v vs ih => rw [respellConditions, ih, List.map_cons]

theorem respellItems_eq (v : Value) :
    respellItems v = (v.collection?.getD []).map respellCondition := by
  cases v <;> simp [respellItems, Value.collection?, respellConditions_eq_map]

theorem respellChildren_eq (entries : Entries) :
    respellChildren entries = ((entries.get? "conditions").map respellItems).getD [] := by
  induction entries with
  | nil => rw [respellChildren, Entries.get?_nil, Option.map_none, Option.getD_none]
  | cons e entries ih =>
    obtain ⟨k, v⟩ := e
    rw [respellChildren, Entries.get?_cons]
    split
    · rw [Option.map_some, Option.getD_some]
    · exact ih

/-- The respelled children are those of the items under `conditions`. -/
theorem respellChildren_eq_map (entries : Entries) :
    respellChildren entries = (entries.itemsAt "conditions").map respellCondition := by
  rw [respellChildren_eq, Entries.itemsAt]
  cases entries.get? "conditions" with
  | none => rfl
  | some v => exact respellItems_eq v

/-- The selector for a hop type: nodes have another name, groups do not. -/
def selectorWord (type : Value) : Value :=
  if textOf? type = some "specified_node" then .str "node" else type

/-- The fields that a hop has in one spelling only. -/
def hopKeys : List String :=
  ["selectorType", "selector_type", "reference", "conditions", "type", "nodeId", "node_id",
    "groupName", "group_name", "nodeConditions", "node_conditions"]

/-- What a hop in the older spelling refers to: a node by its id, anything else by its name. -/
def olderReference (entries : Entries) : Option Value :=
  if (Schema.lookup entries "type" "type").bind textOf? = some "specified_node" then
    Schema.lookup entries "nodeId" "node_id"
  else Schema.lookup entries "groupName" "group_name"

/-- The canonical fields of a hop in the older spelling. -/
def respelledHop (entries : Entries) : Table Value :=
  Table.given "selectorType" ((Schema.lookup entries "type" "type").map selectorWord) ++
    Table.given "reference" (olderReference entries) ++
    Table.given "conditions"
      ((Schema.lookup entries "nodeConditions" "node_conditions").map respellCondition)

/-- **Respelling a hop.** -/
def respellHop : Value → Value
  | .dict entries => .dict (Entries.replace entries hopKeys (respelledHop entries))
  | v => v

/-- **Respelling a chain.** -/
def respellChain : Value → Value
  | .list items => .list (items.map respellHop)
  | .tuple items => .tuple (items.map respellHop)
  | .set items => .set (items.map respellHop)
  | v => v

/-- The field of a target that respelling changes. -/
def respelledTarget (entries : Entries) : Table Value :=
  Table.given "conditions" ((entries.get? "conditions").map respellCondition)

/-- **Respelling a target.** -/
def respellTarget : Value → Value
  | .dict entries =>
    .dict (Entries.replace entries ["conditions"] (respelledTarget entries))
  | v => v

/-! ## Fields of respelled objects -/

theorem keys_setFields (logic : Option Value) (children : List Value) :
    (setFields logic children).keys ⊆ setKeys := by
  show ["combinator", "children"] ⊆ setKeys
  decide

theorem keys_respelledHop (entries : Entries) :
    (respelledHop entries).keys.Sublist ["selectorType", "reference", "conditions"] := by
  rw [respelledHop, Table.keys_append, Table.keys_append]
  exact ((Table.keys_given_sublist "selectorType" _).append
    (Table.keys_given_sublist "reference" _)).append (Table.keys_given_sublist "conditions" _)

theorem keys_respelledHop_subset (entries : Entries) : (respelledHop entries).keys ⊆ hopKeys := by
  have hkeys : ["selectorType", "reference", "conditions"] ⊆ hopKeys := by decide
  exact fun name hname => hkeys ((keys_respelledHop entries).subset hname)

theorem get?_respelledHop (entries : Entries) (name : String) :
    (respelledHop entries).get? name =
      if name = "selectorType" then (Schema.lookup entries "type" "type").map selectorWord
      else if name = "reference" then olderReference entries
      else if name = "conditions" then
        (Schema.lookup entries "nodeConditions" "node_conditions").map respellCondition
      else none := by
  simp only [respelledHop, Table.get?_append, Table.get?_given, @eq_comm String _ name]
  by_cases hselector : name = "selectorType"
  · simp [hselector]
  by_cases hreference : name = "reference"
  · simp [hreference]
  simp [hselector, hreference]

theorem lookup_conditions_respelledHop (entries : Entries) :
    Schema.lookup (entries.replace hopKeys (respelledHop entries)) "conditions" "conditions" =
      (Schema.lookup entries "nodeConditions" "node_conditions").map respellCondition := by
  rw [Entries.lookup_replace (by decide) (by decide), get?_respelledHop]
  simp

/-! ## What is respelled is canonical -/

/-- A set of conditions has neither of the older fields any more. -/
theorem givesNone_replace_set (entries : Entries) (logic : Option Value) (children : List Value) :
    (entries.replace setKeys (setFields logic children)).GivesNone
      Spelling.canonical.conditionOthers := by
  simp only [Entries.GivesNone, Spelling.canonical, List.forall_mem_cons]
  refine ⟨?_, ?_, fun f hf => absurd hf List.not_mem_nil⟩
  · rw [Entries.lookup_replace (by decide) (by decide)]
    rfl
  · rw [Entries.lookup_replace (by decide) (by decide)]
    rfl

theorem canonical_respellCondition {v : Value} (h : Spelling.older.InCondition v) :
    Spelling.canonical.InCondition (respellCondition v) := by
  induction h with
  | @object entries hothers _ ih =>
    rw [respellCondition, respellObject]
    split
    · refine .object (givesNone_replace_set _ _ _) ?_
      rw [Entries.itemsAt, Entries.get?_replace]
      show ∀ v ∈ respellChildren entries, _
      rw [respellChildren_eq_map]
      exact List.forall_mem_map.mpr ih
    · next hset =>
      rw [isOlderSet, Bool.or_eq_true, not_or, Bool.not_eq_true, Bool.not_eq_true] at hset
      refine .object ?_ ?_
      · simp only [Entries.GivesNone, Spelling.canonical, List.forall_mem_cons, Schema.lookup_self]
        exact ⟨hset.1, hset.2, fun f hf => absurd hf List.not_mem_nil⟩
      · -- a leaf in the older spelling gives no children to look at
        intro v hv
        have hchildren := hothers ("children", "children") (by decide)
        rw [Schema.lookup_self] at hchildren
        have hitems : entries.itemsAt Spelling.canonical.children = [] :=
          Entries.itemsAt_of_not_given hchildren
        rw [hitems] at hv
        cases hv

theorem respellCondition_ne_null {v : Value} (h : respellCondition v ≠ .null) : v ≠ .null := by
  rintro rfl
  exact h rfl

theorem canonical_respelledHop {entries : Entries} (h : Spelling.older.InHop entries) :
    Spelling.canonical.InHop (entries.replace hopKeys (respelledHop entries)) := by
  constructor
  · simp only [Entries.GivesNone, Spelling.canonical, List.forall_mem_cons]
    have hnone : ∀ {wire plain : String}, wire ∈ hopKeys → plain ∈ hopKeys →
        (respelledHop entries).get? wire = none → (respelledHop entries).get? plain = none →
        isGiven (Schema.lookup (entries.replace hopKeys (respelledHop entries)) wire plain) =
          false := by
      intro wire plain hwire hplain hwireNone hplainNone
      rw [Entries.lookup_replace hwire hplain, hwireNone, hplainNone]
      rfl
    refine ⟨?_, ?_, ?_, ?_, fun f hf => absurd hf List.not_mem_nil⟩
    all_goals
      refine hnone (by decide) (by decide) ?_ ?_ <;>
        simp [get?_respelledHop]
  · intro v hv hnull
    have hv' := (lookup_conditions_respelledHop entries).symm.trans hv
    obtain ⟨w, hw, rfl⟩ := Option.map_eq_some_iff.mp hv'
    exact canonical_respellCondition (h.conditions w hw (respellCondition_ne_null hnull))

theorem canonical_respellChain {v : Value} (h : Spelling.older.InChain v) :
    Spelling.canonical.InChain (respellChain v) := by
  have hmap : ∀ items : List Value, v.collection? = some items → ∀ entries : Entries,
      .dict entries ∈ items.map respellHop → Spelling.canonical.InHop entries := by
    intro items hitems entries hmem
    obtain ⟨w, hw, heq⟩ := List.mem_map.mp hmem
    cases w with
    | dict own =>
      cases heq
      exact canonical_respelledHop (h items own hitems hw)
    | _ => cases heq
  intro items entries hitems hmem
  cases v with
  | list own =>
    cases hitems
    exact hmap own rfl entries hmem
  | tuple own =>
    cases hitems
    exact hmap own rfl entries hmem
  | set own =>
    cases hitems
    exact hmap own rfl entries hmem
  | _ => cases hitems

theorem get?_respelledTarget (entries : Entries) :
    (entries.replace ["conditions"] (respelledTarget entries)).get? "conditions" =
      (entries.get? "conditions").map respellCondition := by
  rw [Entries.get?_replace, if_pos List.mem_cons_self, Option.or_none, respelledTarget,
    Table.get?_given, if_pos rfl]

theorem canonical_respellTarget {v : Value} (h : Spelling.older.InTarget v) :
    Spelling.canonical.InTarget (respellTarget v) := by
  intro entries c hentries hc hnull
  cases v with
  | dict own =>
    cases hentries
    obtain ⟨w, hw, rfl⟩ := Option.map_eq_some_iff.mp ((get?_respelledTarget own).symm.trans hc)
    exact canonical_respellCondition (h own w rfl hw (respellCondition_ne_null hnull))
  | _ => cases hentries

/-! ## What is respelled keeps a text -/

/-- The items of a value are looked at together with the value itself, since a set of conditions has
its children two levels down. -/
theorem writable_respell {v : Value} (h : v.Writable) :
    (respellCondition v).Writable ∧ ∀ w ∈ respellItems v, w.Writable := by
  have hitems : ∀ {u : Value}, u.collection? = none → ∀ w ∈ respellItems u, w.Writable := by
    intro u hu w hw
    rw [respellItems_eq, hu] at hw
    cases hw
  have hplain := h.plain
  induction hplain with
  | null => exact ⟨h, hitems rfl⟩
  | bool b => exact ⟨h, hitems rfl⟩
  | int n => exact ⟨h, hitems rfl⟩
  | float x => exact ⟨h, hitems rfl⟩
  | str s => exact ⟨h, hitems rfl⟩
  | @list items _ ih =>
    refine ⟨h, ?_⟩
    intro w hw
    rw [respellItems_eq] at hw
    obtain ⟨item, hitem, rfl⟩ := List.mem_map.mp hw
    exact (ih item hitem (h.items item hitem)).1
  | @dict fields _ _ ih =>
    refine ⟨?_, hitems rfl⟩
    have hchildren : ∀ w ∈ respellChildren fields.toEntries, w.Writable := by
      intro w hw
      rw [respellChildren_eq, Table.get?_toEntries] at hw
      cases hconditions : fields.get? "conditions" with
      | none =>
        rw [hconditions] at hw
        cases hw
      | some list =>
        rw [hconditions] at hw
        have hmem := Table.mem_of_get? hconditions
        exact (ih _ hmem (h.values _ (List.mem_map_of_mem hmem))).2 w hw
    rw [respellCondition, respellObject]
    split
    · refine Entries.writable_replace h (by simp [setFields]) (keys_setFields _ _) ?_
      simp only [setFields, List.forall_mem_cons]
      exact ⟨.str _, .list hchildren, fun e he => absurd he List.not_mem_nil⟩
    · exact h

theorem writable_respelledHop {entries : Entries} (h : (Value.dict entries).Writable) :
    (Value.dict (entries.replace hopKeys (respelledHop entries))).Writable := by
  have hkept : ∀ {wire plain : String}, ∀ v ∈ Schema.lookup entries wire plain, v.Writable :=
    fun v hv => Schema.of_lookup h.values hv
  refine Entries.writable_replace h ?_ (keys_respelledHop_subset entries) ?_
  · have hnodup : ["selectorType", "reference", "conditions"].Nodup := by decide
    exact hnodup.sublist (keys_respelledHop entries)
  intro e he
  simp only [respelledHop, List.mem_append, Table.mem_given_iff] at he
  rcases he with (⟨v, hv, rfl⟩ | ⟨v, hv, rfl⟩) | ⟨v, hv, rfl⟩
  · obtain ⟨w, hw, rfl⟩ := Option.map_eq_some_iff.mp hv
    unfold selectorWord
    split
    · exact .str "node"
    · exact hkept w hw
  · rw [olderReference] at hv
    split at hv
    · exact hkept v hv
    · exact hkept v hv
  · obtain ⟨w, hw, rfl⟩ := Option.map_eq_some_iff.mp hv
    exact (writable_respell (hkept w hw)).1

theorem writable_respellHop {v : Value} (h : v.Writable) : (respellHop v).Writable := by
  cases v with
  | dict entries => exact writable_respelledHop h
  | _ => exact h

theorem writable_respellChain {v : Value} (h : v.Writable) : (respellChain v).Writable := by
  cases v with
  | list items =>
    refine .list ?_
    intro w hw
    obtain ⟨item, hitem, rfl⟩ := List.mem_map.mp hw
    exact writable_respellHop (h.items item hitem)
  | tuple items | set items => cases h.plain
  | _ => exact h

theorem writable_respellTarget {v : Value} (h : v.Writable) : (respellTarget v).Writable := by
  cases v with
  | dict entries =>
    refine Entries.writable_replace h ?_ ?_ ?_
    · exact (List.nodup_singleton "conditions").sublist (Table.keys_given_sublist "conditions" _)
    · exact (Table.keys_given_sublist "conditions" _).subset
    · intro e he
      obtain ⟨v, hv, rfl⟩ := Table.mem_given_iff.mp he
      obtain ⟨w, hw, rfl⟩ := Option.map_eq_some_iff.mp hv
      exact (writable_respell (h.values _ (Entries.mem_of_get? hw))).1
  | _ => exact h

end DialPlan
