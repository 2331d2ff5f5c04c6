import DialPlan.Proofs.Outcome
import DialPlan.Proofs.Schema.Reading
import DialPlan.Schema.Condition

/-!
# Conditions read back

`Condition.Decoded` says which trees a reader makes of plain data: both names of a leaf are given,
and its value is a part of the data.  A tree of values that have a text has a wire form, which has a
text again and is read as the tree itself (`Condition.exists_readsBack`).  The wire form is the
canonical spelling, whichever spelling the tree was read from.
-/

namespace DialPlan

/-- **Trees that come from data**, with values of a kind in their leaves. -/
inductive Condition.Decoded (P : Value → Prop) : Condition → Prop
  | leaf {field operator : String} {value : Value} : field.isEmpty = false →
    operator.isEmpty = false → P value → Decoded P (leaf (.of field operator value))
  | group {combinator : Combinator} {children : List Condition} :
    (∀ c ∈ children, Decoded P c) → Decoded P (group combinator children)

/-- **Trees with leaves that can be put into words.** -/
def Condition.Printable (c : Condition) : Prop :=
  ∀ p ∈ c.leaves, p.value.printable = true

theorem printable_of (field operator : String) (v : Value) :
    (Predicate.of field operator v).value.printable = v.printable := by
  cases v with
  | list items => simp only [Predicate.of, Value.printable]
  | _ => rfl

theorem Condition.Decoded.writable {c : Condition} (h : c.Decoded Value.Plain)
    (hprint : c.Printable) : c.Decoded Value.Writable := by
  induction h with
  | @leaf field operator value hfield hoperator hvalue =>
    have hleaf := hprint (.of field operator value) (by simp)
    exact .leaf hfield hoperator ⟨hvalue, printable_of field operator value ▸ hleaf⟩
  | @group combinator children _ ih =>
    refine .group fun c hc => ih c hc fun p hp => hprint p ?_
    rw [leaves_group, leavesOf_eq_flatMap]
    exact List.mem_flatMap.mpr ⟨c, hc, hp⟩

variable {P : Value → Prop}

/-! ## What is read -/

namespace ConditionParts

variable {p : ConditionParts}

theorem decoded_toGroup (hchildren : ∀ cs ∈ p.children, ∀ c ∈ cs, c.Decoded P)
    (hconditions : ∀ cs ∈ p.conditions, ∀ c ∈ cs, c.Decoded P) : p.toGroup.Decoded P := by
  have hgiven : ∀ c ∈ p.conditions.getD [], c.Decoded P := by
    cases hcs : p.conditions with
    | none => exact fun c hc => absurd hc List.not_mem_nil
    | some cs => exact hconditions cs hcs
  have hgroup : ∀ cs : List Condition, (∀ c ∈ cs, c.Decoded P) →
      (if p.isOld && cs.isEmpty then Condition.group .any []
        else .group ((p.combinator.or p.logic).getD .all) cs).Decoded P := by
    intro cs hcs
    split
    · exact .group fun c hc => absurd hc List.not_mem_nil
    · exact .group hcs
  unfold toGroup
  dsimp only
  split
  · next c cs hcs => exact hgroup _ (hchildren _ hcs)
  · exact hgroup _ hgiven

theorem decoded_of_assemble (hvalue : P p.value)
    (hchildren : ∀ cs ∈ p.children, ∀ c ∈ cs, c.Decoded P)
    (hconditions : ∀ cs ∈ p.conditions, ∀ c ∈ cs, c.Decoded P) {c : Condition}
    (h : p.assemble = .good c) : c.Decoded P := by
  unfold assemble at h
  split at h
  · split at h
    · cases h
    split at h
    · cases h
    split at h
    · cases h
    cases h
    exact decoded_toGroup hchildren hconditions
  · split at h
    · split at h
      · cases h
      · next hnames =>
        cases h
        rw [Bool.or_eq_true, not_or, Bool.not_eq_true, Bool.not_eq_true] at hnames
        exact .leaf hnames.1 hnames.2 hvalue
    · cases h

end ConditionParts

/-- **What a condition object comes to**: its parts, each read off a field of its own, put
together. -/
theorem readObject_eq_good_iff {entries : Entries} {readings : List (Value × ItemReadings)}
    {c : Condition} : readObject entries readings = .good c ↔ ∃ p : ConditionParts,
      Schema.optionalField entries "field" "field" Schema.text = .good p.field ∧
      Schema.optionalField entries "operator" "operator" Schema.text = .good p.operator ∧
      Schema.field entries "value" "value" .good .null = .good p.value ∧
      Schema.optionalField entries "combinator" "combinator"
        (Schema.oneOf Combinator.ofName?) = .good p.combinator ∧
      childList entries readings "children" = .good p.children ∧
      Schema.optionalField entries "logic" "logic" readLogic = .good p.logic ∧
      childList entries readings "conditions" = .good p.conditions ∧
      p.assemble = .good c := by
  simp only [readObject, Checked.andThen_eq_good_iff, Checked.seq_eq_good_iff,
    Checked.map_apply_eq_good_iff]
  constructor
  · rintro ⟨_, ⟨_, conditions, ⟨_, logic, ⟨_, children, ⟨_, combinator, ⟨_, value, ⟨_, operator,
      ⟨field, hfield, rfl⟩, hoperator, rfl⟩, hvalue, rfl⟩, hcombinator, rfl⟩, hchildren, rfl⟩,
      hlogic, rfl⟩, hconditions, rfl⟩, hassemble⟩
    exact ⟨_, hfield, hoperator, hvalue, hcombinator, hchildren, hlogic, hconditions, hassemble⟩
  · rintro ⟨p, hfield, hoperator, hvalue, hcombinator, hchildren, hlogic, hconditions, hassemble⟩
    exact ⟨p, ⟨_, _, ⟨_, _, ⟨_, _, ⟨_, _, ⟨_, _, ⟨_, _, ⟨_, hfield, rfl⟩, hoperator, rfl⟩, hvalue,
      rfl⟩, hcombinator, rfl⟩, hchildren, rfl⟩, hlogic, rfl⟩, hconditions, rfl⟩, hassemble⟩

theorem settled_readLogic (v : Value) : (readLogic v).Settled := by
  refine (Schema.settled_text v).andThen fun s => ?_
  dsimp only
  split
  · exact Checked.settled_good _
  · exact Checked.settled_bad _

theorem ConditionParts.settled_assemble (p : ConditionParts) : p.assemble.Settled := by
  unfold assemble
  repeat' split
  all_goals first | exact Checked.settled_good _ | exact Checked.settled_bad _

theorem settled_childList {entries : Entries} {key : String}
    (h : ∀ v cs, entries.get? key = some v → itemReadings v = some cs → ∀ c ∈ cs, c.Settled) :
    (childList entries (readingsOfEntries entries) key).Settled := by
  unfold childList
  split
  · exact Checked.settled_good none
  · exact Checked.settled_good none
  · next v _ hv =>
    rw [readingsAt_readingsOfEntries, hv, Option.bind_some]
    split
    · next cs hcs => exact ((Checked.settled_indexed (h v cs hv hcs)).map some).under _
    · exact (Checked.settled_bad _).under _

theorem settled_readObject {entries : Entries}
    (h : ∀ key v cs, entries.get? key = some v → itemReadings v = some cs → ∀ c ∈ cs, c.Settled) :
    (readObject entries (readingsOfEntries entries)).Settled := by
  refine Checked.Settled.andThen ?_ ConditionParts.settled_assemble
  refine .seq (.seq (.seq (.seq (.seq (.seq (.map_apply ?_ _) ?_) ?_) ?_) ?_) ?_) ?_
  · exact Schema.settled_optionalField Schema.settled_text
  · exact Schema.settled_optionalField Schema.settled_text
  · exact Schema.settled_field Checked.settled_good
  · exact Schema.settled_optionalField (Schema.settled_oneOf _)
  · exact settled_childList (h "children")
  · exact Schema.settled_optionalField settled_readLogic
  · exact settled_childList (h "conditions")

/-- The items of a value are read without getting stuck. -/
def ItemsSettled (v : Value) : Prop := ∀ cs, itemReadings v = some cs → ∀ c ∈ cs, c.Settled

mutual

/-- **A condition never gets stuck**: no identifier is in it. -/
theorem settled_readCondition : ∀ v : Value, (readCondition v).Settled
  | .dict entries => by
    rw [readCondition]
    exact settled_readObject fun key v cs hv =>
      itemsSettled_of_entries entries _ (Entries.mem_of_get? hv) cs
  | .null | .bool _ | .int _ | .float _ | .decimal _ | .str _ | .bytes _ | .date _ | .time _
  | .list _ | .tuple _ | .set _ | .object _ => Checked.settled_bad _

theorem itemsSettled_of_entries : ∀ (entries : List (Value × Value)), ∀ e ∈ entries,
    ItemsSettled e.2
  | [], _, h => absurd h List.not_mem_nil
  | (k, v) :: es, e, h => by
    rcases List.mem_cons.mp h with rfl | hes
    · exact itemsSettled v
    · exact itemsSettled_of_entries es e hes

theorem itemsSettled : ∀ v : Value, ItemsSettled v
  | .list items | .tuple items | .set items => by
    intro cs hcs
    cases hcs
    exact settled_readConditions items
  | .null | .bool _ | .int _ | .float _ | .decimal _ | .str _ | .bytes _ | .date _ | .time _
  | .dict _ | .object _ => nofun

theorem settled_readConditions : ∀ vs : List Value, ∀ c ∈ readConditions vs, c.Settled
  | [], _, h => absurd h List.not_mem_nil
  | v :: vs, c, h => by
    rcases List.mem_cons.mp h with rfl | hvs
    · exact settled_readCondition v
    · exact settled_readConditions vs c hvs

end

/-- The trees that the items of a value are read as come from data. -/
def ItemsDecoded (P : Value → Prop) (v : Value) : Prop :=
  ∀ readings cs, itemReadings v = some readings → Checked.indexed readings = .good cs →
    ∀ c ∈ cs, c.Decoded P

theorem decoded_of_childList {entries : Entries} {key : String}
    (h : ∀ v, entries.get? key = some v → ItemsDecoded P v) {children : Option (List Condition)}
    (hread : childList entries (readingsOfEntries entries) key = .good children) :
    ∀ cs ∈ children, ∀ c ∈ cs, c.Decoded P := by
  unfold childList at hread
  split at hread
  · cases hread
    exact fun cs hcs => absurd hcs (Option.not_mem_none cs)
  · cases hread
    exact fun cs hcs => absurd hcs (Option.not_mem_none cs)
  · next v _ hv =>
    rw [readingsAt_readingsOfEntries, hv, Option.bind_some] at hread
    split at hread
    · next readings hreadings =>
      rw [Checked.under_eq_good_iff, Checked.map_eq_good_iff] at hread
      obtain ⟨cs, hcs, rfl⟩ := hread
      intro cs' hcs'
      cases hcs'
      exact h v hv readings cs hreadings hcs
    · rw [Checked.under_eq_good_iff] at hread
      exact absurd hread Checked.fail_ne_good

theorem decoded_of_readObject (hnull : P .null) {entries : Entries}
    (hentries : ∀ e ∈ entries, P e.2)
    (hitems : ∀ key v, entries.get? key = some v → ItemsDecoded P v) {c : Condition}
    (h : readObject entries (readingsOfEntries entries) = .good c) : c.Decoded P := by
  obtain ⟨p, -, -, hvalue, -, hchildren, -, hconditions, hassemble⟩ := readObject_eq_good_iff.mp h
  refine ConditionParts.decoded_of_assemble ?_ ?_ ?_ hassemble
  · rcases Schema.field_eq_good_iff.mp hvalue with ⟨-, hempty⟩ | ⟨v, hlookup, hread⟩
    · rw [hempty]
      exact hnull
    · rw [← Checked.good.inj hread]
      exact Schema.of_lookup hentries hlookup
  · exact decoded_of_childList (hitems "children") hchildren
  · exact decoded_of_childList (hitems "conditions") hconditions

/-- What reading a value and its items leads to. -/
theorem decoded_of_hereditary (hP : Value.Hereditary P) {v : Value} (h : P v) :
    (∀ c, readCondition v = .good c → c.Decoded P) ∧ ItemsDecoded P v := by
  have hnone : ∀ {w : Value}, itemReadings w = none → ItemsDecoded P w := by
    intro w hw readings cs hreadings
    rw [hw] at hreadings
    cases hreadings
  have hfail : ∀ {w : Value}, readCondition w = .fail .notAModel →
      ∀ c, readCondition w = .good c → c.Decoded P := by
    intro w hw c hc
    rw [hw] at hc
    exact absurd hc Checked.fail_ne_good
  have hplain := hP.plain h
  -- an object reads the items of its entries, two levels down, so both go through together
  induction hplain with
  | null => exact ⟨hfail rfl, hnone rfl⟩
  | bool b => exact ⟨hfail rfl, hnone rfl⟩
  | int n => exact ⟨hfail rfl, hnone rfl⟩
  | float x => exact ⟨hfail rfl, hnone rfl⟩
  | str s => exact ⟨hfail rfl, hnone rfl⟩
  | @list items _ ih =>
    refine ⟨hfail rfl, ?_⟩
    intro readings cs hreadings hcs c hc
    rw [itemReadings] at hreadings
    cases hreadings
    rw [readConditions_eq_map, Checked.indexed_eq_good_iff] at hcs
    have hmem : Checked.good c ∈ items.map readCondition := hcs ▸ List.mem_map_of_mem hc
    obtain ⟨item, hitem, hread⟩ := List.mem_map.mp hmem
    exact (ih item hitem (hP.items h item hitem)).1 c hread
  | @dict fields _ _ ih =>
    refine ⟨?_, hnone rfl⟩
    intro c hc
    rw [readCondition] at hc
    refine decoded_of_readObject hP.null (hP.values h) ?_ hc
    intro key v hv
    rw [Table.get?_toEntries] at hv
    have hmem := Table.mem_of_get? hv
    exact (ih _ hmem (hP.values h _ (List.mem_map_of_mem hmem))).2

/-- **A condition that is read from data comes from such data.** -/
theorem decoded_of_readCondition (hP : Value.Hereditary P) {v : Value} (hv : P v) {c : Condition}
    (h : readCondition v = .good c) : c.Decoded P :=
  (decoded_of_hereditary hP hv).1 c h

/-! ## What is written -/

theorem wireItems_eq_ok {items : List Value} (h : ∀ v ∈ items, v.wire = .ok v) :
    Value.wireItems items = .ok items := by
  induction items with
  | nil => rw [Value.wireItems]
  | cons v items ih =>
    rw [Value.wireItems, h v List.mem_cons_self, ih fun w hw => h w (List.mem_cons_of_mem v hw)]
    rfl

/-- **Plain values are their own wire forms.** -/
theorem wire_of_plain {v : Value} (h : v.Plain) : v.wire = .ok v := by
  induction h with
  | list _ ih =>
    rw [Value.wire, wireItems_eq_ok ih]
    rfl
  | _ => rfl

/-- The wire form of a leaf is that of the value it was made of, though it holds a list as a
tuple. -/
theorem wire_predicate (field operator : String) {v : Value} (h : v.Plain) :
    (Predicate.of field operator v).value.wire = .ok v := by
  have hwire := wire_of_plain h
  cases h with
  | list _ =>
    rw [Value.wire] at hwire
    rw [Predicate.of, Value.wire]
    exact hwire
  | _ => exact hwire

/-- The canonical spelling of a leaf. -/
def leafFields (field operator : String) (value : Value) : Table Value :=
  [("field", .str field), ("operator", .str operator), ("value", value)]

/-- The canonical spelling of a group. -/
def groupFields (combinator : Combinator) (children : List Value) : Table Value :=
  [("combinator", .str combinator.name), ("children", .list children)]

theorem writable_leafFields (field operator : String) {value : Value} (h : value.Writable) :
    (Value.dict (leafFields field operator value).toEntries).Writable := by
  refine .cons (by simp) (.str field) (.cons (by simp) (.str operator) ?_)
  exact .cons List.not_mem_nil h .empty

theorem writable_groupFields (combinator : Combinator) {children : List Value}
    (h : ∀ v ∈ children, v.Writable) :
    (Value.dict (groupFields combinator children).toEntries).Writable := by
  refine .cons (by simp) (.str combinator.name) ?_
  exact .cons List.not_mem_nil (.list h) .empty

theorem readCondition_leaf {field operator : String} (value : Value)
    (hfield : field.isEmpty = false) (hoperator : operator.isEmpty = false) :
    readCondition (.dict (leafFields field operator value).toEntries) =
      .good (.leaf (.of field operator value)) := by
  rw [readCondition]
  simp [readObject, Schema.optionalField, Schema.field, Schema.lookup, childList, leafFields,
    Entries.get?_cons, Schema.optional, Schema.text, ConditionParts.assemble,
    ConditionParts.isGroup, hfield, hoperator]

theorem readCondition_group (combinator : Combinator) {children : List Value}
    {cs : List Condition} (h : children.map readCondition = cs.map .good) :
    readCondition (.dict (groupFields combinator children).toEntries) =
      .good (.group combinator cs) := by
  have hitems : Checked.indexed (children.map readCondition) = .good cs :=
    Checked.indexed_eq_good_iff.mpr h
  rw [readCondition]
  simp [readObject, Schema.optionalField, Schema.field, Schema.lookup, childList, groupFields,
    Entries.get?_cons, Schema.optional, Schema.oneOf, ConditionParts.assemble,
    ConditionParts.isGroup, ConditionParts.isLeaf, ConditionParts.toGroup, ConditionParts.isOld,
    readingsAt, readingsOfEntries, itemReadings, readConditions_eq_map, hitems]
  cases cs <;> rfl

/-- A value that the tree is written as and read back from. -/
def Condition.ReadsBack (c : Condition) (w : Value) : Prop :=
  c.toValue = .ok w ∧ w.Writable ∧ readCondition w = .good c

theorem Condition.ReadsBack.ne_null {c : Condition} {w : Value} (h : c.ReadsBack w) :
    w ≠ .null := by
  rintro rfl
  exact Checked.fail_ne_good h.2.2

theorem toValues_readsBack {cs : List Condition} (h : ∀ c ∈ cs, ∃ w, c.ReadsBack w) :
    ∃ ws, Condition.toValues cs = .ok ws ∧ (∀ w ∈ ws, w.Writable) ∧
      ws.map readCondition = cs.map .good := by
  induction cs with
  | nil => exact ⟨[], rfl, fun w hw => absurd hw List.not_mem_nil, rfl⟩
  | cons c cs ih =>
    obtain ⟨w, hw, htext, hread⟩ := h c List.mem_cons_self
    obtain ⟨ws, hws, htexts, hreads⟩ := ih fun d hd => h d (List.mem_cons_of_mem c hd)
    refine ⟨w :: ws, ?_, List.forall_mem_cons.mpr ⟨htext, htexts⟩, ?_⟩
    · rw [Condition.toValues, hw, hws]
      rfl
    · rw [List.map_cons, List.map_cons, hread, hreads]

/-- **A tree that comes from data that has a text is read back from its wire form.** -/
theorem Condition.exists_readsBack {c : Condition} (h : c.Decoded Value.Writable) :
    ∃ w, c.ReadsBack w := by
  induction h with
  | @leaf field operator value hfield hoperator hvalue =>
    refine ⟨.dict (leafFields field operator value).toEntries, ?_,
      writable_leafFields field operator hvalue, readCondition_leaf value hfield hoperator⟩
    rw [Condition.toValue, Predicate.toValue, wire_predicate field operator hvalue.plain]
    rfl
  | @group combinator children _ ih =>
    obtain ⟨ws, hws, htexts, hread⟩ := toValues_readsBack ih
    refine ⟨.dict (groupFields combinator ws).toEntries, ?_, writable_groupFields combinator htexts,
      readCondition_group combinator hread⟩
    rw [Condition.toValue, hws]
    rfl

end DialPlan
