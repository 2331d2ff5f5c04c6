import DialPlan.Proofs.Schema.Respelling
import DialPlan.Record
import Mathlib.Data.List.Forall2

/-!
# The grammar of conditions

`Spells v c` says that data is the text of a tree: it is a leaf with both of its names, or a group
in one of the two spellings or a mixture of them, whose children are the texts of trees.  The reader
takes exactly these data, makes of each the tree it is the text of, and refuses all others
(`decodeCondition_grammar`).

The grammar is about what is given, and null counts as absent everywhere.  Each field of an object
is one of the parts that the reader takes it apart into, so the two are compared field by field
(`readObject_iff`) and then as wholes (`spells_iff_parts`).
-/

namespace DialPlan

/-! ## The grammar -/

/-- **An optional field**: it is not given, or given as a value that stands for something. -/
def SpellsOptional {α : Type} (spells : Value → α → Prop) (v : Option Value) : Option α → Prop
  | none => isGiven v = false
  | some a => ∃ w, v = some w ∧ spells w a

/-- A combinator by its name. -/
def SpellsCombinator (v : Value) (c : Combinator) : Prop := v = .str c.name

/-- A combinator by its name in any case, with blanks around it; a blank text is *and*. -/
def SpellsLogic (v : Value) (c : Combinator) : Prop :=
  ∃ s, v = .str s ∧
    (Text.lower (Text.trim s) = c.name ∨ Text.lower (Text.trim s) = "" ∧ c = .all)

/-- The items of a list; none where it is not given. -/
def SpellsItems (v : Option Value) (items : List Value) : Prop :=
  v = some (.list items) ∨ isGiven v = false ∧ items = []

/-- **What a group lists**: its children in one of the two spellings, not in both. -/
def SpellsChildren (entries : Entries) (items : List Value) : Prop :=
  SpellsItems (entries.get? "children") items ∧ isGiven (entries.get? "conditions") = false ∨
    isGiven (entries.get? "children") = false ∧ SpellsItems (entries.get? "conditions") items

/-- The fields of a group, in both spellings. -/
def groupKeys : List String := ["combinator", "children", "logic", "conditions"]

/-- **The combinator of a group**: the one that is named, else *and*; but an empty group that has
some of the older fields and no combinator is an *or*. -/
def groupCombinator (entries : Entries) (combinator logic : Option Combinator)
    (children : List Condition) : Combinator :=
  if combinator = none ∧ isOlderSet entries = true ∧ children = [] then .any
  else (combinator.or logic).getD .all

/-- **Data that is the text of a tree.** -/
inductive Spells : Value → Condition → Prop
  | leaf {entries : Entries} {field operator : String} :
    (∀ key ∈ groupKeys, isGiven (entries.get? key) = false) →
    entries.get? "field" = some (.str field) → field ≠ "" →
    entries.get? "operator" = some (.str operator) → operator ≠ "" →
      Spells (.dict entries) (.leaf (.of field operator ((entries.get? "value").getD .null)))
  | group {entries : Entries} {combinator logic : Option Combinator} {items : List Value}
    {children : List Condition} :
    (∃ key ∈ groupKeys, isGiven (entries.get? key) = true) →
    isGiven (entries.get? "field") = false → isGiven (entries.get? "operator") = false →
    SpellsOptional SpellsCombinator (entries.get? "combinator") combinator →
    SpellsOptional SpellsLogic (entries.get? "logic") logic →
    (∀ c ∈ combinator, ∀ l ∈ logic, c = l) →
    SpellsChildren entries items → List.Forall₂ Spells items children →
      Spells (.dict entries) (.group (groupCombinator entries combinator logic children) children)

/-! ## Field by field -/

section Fields

variable {α : Type} {spells : Value → α → Prop} {entries : Entries} {key : String}

theorem eq_none_iff_of_spellsOptional {v : Option Value} {o : Option α}
    (hnull : ∀ a, ¬ spells .null a) (h : SpellsOptional spells v o) :
    o = none ↔ isGiven v = false := by
  cases o with
  | none => exact iff_of_true rfl h
  | some a =>
    obtain ⟨w, rfl, hw⟩ := h
    refine iff_of_false nofun ?_
    rw [isGiven_eq_false_iff]
    rintro (hnone | hw')
    · cases hnone
    · cases hw'
      exact hnull a hw

/-- **What an optional field comes to.** -/
theorem optionalField_eq_good_iff {read : Value → Checked α} {o : Option α}
    (hplain : ∀ v, entries.get? key = some v → v.Plain)
    (hread : ∀ v, v.Plain → ∀ a, read v = .good a ↔ spells v a) (hnull : ∀ a, ¬ spells .null a) :
    Schema.optionalField entries key key read = .good o ↔
      SpellsOptional spells (entries.get? key) o := by
  cases o with
  | none => rw [Schema.optionalField_eq_none_iff, Schema.lookup_self, SpellsOptional]
  | some a =>
    constructor
    · intro h
      obtain ⟨v, hv, hgood⟩ := Schema.exists_of_optionalField h
      rw [Schema.lookup_self] at hv
      exact ⟨v, hv, (hread v (hplain v hv) a).mp hgood⟩
    · rintro ⟨v, hv, hspells⟩
      refine Schema.field_eq_good_iff.mpr (Or.inr ⟨v, (Schema.lookup_self _ _).trans hv, ?_⟩)
      refine Schema.optional_eq_good ?_ ((hread v (hplain v hv) a).mpr hspells)
      rintro rfl
      exact hnull a hspells

theorem text_eq_good_iff {v : Value} (hv : v.Plain) (s : String) :
    Schema.text v = .good s ↔ v = .str s := by
  cases hv <;> simp [Schema.text]

theorem Combinator.ofName?_eq_some_iff {s : String} {c : Combinator} :
    ofName? s = some c ↔ s = c.name := by
  constructor
  · intro h
    unfold ofName? at h
    split at h
    · next hs => cases h; exact hs
    · split at h
      · next hs => cases h; exact hs
      · cases h
  · rintro rfl
    exact ofName?_name c

theorem oneOf_eq_good_iff (v : Value) (c : Combinator) :
    Schema.oneOf Combinator.ofName? v = .good c ↔ SpellsCombinator v c := by
  unfold Schema.oneOf SpellsCombinator
  split
  · next s =>
    rw [Value.str.injEq, ← Combinator.ofName?_eq_some_iff]
    cases Combinator.ofName? s <;> simp
  · next hstr => simpa using hstr c.name

theorem readLogic_eq_good_iff {v : Value} (hv : v.Plain) (c : Combinator) :
    readLogic v = .good c ↔ SpellsLogic v c := by
  cases hv with
  | str s =>
    have hspells : SpellsLogic (.str s) c ↔
        Text.lower (Text.trim s) = c.name ∨ Text.lower (Text.trim s) = "" ∧ c = .all := by
      simp [SpellsLogic]
    rw [hspells]
    unfold readLogic
    simp only [Schema.text, Checked.andThen_good]
    generalize Text.lower (Text.trim s) = word
    by_cases hblank : word = ""
    case pos =>
      subst hblank
      cases c <;> simp [Combinator.ofName?, Combinator.name]
    case neg =>
      have hword : word.isEmpty = false := by simpa using hblank
      simp only [hword, Bool.false_eq_true, if_false, hblank, false_and, or_false]
      rw [← Combinator.ofName?_eq_some_iff]
      cases Combinator.ofName? word <;> simp
  | _ => simp [readLogic, SpellsLogic, Schema.text, Checked.andThen, Checked.fail]

end Fields

/-! ## The parts of an object -/

/-- The trees that a list holds. -/
def SpellsList (v : Value) (children : List Condition) : Prop :=
  ∃ items, v = .list items ∧ List.Forall₂ Spells items children

/-- **What an object gives for each of its parts.** -/
structure SpellsParts (entries : Entries) (p : ConditionParts) : Prop where
  field : SpellsOptional (fun v s => v = .str s) (entries.get? "field") p.field
  operator : SpellsOptional (fun v s => v = .str s) (entries.get? "operator") p.operator
  value : p.value = (entries.get? "value").getD .null
  combinator : SpellsOptional SpellsCombinator (entries.get? "combinator") p.combinator
  children : SpellsOptional SpellsList (entries.get? "children") p.children
  logic : SpellsOptional SpellsLogic (entries.get? "logic") p.logic
  conditions : SpellsOptional SpellsList (entries.get? "conditions") p.conditions

/-- The items of a value are read as the trees that they are the texts of. -/
def ReadsItems (v : Value) : Prop :=
  ∀ items, v.collection? = some items → v = .list items ∧
    ∀ item ∈ items, ∀ c, readCondition item = .good c ↔ Spells item c

theorem forall₂_spells_iff {items : List Value} {cs : List Condition}
    (h : ∀ item ∈ items, ∀ c, readCondition item = .good c ↔ Spells item c) :
    items.map readCondition = cs.map .good ↔ List.Forall₂ Spells items cs := by
  induction items generalizing cs with
  | nil => cases cs <;> simp
  | cons item items ih =>
    obtain ⟨hitem, hitems⟩ := List.forall_mem_cons.mp h
    cases cs with
    | nil => simp
    | cons c cs => simp [hitem, ih hitems]

theorem childList_iff {entries : Entries} {key : String} {children : Option (List Condition)}
    (h : ∀ v, entries.get? key = some v → ReadsItems v) :
    childList entries (readingsOfEntries entries) key = .good children ↔
      SpellsOptional SpellsList (entries.get? key) children := by
  rw [childList_eq_good_iff]
  cases children with
  | none => simp [SpellsOptional]
  | some cs =>
    constructor
    · rintro (⟨-, hnone⟩ | ⟨v, items, _, hv, hitems, hread, ⟨⟩⟩)
      · cases hnone
      · obtain ⟨rfl, hspells⟩ := h v hv items hitems
        exact ⟨_, hv, items, rfl, (forall₂_spells_iff hspells).mp hread⟩
    · rintro ⟨v, hv, items, rfl, hspells⟩
      exact Or.inr ⟨_, items, cs, hv, rfl,
        (forall₂_spells_iff (h _ hv items rfl).2).mpr hspells, rfl⟩

/-- **Reading an object** is reading its parts and putting them together. -/
theorem readObject_iff {entries : Entries} {c : Condition}
    (hplain : ∀ key v, entries.get? key = some v → v.Plain)
    (h : ∀ key v, entries.get? key = some v → ReadsItems v) :
    readObject entries (readingsOfEntries entries) = .good c ↔
      ∃ p, SpellsParts entries p ∧ p.assemble = .good c := by
  have hvalue : ∀ v, Schema.field entries "value" "value" .good .null = .good v ↔
      v = (entries.get? "value").getD .null := by
    intro v
    rw [Schema.field_eq_good_iff, Schema.lookup_self]
    cases entries.get? "value" <;> simp [eq_comm]
  rw [readObject_eq_good_iff]
  refine exists_congr fun p => ?_
  rw [optionalField_eq_good_iff (hplain _) (fun _ hv => text_eq_good_iff hv) nofun,
    optionalField_eq_good_iff (hplain _) (fun _ hv => text_eq_good_iff hv) nofun, hvalue,
    optionalField_eq_good_iff (hplain _) (fun v _ => oneOf_eq_good_iff v) nofun,
    childList_iff (h "children"),
    optionalField_eq_good_iff (hplain _) (fun _ hv => readLogic_eq_good_iff hv) nofun,
    childList_iff (h "conditions")]
  constructor
  · rintro ⟨hfield, hoperator, hvalue, hcombinator, hchildren, hlogic, hconditions, hassemble⟩
    exact ⟨⟨hfield, hoperator, hvalue, hcombinator, hchildren, hlogic, hconditions⟩, hassemble⟩
  · rintro ⟨⟨hfield, hoperator, hvalue, hcombinator, hchildren, hlogic, hconditions⟩, hassemble⟩
    exact ⟨hfield, hoperator, hvalue, hcombinator, hchildren, hlogic, hconditions, hassemble⟩

/-! ## Putting the parts together -/

namespace ConditionParts

variable {p : ConditionParts}

/-- The parts of a leaf. -/
structure MakesLeaf (p : ConditionParts) (field operator : String) : Prop where
  names : p.field = some field ∧ p.operator = some operator
  given : field ≠ "" ∧ operator ≠ ""
  others : p.isGroup = false

/-- The parts of a group. -/
structure MakesGroup (p : ConditionParts) : Prop where
  given : p.isGroup = true
  others : p.field = none ∧ p.operator = none
  once : p.children = none ∨ p.conditions = none
  agree : ∀ c ∈ p.combinator, ∀ l ∈ p.logic, c = l

/-- **What parts are put together to.** -/
theorem assemble_eq_good_iff {c : Condition} : p.assemble = .good c ↔
    (∃ field operator, p.MakesLeaf field operator ∧ c = .leaf (.of field operator p.value)) ∨
      p.MakesGroup ∧ c = p.toGroup := by
  constructor
  · intro h
    unfold assemble at h
    split at h
    case isTrue hgroup =>
      split at h
      · cases h
      next hleaf =>
      split at h
      · cases h
      next honce =>
      split at h
      · cases h
      next hagree =>
      cases h
      refine Or.inr ⟨⟨hgroup, by simpa [isLeaf] using hleaf, ?_, ?_⟩, rfl⟩
      · cases hchildren : p.children <;> simp_all
      · intro c hc l hl
        simpa [Option.mem_def.mp hc, Option.mem_def.mp hl] using hagree
    case isFalse hgroup =>
      split at h
      · next f o hf ho =>
        split at h
        · cases h
        · next hgiven =>
          cases h
          exact Or.inl ⟨f, o, ⟨⟨hf, ho⟩, by simpa using hgiven, by simpa using hgroup⟩, rfl⟩
      · cases h
  · rintro (⟨f, o, hleaf, rfl⟩ | ⟨hgroup, rfl⟩)
    · obtain ⟨hfield, hoperator⟩ := hleaf.given
      simp [assemble, hleaf.others, hleaf.names, hfield, hoperator]
    · have honce : (p.children.isSome && p.conditions.isSome) = false := by
        rcases hgroup.once with h | h <;> simp [h]
      have hagree : (p.combinator.isSome && p.logic.isSome && p.combinator != p.logic) = false := by
        cases hc : p.combinator with
        | none => rfl
        | some c =>
          cases hl : p.logic with
          | none => rfl
          | some l => simp [hgroup.agree c hc l hl]
      simp [assemble, hgroup.given, isLeaf, hgroup.others, honce, hagree]

/-- The trees that a group lists. -/
def listed (p : ConditionParts) : List Condition := (p.children.or p.conditions).getD []

/-- **The group of parts** that do not list children twice. -/
theorem toGroup_eq (h : p.children = none ∨ p.conditions = none) :
    p.toGroup = .group (if p.combinator = none ∧ (p.logic.isSome || p.conditions.isSome) = true ∧
      p.listed = [] then .any else (p.combinator.or p.logic).getD .all) p.listed := by
  have hgroup : p.toGroup = if p.isOld && p.listed.isEmpty then .group .any []
      else .group ((p.combinator.or p.logic).getD .all) p.listed := by
    obtain ⟨field, operator, value, combinator, children, logic, conditions⟩ := p
    rcases h with rfl | rfl
    · rfl
    · rcases children with _ | _ | _ <;> rfl
  have hold : p.isOld = true ↔
      p.combinator = none ∧ (p.logic.isSome || p.conditions.isSome) = true := by
    simp [isOld]
  rw [hgroup]
  simp only [Bool.and_eq_true, hold, List.isEmpty_iff, and_assoc]
  split
  · next hempty => rw [hempty.2.2]
  · rfl

end ConditionParts

section Object

variable {entries : Entries} {p : ConditionParts} {items : List Value}
  {children : List Condition}

/-- The parts are those of a group exactly when one of its fields is given. -/
theorem SpellsParts.isGroup_iff (h : SpellsParts entries p) :
    p.isGroup = true ↔ ∃ key ∈ groupKeys, isGiven (entries.get? key) = true := by
  have hcombinator := eq_none_iff_of_spellsOptional nofun h.combinator
  have hchildren := eq_none_iff_of_spellsOptional nofun h.children
  have hlogic := eq_none_iff_of_spellsOptional nofun h.logic
  have hconditions := eq_none_iff_of_spellsOptional nofun h.conditions
  rw [← not_iff_not]
  simp [ConditionParts.isGroup, groupKeys, hcombinator, hchildren, hlogic, hconditions, and_assoc]

theorem SpellsParts.isOlder_eq (h : SpellsParts entries p) :
    (p.logic.isSome || p.conditions.isSome) = isOlderSet entries := by
  have hlogic := eq_none_iff_of_spellsOptional nofun h.logic
  have hconditions := eq_none_iff_of_spellsOptional nofun h.conditions
  rw [Bool.eq_iff_iff, ← not_iff_not]
  simp [isOlderSet, hlogic, hconditions]

/-- A list that is given or not holds trees, none where it is not given. -/
theorem exists_spellsList_iff {v : Option Value} :
    (∃ o, SpellsOptional SpellsList v o ∧ o.getD [] = children) ↔
      ∃ items, SpellsItems v items ∧ List.Forall₂ Spells items children := by
  constructor
  · rintro ⟨_ | cs, hspells, rfl⟩
    · exact ⟨[], Or.inr ⟨hspells, rfl⟩, .nil⟩
    · obtain ⟨w, rfl, items, rfl, hitems⟩ := hspells
      exact ⟨items, Or.inl rfl, hitems⟩
  · rintro ⟨items, rfl | ⟨hnot, rfl⟩, hitems⟩
    · exact ⟨some children, ⟨_, rfl, items, rfl, hitems⟩, rfl⟩
    · cases hitems
      exact ⟨none, hnot, rfl⟩

/-- **What a group lists**, read off its two fields. -/
theorem exists_spellsChildren_iff :
    (∃ cs older, SpellsOptional SpellsList (entries.get? "children") cs ∧
      SpellsOptional SpellsList (entries.get? "conditions") older ∧
      (cs = none ∨ older = none) ∧ (cs.or older).getD [] = children) ↔
    ∃ items, SpellsChildren entries items ∧ List.Forall₂ Spells items children := by
  constructor
  · rintro ⟨cs, older, hcs, holder, rfl | rfl, rfl⟩
    · obtain ⟨items, hitems, hspells⟩ := exists_spellsList_iff.mp ⟨older, holder, rfl⟩
      exact ⟨items, Or.inr ⟨hcs, hitems⟩, by simpa using hspells⟩
    · obtain ⟨items, hitems, hspells⟩ := exists_spellsList_iff.mp ⟨cs, hcs, rfl⟩
      exact ⟨items, Or.inl ⟨hitems, holder⟩, by simpa using hspells⟩
  · rintro ⟨items, ⟨hitems, hnot⟩ | ⟨hnot, hitems⟩, hspells⟩
    · obtain ⟨cs, hcs, rfl⟩ := exists_spellsList_iff.mpr ⟨items, hitems, hspells⟩
      exact ⟨cs, none, hcs, hnot, Or.inr rfl, by simp⟩
    · obtain ⟨older, holder, rfl⟩ := exists_spellsList_iff.mpr ⟨items, hitems, hspells⟩
      exact ⟨none, older, hnot, holder, Or.inl rfl, by simp⟩

/-- **An object is the text of a tree** when its parts can be put together to the tree. -/
theorem spells_iff_parts {c : Condition} :
    Spells (.dict entries) c ↔ ∃ p, SpellsParts entries p ∧ p.assemble = .good c := by
  constructor
  · intro h
    cases h with
    | @leaf _ field operator hothers hfield hf hoperator ho =>
      obtain ⟨hcombinator, hchildren, hlogic, hconditions⟩ :
          isGiven (entries.get? "combinator") = false ∧ isGiven (entries.get? "children") = false ∧
            isGiven (entries.get? "logic") = false ∧
            isGiven (entries.get? "conditions") = false := by
        simpa [groupKeys] using hothers
      refine ⟨⟨some field, some operator, _, none, none, none, none⟩,
        ⟨⟨_, hfield, rfl⟩, ⟨_, hoperator, rfl⟩, rfl, hcombinator, hchildren, hlogic, hconditions⟩,
        ConditionParts.assemble_eq_good_iff.mpr (Or.inl ⟨field, operator, ?_, rfl⟩)⟩
      exact ⟨⟨rfl, rfl⟩, ⟨hf, ho⟩, rfl⟩
    | @group _ combinator logic items children hgiven hfield hoperator hcombinator hlogic hagree
        hitems hchildren =>
      obtain ⟨cs, older, hcs, holder, honce, hlisted⟩ :=
        exists_spellsChildren_iff.mpr ⟨items, hitems, hchildren⟩
      have hparts : SpellsParts entries ⟨none, none, _, combinator, cs, logic, older⟩ :=
        ⟨hfield, hoperator, rfl, hcombinator, hcs, hlogic, holder⟩
      refine ⟨_, hparts, ConditionParts.assemble_eq_good_iff.mpr (Or.inr ⟨?_, ?_⟩)⟩
      · exact ⟨hparts.isGroup_iff.mpr hgiven, ⟨rfl, rfl⟩, honce, hagree⟩
      · rw [ConditionParts.toGroup_eq honce, hparts.isOlder_eq, ← hlisted]
        rfl
  · rintro ⟨p, hparts, hassemble⟩
    rcases ConditionParts.assemble_eq_good_iff.mp hassemble with
      ⟨field, operator, hleaf, rfl⟩ | ⟨hgroup, rfl⟩
    · have hfield := hparts.field
      have hoperator := hparts.operator
      rw [hleaf.names.1] at hfield
      rw [hleaf.names.2] at hoperator
      obtain ⟨_, hfield, rfl⟩ := hfield
      obtain ⟨_, hoperator, rfl⟩ := hoperator
      rw [hparts.value]
      refine .leaf ?_ hfield hleaf.given.1 hoperator hleaf.given.2
      have hothers := mt hparts.isGroup_iff.mpr (by simp [hleaf.others])
      simpa using hothers
    · obtain ⟨items, hitems, hchildren⟩ := exists_spellsChildren_iff.mp
        ⟨p.children, p.conditions, hparts.children, hparts.conditions, hgroup.once, rfl⟩
      have hfield := (eq_none_iff_of_spellsOptional nofun hparts.field).mp hgroup.others.1
      have hoperator := (eq_none_iff_of_spellsOptional nofun hparts.operator).mp hgroup.others.2
      rw [ConditionParts.toGroup_eq hgroup.once, hparts.isOlder_eq]
      exact .group (hparts.isGroup_iff.mp hgroup.given) hfield hoperator hparts.combinator
        hparts.logic hgroup.agree hitems hchildren

end Object

/-! ## The reader -/

/-- What reading a plain value and its items leads to. -/
theorem reads_of_plain {v : Value} (h : v.Plain) :
    (∀ c, readCondition v = .good c ↔ Spells v c) ∧ ReadsItems v := by
  have hother : ∀ {w : Value}, readCondition w = .fail .notAModel →
      (¬ ∃ entries, w = .dict entries) → ∀ c, readCondition w = .good c ↔ Spells w c := by
    intro w hfail hw c
    refine iff_of_false (hfail ▸ Checked.fail_ne_good) fun hspells => ?_
    cases hspells <;> exact hw ⟨_, rfl⟩
  -- an object reads the items of its lists, two levels down, so both go through together
  induction h with
  | null => exact ⟨hother rfl nofun, nofun⟩
  | bool b => exact ⟨hother rfl nofun, nofun⟩
  | int n => exact ⟨hother rfl nofun, nofun⟩
  | float x => exact ⟨hother rfl nofun, nofun⟩
  | str s => exact ⟨hother rfl nofun, nofun⟩
  | @list items _ ih =>
    refine ⟨hother rfl nofun, ?_⟩
    rintro _ ⟨⟩
    exact ⟨rfl, fun item hitem => (ih item hitem).1⟩
  | @dict fields _ hplain ih =>
    refine ⟨fun c => ?_, nofun⟩
    rw [readCondition, spells_iff_parts]
    refine readObject_iff (fun key v hv => ?_) (fun key v hv => ?_)
    · rw [Table.get?_toEntries] at hv
      exact hplain _ (Table.mem_of_get? hv)
    · rw [Table.get?_toEntries] at hv
      exact (ih _ (Table.mem_of_get? hv)).2

/-- **Decoding accepts exactly the grammar of conditions.**  Data that is no text itself is decoded
to a tree exactly when it is the text of that tree; all other data is refused as invalid. -/
theorem decodeCondition_grammar {v : Value} (hv : v.Plain) (htext : v.str? = none) :
    (∀ c, decodeCondition v = .ok c ↔ Spells v c) ∧
      ((∃ r, decodeCondition v = Outcome.refuse r ∧ r.report.cls = .packValidation) ↔
        ¬ ∃ c, Spells v c) := by
  have hdecode : decodeCondition v = (readCondition v).toOutcome "condition" [] := by
    cases v with
    | str s => cases htext
    | _ => rfl
  have hreads := (reads_of_plain hv).1
  rw [hdecode]
  cases hread : readCondition v with
  | good c =>
    have hspells : ∀ d, Spells v d ↔ c = d := fun d => by
      rw [← hreads d, hread, Checked.good.injEq]
    refine ⟨fun d => by rw [hspells, Checked.toOutcome, Except.ok.injEq], ?_⟩
    refine iff_of_false ?_ (not_not_intro ⟨c, (hspells c).mpr rfl⟩)
    rintro ⟨r, hr, -⟩
    cases hr
  | stuck f c => exact absurd hread (settled_readCondition v f c)
  | bad issues =>
    have hspells : ∀ d, ¬ Spells v d := fun d h => by
      rw [← hreads d, hread] at h
      cases h
    refine ⟨fun d => iff_of_false nofun (hspells d), ?_⟩
    exact iff_of_true ⟨_, rfl, rfl⟩ fun ⟨d, h⟩ => hspells d h

/-- A set of conditions in the older spelling holds a group in the other one, and an empty set. -/
theorem decodeCondition_grammar_mixed :
    let leaf : Table Value :=
      [("field", .str "speed"), ("operator", .str "between"), ("value", .list [.int 1, .int 2])]
    let group : Table Value :=
      [("combinator", .str "and"), ("children", .list [.dict leaf.toEntries]), ("logic", .null)]
    let empty : Table Value := [("logic", .str " ")]
    let set : Table Value :=
      [("logic", .str " OR "), ("conditions", .list [.dict group.toEntries, .dict empty.toEntries])]
    (Value.dict set.toEntries).Plain ∧ (Value.dict set.toEntries).str? = none ∧
      Spells (.dict set.toEntries) (.group .any [.group .all
        [.compare "speed" "between" (.list [.int 1, .int 2])], .group .any []]) := by
  intro leaf group empty set
  have hleaf : (Value.dict leaf.toEntries).Plain := by
    refine .dict (by decide) ?_
    simp only [leaf, List.forall_mem_cons]
    exact ⟨.str _, .str _, .list (by simp [Value.Plain.int]), nofun⟩
  have hgroup : (Value.dict group.toEntries).Plain := by
    refine .dict (by decide) ?_
    simp only [group, List.forall_mem_cons]
    exact ⟨.str _, .list (List.forall_mem_singleton.mpr hleaf), .null, nofun⟩
  have hempty : (Value.dict empty.toEntries).Plain :=
    .dict (by decide) (List.forall_mem_singleton.mpr (.str " "))
  have hset : (Value.dict set.toEntries).Plain := by
    refine .dict (by decide) ?_
    simp only [set, List.forall_mem_cons]
    exact ⟨.str _, .list (by simp [hgroup, hempty]), nofun⟩
  have hdecode : decodeCondition (.dict set.toEntries) = .ok (.group .any [.group .all
      [.compare "speed" "between" (.list [.int 1, .int 2])], .group .any []]) := rfl
  exact ⟨hset, rfl, ((decodeCondition_grammar hset rfl).1 _).mp hdecode⟩

end DialPlan
