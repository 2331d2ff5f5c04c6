import DialPlan.Condition.Basic
import DialPlan.Schema.Reading
import DialPlan.Text.Blank

/-!
# Reading conditions

A condition in data is an object.  A leaf has `field`, `operator` and `value`; a group has
`combinator` and `children`, or in the older spelling `logic` and `conditions`.  Null counts as
absent everywhere but in `value`.

Design decisions:

* An object is first taken apart (`ConditionParts`), field by field, with all issues; only an object
  without issues is judged as a whole (`ConditionParts.assemble`).
* The recursion follows the data: every value is read together with the readings of its items, so
  that the two child lists need no recursion of their own.
-/

namespace DialPlan

/-- **The parts of a condition object**, null and absent being the same. -/
structure ConditionParts where
  field : Option String
  operator : Option String
  value : Value
  combinator : Option Combinator
  children : Option (List Condition)
  logic : Option Combinator
  conditions : Option (List Condition)

/-- The older spelling of a combinator: trimmed, in any case, blank for *and*. -/
def readLogic (v : Value) : Checked Combinator :=
  (Schema.text v).andThen fun s =>
    let word := Text.lower (Text.trim s)
    let word := if word.isEmpty then "and" else word
    match Combinator.ofName? word with
    | some c => .good c
    | none => .fail (.rejected ("logic must be 'and' or 'or', got " ++ Text.quoted word))

namespace ConditionParts

/-- A group has at least one of the group fields. -/
def isGroup (p : ConditionParts) : Bool :=
  p.combinator.isSome || p.children.isSome || p.logic.isSome || p.conditions.isSome

/-- A leaf has at least one of the leaf fields. -/
def isLeaf (p : ConditionParts) : Bool :=
  p.field.isSome || p.operator.isSome

/-- The older spelling without a combinator. -/
def isOld (p : ConditionParts) : Bool :=
  p.combinator.isNone && (p.logic.isSome || p.conditions.isSome)

/-- **The group of the parts.**  An older group without children is an empty *or*. -/
def toGroup (p : ConditionParts) : Condition :=
  let children :=
    match p.children with
    | some (c :: cs) => c :: cs
    | _ => p.conditions.getD []
  if p.isOld && children.isEmpty then .group .any []
  else .group ((p.combinator.or p.logic).getD .all) children

/-- **The condition of the parts**: a group, or a leaf with both of its names, never both. -/
def assemble (p : ConditionParts) : Checked Condition :=
  if p.isGroup then
    if p.isLeaf then .fail (.rejected "Condition cannot be both a leaf and a group")
    else if p.children.isSome && p.conditions.isSome then
      .fail (.rejected "Use either 'children' or 'conditions', not both")
    else if p.combinator.isSome && p.logic.isSome && p.combinator != p.logic then
      .fail (.rejected "'combinator' and 'logic' disagree")
    else .good p.toGroup
  else
    match p.field, p.operator with
    | some f, some o =>
      if f.isEmpty || o.isEmpty then
        .fail (.rejected "Condition leaf requires 'field' and 'operator'")
      else .good (.leaf (.of f o p.value))
    | _, _ => .fail (.rejected "Condition leaf requires 'field' and 'operator'")

end ConditionParts

/-- What a value is when conditions are read: the readings of its items, if it is a list. -/
abbrev ItemReadings := Option (List (Checked Condition))

/-- The readings that belong to a key. -/
def readingsAt : List (Value × ItemReadings) → String → ItemReadings
  | [], _ => none
  | (k, r) :: rest, key => if k = .str key then r else readingsAt rest key

/-- A list of conditions under a key, from the readings of its items. -/
def childList (entries : Entries) (readings : List (Value × ItemReadings)) (key : String) :
    Checked (Option (List Condition)) :=
  match entries.get? key with
  | none | some .null => .good none
  | some _ =>
    match readingsAt readings key with
    | some items => ((Checked.indexed items).map some).under (.str key)
    | none => Checked.fail .notAList |>.under (.str key)

/-- The condition of an object, from its entries and the readings of their items. -/
def readObject (entries : Entries) (readings : List (Value × ItemReadings)) : Checked Condition :=
  let parts : Checked ConditionParts := ConditionParts.mk
    <$> Schema.optionalField entries "field" "field" Schema.text
    <*> Schema.optionalField entries "operator" "operator" Schema.text
    <*> Schema.field entries "value" "value" .good .null
    <*> Schema.optionalField entries "combinator" "combinator" (Schema.oneOf Combinator.ofName?)
    <*> childList entries readings "children"
    <*> Schema.optionalField entries "logic" "logic" readLogic
    <*> childList entries readings "conditions"
  parts.andThen ConditionParts.assemble

mutual

/-- **Reading a condition.** -/
def readCondition : Value → Checked Condition
  | .dict entries => readObject entries (readingsOfEntries entries)
  | _ => .fail .notAModel

/-- The readings of the items of every entry. -/
def readingsOfEntries : List (Value × Value) → List (Value × ItemReadings)
  | [] => []
  | (k, v) :: es => (k, itemReadings v) :: readingsOfEntries es

/-- The readings of the items of a list. -/
def itemReadings : Value → ItemReadings
  | .list items | .tuple items | .set items => some (readConditions items)
  | _ => none

/-- The readings of several values. -/
def readConditions : List Value → List (Checked Condition)
  | [] => []
  | v :: vs => readCondition v :: readConditions vs

end

theorem readConditions_eq_map (vs : List Value) : readConditions vs = vs.map readCondition := by
  induction vs with
  | nil => simp [readConditions]
  | cons v vs ih => simp [readConditions, ih]

theorem readingsAt_readingsOfEntries (entries : Entries) (key : String) :
    readingsAt (readingsOfEntries entries) key = (entries.get? key).bind itemReadings := by
  induction entries with
  | nil => simp [readingsOfEntries, readingsAt]
  | cons e es ih =>
    obtain ⟨k, v⟩ := e
    by_cases h : k = .str key <;> simp [readingsOfEntries, readingsAt, Entries.get?_cons, h, ih]

end DialPlan
