import DialPlan.Rule.Basic
import DialPlan.Schema.Condition

/-!
# Reading hops and targets

A hop in data has `selectorType` and `reference`, or in the older spelling `type` with `nodeId` or
`groupName`; a target has `type`.  Identifiers may be texts or integers; the empty text and the
integer 0 mean "none".  An identifier is put into words only where it is used.
-/

namespace DialPlan

/-- The text of an identifier, unless it is unset. -/
def identifierText : Option Value → Checked (Option String)
  | none => .good none
  | some v =>
    if v = .str "" ∨ v = .int 0 then .good none else (Checked.ofWording v.asText "").map some

/-- The selectors of the older hop types. -/
def olderSelector? (s : String) : Option Selector :=
  if s = "specified_node" then some .node
  else if s = "template_group" then some .template
  else if s = "custom_group" then some .custom
  else if s = "dynamic_node" then some .dynamic
  else none

/-- **Speed test settings.** -/
def readUrlTest (entries : Entries) : Checked UrlTest :=
  UrlTest.mk
    <$> Schema.field entries "url" "url" (fun v => (Schema.text v).map .str) ({} : UrlTest).url
    <*> Schema.field entries "interval" "interval"
      (fun v => (Schema.integerAbove 0 v).map .int) ({} : UrlTest).interval
    <*> Schema.field entries "tolerance" "tolerance"
      (fun v => (Schema.integerFrom 0 v).map .int) ({} : UrlTest).tolerance

/-- **The parts of a hop object.** -/
structure HopParts where
  selector : Option String
  reference : Option Value
  conditions : Option Condition
  selectMode : Option String
  groupType : Option String
  urlTest : Option UrlTest
  type : Option String
  groupName : Option String
  nodeId : Option Value
  nodeConditions : Option Condition

/-- A text that is none when it is empty. -/
def readNonBlank (v : Value) : Checked (Option String) :=
  (Schema.text v).map fun s => if s.isEmpty then none else some s

/-- An optional text that is none when it is empty. -/
def optionalNonBlank (entries : Entries) (wire plain : String) : Checked (Option String) :=
  (Schema.optionalField entries wire plain readNonBlank).map Option.join

namespace HopParts

/-- The selector, in either spelling. -/
def readSelector (p : HopParts) : Checked Selector :=
  match p.selector with
  | some s =>
    match Selector.ofName? s with
    | some sel => .good sel
    | none => .fail (.rejected ("Unknown selectorType " ++ Text.quoted s))
  | none =>
    match p.type with
    | none => .fail (.rejected "Hop requires 'selectorType' (or legacy 'type')")
    | some t =>
      match olderSelector? t with
      | some sel => .good sel
      | none => .fail (.rejected ("Unknown hop type " ++ Text.quoted t))

/-- The mode of a dynamic hop. -/
def readMode (p : HopParts) : Checked (Option SelectMode) :=
  match p.selectMode with
  | none => .good none
  | some s =>
    match SelectMode.ofName? s with
    | some m => .good (some m)
    | none => .fail (.rejected ("Unknown selectMode " ++ Text.quoted s))

/-- What a hop refers to. -/
def referenceFor (p : HopParts) (selector : Selector) : Checked String :=
  if p.selector.isSome then (identifierText p.reference).map (·.getD "")
  else if selector = .node then (identifierText p.nodeId).map (·.getD "")
  else .good (p.groupName.getD "")

/-- **The hop of the parts.**  A dynamic hop without a mode takes the first candidate, a custom
group without a type is a select group. -/
def assemble (p : HopParts) : Checked Hop :=
  p.readSelector.andThen fun selector =>
    p.readMode.andThen fun mode =>
      if p.conditions.isSome && p.nodeConditions.isSome then
        .fail (.rejected "Use either 'conditions' or 'nodeConditions', not both")
      else
        (p.referenceFor selector).map fun reference =>
          { selector
            reference
            conditions := (p.conditions.or p.nodeConditions).map .holds
            selectMode := if selector = .dynamic then some (mode.getD .first) else mode
            groupType :=
              match p.groupType with
              | some t => .str t
              | none => if selector = .custom then .str "select" else .null
            urlTest := p.urlTest }

end HopParts

/-- The hop of an object. -/
def readHopEntries (entries : Entries) : Checked Hop :=
  let parts : Checked HopParts := HopParts.mk
    <$> Schema.optionalField entries "selectorType" "selector_type" Schema.text
    <*> Schema.optionalField entries "reference" "reference" Schema.identifier
    <*> Schema.optionalField entries "conditions" "conditions" readCondition
    <*> optionalNonBlank entries "selectMode" "select_mode"
    <*> optionalNonBlank entries "groupType" "group_type"
    <*> Schema.optionalField entries "urlTestConfig" "url_test" (Schema.model readUrlTest)
    <*> Schema.optionalField entries "type" "type" Schema.text
    <*> Schema.optionalField entries "groupName" "group_name" Schema.text
    <*> Schema.optionalField entries "nodeId" "node_id" Schema.identifier
    <*> Schema.optionalField entries "nodeConditions" "node_conditions" readCondition
  parts.andThen HopParts.assemble

/-- **Reading a hop.** -/
def readHop : Value → Checked Hop := Schema.model readHopEntries

/-- The types of targets. -/
inductive TargetType
  | all
  | node
  | conditions
  deriving DecidableEq, Repr

/-- The target type of a wire name. -/
def TargetType.ofName? (s : String) : Option TargetType :=
  if s = "all" then some .all
  else if s = "specified_node" then some .node
  else if s = "conditions" then some .conditions
  else none

/-- A target type; anything empty means all nodes. -/
def readTargetType (v : Value) : Checked TargetType :=
  if v.truthy then Schema.oneOf TargetType.ofName? v else .good .all

/-- **The parts of a target object.** -/
structure TargetParts where
  type : TargetType
  nodeId : Option Value
  conditions : Option Condition

/-- **The target of the parts.** -/
def TargetParts.assemble (p : TargetParts) : Checked Target :=
  match p.type with
  | .all => .good .all
  | .node => (identifierText p.nodeId).map .node
  | .conditions => .good (.conditions (p.conditions.map .holds))

/-- The target of an object. -/
def readTargetEntries (entries : Entries) : Checked Target :=
  let parts : Checked TargetParts := TargetParts.mk
    <$> Schema.field entries "type" "type" readTargetType .all
    <*> Schema.optionalField entries "nodeId" "node_id" Schema.identifier
    <*> Schema.optionalField entries "conditions" "conditions" readCondition
  parts.andThen TargetParts.assemble

/-- **Reading a target.** -/
def readTarget : Value → Checked Target := Schema.model readTargetEntries

end DialPlan
