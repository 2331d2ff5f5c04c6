import DialPlan.Condition.Basic

/-!
# Rules

A rule sends the nodes that its target selects through a chain of hops.

Rules may come from anywhere, so nothing about a rule is checked when it is made.  Where a hop, a
condition or a target belongs there may stand any other value (`Slot.foreign`), and identifiers,
names and switches may be of any kind; the validator reports such rules and the decoders never
produce them.
-/

namespace DialPlan

/-- **A place for a part of a rule**: the part, or a value that is none. -/
inductive Slot (α : Type)
  | holds (part : α)
  | foreign (value : Value)
  deriving Inhabited

namespace Slot

variable {α β : Type}

/-- The part, if there is one. -/
def part? : Slot α → Option α
  | holds a => some a
  | foreign _ => none

/-- The part, or the fault of using a value as one. -/
def part (s : Slot α) : Except Fault α :=
  match s with
  | holds a => .ok a
  | foreign _ => .error .notARulePart

@[simp] theorem part?_holds (a : α) : (holds a).part? = some a := rfl

@[simp] theorem part_holds (a : α) : (holds a).part = .ok a := rfl

end Slot

/-- **How a hop names its proxy.** -/
inductive Selector
  | node
  | group
  | template
  | dynamic
  | custom
  deriving DecidableEq, Repr, Inhabited

namespace Selector

/-- The wire name of a selector. -/
def name : Selector → String
  | node => "node"
  | group => "group"
  | template => "template_group"
  | dynamic => "dynamic_node"
  | custom => "custom_group"

/-- All selectors. -/
def all : List Selector := [node, group, template, dynamic, custom]

/-- The selector of a wire name. -/
def ofName? (s : String) : Option Selector :=
  all.find? (·.name = s)

@[simp] theorem ofName?_name (s : Selector) : ofName? s.name = some s := by
  cases s <;> rfl

end Selector

/-- **How a dynamic hop picks among its candidates.** -/
inductive SelectMode
  | first
  | fastest
  | random
  deriving DecidableEq, Repr, Inhabited

namespace SelectMode

/-- The wire name of a mode. -/
def name : SelectMode → String
  | first => "first"
  | fastest => "fastest"
  | random => "random"

/-- The mode of a wire name. -/
def ofName? (s : String) : Option SelectMode :=
  [first, fastest, random].find? (·.name = s)

@[simp] theorem ofName?_name (m : SelectMode) : ofName? m.name = some m := by
  cases m <;> rfl

end SelectMode

/-- **Settings of the speed test** of a generated group. -/
structure UrlTest where
  url : Value := .str "https://www.gstatic.com/generate_204"
  interval : Value := .int 300
  tolerance : Value := .int 50
  deriving DecidableEq, Inhabited

/-- The wire form of speed test settings. -/
def UrlTest.entries (u : UrlTest) : Entries :=
  [(.str "url", u.url), (.str "interval", u.interval), (.str "tolerance", u.tolerance)]

/-- **One hop of a chain.**  Hop 0 is the outermost proxy; the ruled node itself comes after the
last hop. -/
structure Hop where
  selector : Selector
  /-- Node id, group name or template name; the name of a generated group; unused when dynamic. -/
  reference : String := ""
  /-- What members and candidates have to satisfy. -/
  conditions : Option (Slot Condition) := none
  selectMode : Option SelectMode := none
  /-- The type of a generated group, null when not given. -/
  groupType : Value := .null
  urlTest : Option UrlTest := none
  deriving Inhabited

namespace Hop

/-- A hop that names a node. -/
def ofNode (id : String) : Hop := { selector := .node, reference := id }

/-- A hop that names a group. -/
def ofGroup (name : String) : Hop := { selector := .group, reference := name }

/-- A hop that names a template. -/
def ofTemplate (name : String) : Hop := { selector := .template, reference := name }

/-- The text of a hop in messages. -/
def describe (h : Hop) : String :=
  match h.selector with
  | .dynamic => "dynamic_node[" ++ (h.selectMode.getD .first).name ++ "]"
  | s => s.name ++ ":" ++ h.reference

end Hop

/-- **Which nodes a rule applies to.** -/
inductive Target
  | all
  | node (id : Option String)
  | conditions (root : Option (Slot Condition))
  deriving Inhabited

/-- **A rule.** -/
structure Rule where
  id : Value
  subscription : String
  name : Value := .str ""
  enabled : Value := .bool true
  position : Int := 0
  chain : List (Slot Hop) := []
  target : Slot Target := .holds (.node none)
  created : DateTime
  updated : DateTime
  deriving Inhabited

namespace Rule

/-- Whether a rule takes part in evaluation. -/
def isEnabled (r : Rule) : Bool := r.enabled.truthy

end Rule

/-! ## Wire forms -/

/-- The wire form of a place for a condition. -/
def Slot.conditionValue (s : Slot Condition) : Except Fault Value := do
  (← s.part).toValue

namespace Hop

/-- **The wire form of a hop**: only what is given. -/
def toValue (h : Hop) : Except Fault Value := do
  let conditions ← match h.conditions with
    | some c => do .ok [(Value.str "conditions", ← c.conditionValue)]
    | none => .ok []
  let mode := match h.selectMode with
    | some m => [(Value.str "selectMode", Value.str m.name)]
    | none => []
  let groupType := match h.groupType with
    | .null => []
    | t => [(Value.str "groupType", t)]
  let urlTest := match h.urlTest with
    | some u => [(Value.str "urlTestConfig", Value.dict u.entries)]
    | none => []
  .ok (.dict ([(.str "selectorType", .str h.selector.name), (.str "reference", .str h.reference)]
    ++ conditions ++ mode ++ groupType ++ urlTest))

end Hop

namespace Target

/-- **The wire form of a target.** -/
def toValue : Target → Except Fault Value
  | all => .ok (.dict [(.str "type", .str "all")])
  | node id =>
    .ok (.dict [(.str "type", .str "specified_node"),
      (.str "nodeId", match id with | some s => .str s | none => .null)])
  | conditions root => do
    let root ← match root with
      | some c => c.conditionValue
      | none => .ok .null
    .ok (.dict [(.str "type", .str "conditions"), (.str "conditions", root)])

end Target

end DialPlan
