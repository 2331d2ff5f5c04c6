import DialPlan.Condition.Basic
import DialPlan.Fault
import DialPlan.Node.Basic
import DialPlan.Rule.Basic
import DialPlan.Vocabulary

/-!
# Assembly

Making conditions, hops and targets from parts of any kind.  What a type cannot hold is a fault:
a combinator, selector or mode that is not one, and a group child that is no condition.

`Condition.allOf`, `Condition.anyOf` and `Condition.holds` are the short way to write trees down.
-/

namespace DialPlan

namespace Condition

/-- All of several conditions. -/
def allOf (children : List Condition) : Condition := group .all children

/-- One of several conditions. -/
def anyOf (children : List Condition) : Condition := group .any children

/-- A leaf with one of the operators of the library. -/
def holds (field : String) (o : Operator) (value : Value := .null) : Condition :=
  compare field o.name value

/-- A leaf on whether an attribute lies between two values. -/
def between (field : String) (low high : Value) : Condition :=
  holds field .between (.tuple [low, high])

/-- A leaf with a list operator; the values are the items of any collection. -/
def listed (field : String) (o : Operator) (values : Value) : Except Fault Condition := do
  .ok (holds field o (.tuple (← Node.itemsOf values)))

/-- The conditions that stand in several places. -/
def childrenOf : List (Slot Condition) → Except Fault (List Condition)
  | [] => .ok []
  | .holds c :: rest => do .ok (c :: (← childrenOf rest))
  | .foreign v :: _ => .error (.childNotCondition v.kindName)

/-- **A group** of whatever is given for its combinator and its children. -/
def assemble (combinator : Value) (children : List (Slot Condition)) : Except Fault Condition := do
  let c ← memberOf "Combinator" Combinator.ofName? combinator
  .ok (group c (← childrenOf children))

@[simp] theorem leaves_allOf (children : List Condition) :
    (allOf children).leaves = leavesOf children := by simp [allOf]

@[simp] theorem leaves_anyOf (children : List Condition) :
    (anyOf children).leaves = leavesOf children := by simp [anyOf]

end Condition

/-- The text of a reference; null is the empty one. -/
def referenceText : Value → Except Fault String
  | .null => .ok ""
  | v => v.asText

/-- **A hop** of whatever is given for its parts. -/
def Hop.assemble (selector reference : Value) (conditions : Option (Slot Condition))
    (mode groupType : Value) (urlTest : Option UrlTest) : Except Fault Hop := do
  let selector ← memberOf "SelectorType" Selector.ofName? selector
  let selectMode ← match mode with
    | .null => .ok none
    | v => some <$> memberOf "SelectMode" SelectMode.ofName? v
  let reference ← referenceText reference
  .ok { selector, reference, conditions, selectMode, groupType, urlTest }

/-- A hop that picks a node. -/
def Hop.picking (conditions : Option (Slot Condition)) (mode : Value) : Except Fault Hop :=
  assemble (.str Selector.dynamic.name) (.str "") conditions mode .null none

/-- A hop that generates a group. -/
def Hop.collecting (name : Value) (conditions : Option (Slot Condition)) (groupType : Value)
    (urlTest : Option UrlTest) : Except Fault Hop :=
  assemble (.str Selector.custom.name) name conditions .null groupType urlTest

/-- **A target** that names one node; null names none. -/
def Target.ofNode : Value → Except Fault Target
  | .null => .ok (.node none)
  | v => do .ok (.node (some (← v.asText)))

end DialPlan
