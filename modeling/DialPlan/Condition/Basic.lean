import DialPlan.Value.Order

/-!
# Conditions

A condition is a tree: its leaves compare one node attribute with a value, its inner nodes join
their children with *and* or with *or*.  An empty *and* holds and an empty *or* does not.

Field and operator of a leaf are plain names.  A name that a vocabulary does not have leaves the
tree as it is; such a leaf never matches.
-/

namespace DialPlan

/-- **How a group joins its children.** -/
inductive Combinator
  | all
  | any
  deriving DecidableEq, Repr, Inhabited

namespace Combinator

/-- The wire name of a combinator. -/
def name : Combinator → String
  | all => "and"
  | any => "or"

/-- The combinator of a wire name. -/
def ofName? (s : String) : Option Combinator :=
  if s = "and" then some all else if s = "or" then some any else none

@[simp] theorem ofName?_name (c : Combinator) : ofName? c.name = some c := by
  cases c <;> rfl

end Combinator

/-- **A leaf**: one attribute, one operator, one value. -/
structure Predicate where
  field : String
  operator : String
  value : Value
  deriving DecidableEq, Inhabited

namespace Predicate

/-- A leaf over a written value; a list counts as a tuple. -/
def of (field operator : String) (value : Value) : Predicate :=
  ⟨field, operator, match value with | .list items => .tuple items | v => v⟩

/-- The text of a leaf in messages, where its value can be put into words. -/
def describe (p : Predicate) : String :=
  p.field ++ " " ++ p.operator ++ " " ++ p.value.shown

end Predicate

/-- **A condition tree.** -/
inductive Condition
  | leaf (predicate : Predicate)
  | group (combinator : Combinator) (children : List Condition)
  deriving Inhabited

namespace Condition

/-- A leaf, from its parts. -/
def compare (field operator : String) (value : Value) : Condition :=
  leaf (.of field operator value)

/-- Whether a tree is a single leaf. -/
def isLeaf : Condition → Bool
  | leaf _ => true
  | group .. => false

mutual

/-- **The leaves**, depth first in declared order. -/
def leaves : Condition → List Predicate
  | leaf p => [p]
  | group _ children => leavesOf children

/-- The leaves of several trees. -/
def leavesOf : List Condition → List Predicate
  | [] => []
  | c :: cs => leaves c ++ leavesOf cs

end

mutual

/-- **The depth of a tree**; a leaf and an empty group have depth 1. -/
def depth : Condition → Nat
  | leaf _ => 1
  | group _ children => 1 + depthOf children

/-- The depth of the deepest of several trees. -/
def depthOf : List Condition → Nat
  | [] => 0
  | c :: cs => max (depth c) (depthOf cs)

end

mutual

/-- **The text of a tree** in messages. -/
def describe : Condition → Except Fault String
  | leaf p => do
    p.value.requirePrintable
    .ok p.describe
  | group c children => do
    let parts ← describeAll children
    .ok ("(" ++ (match c with | .all => " AND " | .any => " OR ").intercalate parts ++ ")")

/-- The texts of several trees. -/
def describeAll : List Condition → Except Fault (List String)
  | [] => .ok []
  | c :: cs => do .ok ((← describe c) :: (← describeAll cs))

end

/-- The fields that a tree reads, each once, in order of first use. -/
def requiredFields (c : Condition) : List String :=
  (c.leaves.map (·.field)).eraseDups

@[simp] theorem leaves_leaf (p : Predicate) : (leaf p).leaves = [p] := by simp [leaves]

@[simp] theorem leaves_group (c : Combinator) (children : List Condition) :
    (group c children).leaves = leavesOf children := by simp [leaves]

@[simp] theorem leavesOf_nil : leavesOf [] = [] := by simp [leavesOf]

@[simp] theorem leavesOf_cons (c : Condition) (cs : List Condition) :
    leavesOf (c :: cs) = c.leaves ++ leavesOf cs := by simp [leavesOf]

theorem leavesOf_eq_flatMap (cs : List Condition) : leavesOf cs = cs.flatMap leaves := by
  induction cs with
  | nil => simp
  | cons c cs ih => rw [leavesOf_cons, ih, List.flatMap_cons]

end Condition

/-! ## Wire form -/

mutual

/-- **The wire form of a leaf value**: tuples and sets become lists, sets sorted. -/
def Value.wire : Value → Except Fault Value
  | .list items | .tuple items => do .ok (.list (← wireItems items))
  | .set items => do
    let items ← wireItems items
    .ok (.list (← Value.sorted items))
  | v => .ok v

/-- The wire form of several values. -/
def Value.wireItems : List Value → Except Fault (List Value)
  | [] => .ok []
  | v :: vs => do .ok ((← v.wire) :: (← wireItems vs))

end

/-- The wire form of a leaf. -/
def Predicate.toValue (p : Predicate) : Except Fault Value := do
  .ok (.dict [(.str "field", .str p.field), (.str "operator", .str p.operator),
    (.str "value", ← p.value.wire)])

mutual

/-- **The wire form of a tree.** -/
def Condition.toValue : Condition → Except Fault Value
  | .leaf p => p.toValue
  | .group c children => do
    .ok (.dict [(.str "combinator", .str c.name),
      (.str "children", .list (← toValues children))])

/-- The wire forms of several trees. -/
def Condition.toValues : List Condition → Except Fault (List Value)
  | [] => .ok []
  | c :: cs => do .ok ((← c.toValue) :: (← toValues cs))

end

end DialPlan
