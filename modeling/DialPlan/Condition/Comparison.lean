import DialPlan.Condition.Coercion
import DialPlan.Pattern.Search

/-!
# Comparison

What each operator says about a present attribute value and the value of a rule.  Negative operators
are the complements of their positive ones: both sides are read first, and a fault on either side is
a fault of both operators.
-/

namespace DialPlan

/-- One text occurs inside another. -/
def occursIn (needle : List Char) : List Char → Bool
  | [] => needle.isEmpty
  | c :: cs => needle.isPrefixOf (c :: cs) || occursIn needle cs

/-- Two lists of texts with the same members. -/
def sameSet (a b : List String) : Bool :=
  a.all b.contains && b.all a.contains

/-- A pattern from the text of a rule. -/
def readPattern (source : String) : Except Fault Pattern :=
  match Pattern.read source with
  | .ok p => .ok p
  | .error e => .error (.badPattern e)

/-- A pattern from bytes. -/
def readBytesPattern (source : List UInt8) : Except Fault Pattern :=
  match Pattern.readBytes source with
  | .ok p => .ok p
  | .error e => .error (.badPattern e)

/-- Both sides are the same. -/
def isEqual (t : FieldType) (o : Operator) (actual expected : Value) : Except Fault Bool :=
  match t with
  | .set => do .ok (sameSet (← coerceSet actual) (← coerceSet expected))
  | t => do
    let read ← t.coercion o
    .ok ((← read actual).same (← read expected))

/-- The rule's text occurs in the attribute, whatever the case: inside a text, or as a member of a
set. -/
def containsText (t : FieldType) (actual expected : Value) : Except Fault Bool := do
  let needle := Text.lower (← coerceText expected)
  match t with
  | .set => do .ok ((← coerceSet actual).any fun item => Text.lower item == needle)
  | _ => do .ok (occursIn needle.toList (Text.lower (← coerceText actual)).toList)

/-- The attribute is one of the rule's values; a set attribute has one of them. -/
def isMember (t : FieldType) (o : Operator) (actual expected : Value) : Except Fault Bool := do
  let options ← asList expected
  match t with
  | .set => do
    let members ← coerceSet actual
    .ok ((← coerceTexts options).any members.contains)
  | t => do
    let read ← t.coercion o
    let a ← read actual
    .ok ((← coerceAll read options).any a.same)

/-- Both sides are in a given order. -/
def inOrder (test : Scalar → Scalar → Bool) (t : FieldType) (o : Operator)
    (actual expected : Value) : Except Fault Bool := do
  let read ← t.coercion o
  .ok (test (← read actual) (← read expected))

/-- The attribute lies between the rule's two values, ends included. -/
def isBetween (t : FieldType) (actual expected : Value) : Except Fault Bool := do
  match ← asList expected with
  | [low, high] => do
    let read ← t.coercion .between
    let low ← read low
    let high ← read high
    let a ← read actual
    .ok (low.le a && a.le high)
  | _ => .error .pairExpected

/-- **What an operator says** about a present attribute value and the value of a rule. -/
def compareValues (actual : Value) (o : Operator) (expected : Value) (t : FieldType) :
    Except Fault Bool :=
  match o with
  | .equals => isEqual t o actual expected
  | .notEquals => (!·) <$> isEqual t o actual expected
  | .contains => containsText t actual expected
  | .notContains => (!·) <$> containsText t actual expected
  | .startsWith => do
    let a := Text.lower (← coerceText actual)
    let e := Text.lower (← coerceText expected)
    .ok (e.toList.isPrefixOf a.toList)
  | .endsWith => do
    let a := Text.lower (← coerceText actual)
    let e := Text.lower (← coerceText expected)
    .ok (e.toList.isSuffixOf a.toList)
  | .regex => do
    let p ← readPattern (← coerceText expected)
    .ok (p.foundIn (← coerceText actual))
  | .greaterThan => inOrder (fun a e => e.lt a) t o actual expected
  | .greaterOrEqual => inOrder (fun a e => e.le a) t o actual expected
  | .lessThan => inOrder Scalar.lt t o actual expected
  | .lessOrEqual => inOrder Scalar.le t o actual expected
  | .between => isBetween t actual expected
  | .isIn => isMember t o actual expected
  | .notIn => (!·) <$> isMember t o actual expected
  | .isEmpty | .isNotEmpty | .exists_ | .notExists => .error (.notAComparison o.name)

end DialPlan
