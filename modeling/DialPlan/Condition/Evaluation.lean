import DialPlan.Condition.Comparison
import DialPlan.Node.Basic

/-!
# Evaluation

Whether a node satisfies a condition under a vocabulary, with or without an explanation.

* A leaf that cannot be used (an unknown name, an operator that does not apply, a value that cannot
  be read) does not match and says why: it *degrades*.  Faults of other classes are not a leaf's to
  deal with and go through.
* Whoever tells of a leaf quotes its value.  A value that cannot be put into words is a fault there:
  in the reason why a comparison degrades, and in every explanation.
* A group looks at its children in order and stops at the first one that settles it.

The recursion is on the tree, with a companion for lists of children.
-/

namespace DialPlan

/-- **Why a leaf cannot be used.** -/
inductive Degradation
  | unknownField (name : String)
  | unknownOperator (name : String)
  | notApplicable (operator : String) (type : FieldType)
  | unsupported (operator : String)
  | unusable (predicate : Predicate) (fault : Fault)
  deriving DecidableEq

/-- The wording of a degradation. -/
def Degradation.message : Degradation → String
  | unknownField name => "unknown field '" ++ name ++ "'"
  | unknownOperator name => "unknown operator '" ++ name ++ "'"
  | notApplicable operator type =>
    "operator '" ++ operator ++ "' not applicable to " ++ type.name
  | unsupported operator => "unsupported operator '" ++ operator ++ "'"
  | unusable predicate fault => predicate.describe ++ ": " ++ fault.message

/-- **What a leaf says of a node**; a degraded leaf does not hold. -/
structure Verdict where
  holds : Bool
  degraded : Option Degradation := none
  deriving DecidableEq

/-- The verdict of a leaf that cannot be used. -/
def Verdict.degrade (d : Degradation) : Verdict := ⟨false, some d⟩

/-- Null and everything empty. -/
def Value.isEmptyValue : Value → Bool
  | .null => true
  | .str s => s.isEmpty
  | .list items | .tuple items | .set items => items.isEmpty
  | .dict entries => entries.isEmpty
  | _ => false

/-- **A leaf whose names are known**, on the attribute it reads; `none` when the attribute is absent
or null. -/
def judge (p : Predicate) (type : FieldType) (o : Operator) (actual : Option Value) :
    Except Fault Verdict :=
  match o with
  | .exists_ => .ok ⟨actual.isSome, none⟩
  | .notExists => .ok ⟨actual.isNone, none⟩
  | .isEmpty => .ok ⟨actual.all Value.isEmptyValue, none⟩
  | .isNotEmpty => .ok ⟨!actual.all Value.isEmptyValue, none⟩
  | o =>
    match actual with
    | none => .ok ⟨false, none⟩
    | some a =>
      match compareValues a o p.value type with
      | .ok b => .ok ⟨b, none⟩
      | .error f =>
        if f.degrades then do
          p.value.requirePrintable
          .ok (.degrade (.unusable p f))
        else .error f

/-- The field, type and operator that a leaf names, or why it cannot be used. -/
def Vocabulary.find (v : Vocabulary) (p : Predicate) : Except Degradation (FieldSpec × Operator) :=
  match v.fields.get? p.field with
  | none => .error (.unknownField p.field)
  | some field =>
    match v.operators.get? p.operator with
    | none => .error (.unknownOperator p.operator)
    | some o =>
      if o.appliesTo field.type then
        match Operator.ofName? o.name with
        | none => .error (.unsupported p.operator)
        | some operator => .ok (field, operator)
      else .error (.notApplicable p.operator field.type)

/-- **What a leaf says of a node.** -/
def Predicate.judge (v : Vocabulary) (p : Predicate) (n : NodeView) : Except Fault Verdict :=
  match v.find p with
  | .error d => .ok (.degrade d)
  | .ok (field, o) => DialPlan.judge p field.type o (n.present? field.attributeName)

namespace Condition

mutual

/-- **Whether a node satisfies a condition.** -/
def evaluate (v : Vocabulary) (n : NodeView) : Condition → Except Fault Bool
  | leaf p => do .ok (← p.judge v n).holds
  | group .all children => evaluateAll v n children
  | group .any children => evaluateAny v n children

/-- Whether a node satisfies all conditions, looking no further than the first it does not. -/
def evaluateAll (v : Vocabulary) (n : NodeView) : List Condition → Except Fault Bool
  | [] => .ok true
  | c :: cs => do if ← evaluate v n c then evaluateAll v n cs else .ok false

/-- Whether a node satisfies one condition, looking no further than the first it does. -/
def evaluateAny (v : Vocabulary) (n : NodeView) : List Condition → Except Fault Bool
  | [] => .ok false
  | c :: cs => do if ← evaluate v n c then .ok true else evaluateAny v n cs

end

end Condition

/-! ## Explanations -/

/-- **An evaluation with its reasons**: the outcome, a text, the fields of the leaves that were
looked at, and the leaves that degraded. -/
structure Explanation where
  value : Bool
  text : String
  fields : List String := []
  degraded : List Degradation := []
  deriving DecidableEq

namespace Explanation

/-- The explanation of a leaf. -/
def ofVerdict (p : Predicate) (r : Verdict) : Explanation :=
  match r.degraded with
  | some d =>
    ⟨r.holds, p.describe ++ ": DEGRADED (" ++ d.message ++ ")", [p.field], [d]⟩
  | none => ⟨r.holds, p.describe ++ ": " ++ (if r.holds then "PASSED" else "FAILED"), [p.field], []⟩

/-- The explanation of a group from those of the children that were looked at. -/
def ofGroup (c : Combinator) (value : Bool) (parts : List Explanation) : Explanation :=
  { value
    text := (match c with | .all => "AND(" | .any => "OR(") ++
      "; ".intercalate (parts.map (·.text)) ++ ")"
    fields := parts.flatMap (·.fields)
    degraded := parts.flatMap (·.degraded) }

/-- The explanation of the absence of a condition. -/
def unconditional : Explanation := ⟨true, "no condition (empty AND)", [], []⟩

end Explanation

namespace Condition

mutual

/-- **Evaluation with its reasons.** -/
def explain (v : Vocabulary) (n : NodeView) : Condition → Except Fault Explanation
  | leaf p => do
    let r ← p.judge v n
    p.value.requirePrintable
    .ok (.ofVerdict p r)
  | group .all children => do
    let (value, parts) ← explainAll v n children
    .ok (.ofGroup .all value parts)
  | group .any children => do
    let (value, parts) ← explainAny v n children
    .ok (.ofGroup .any value parts)

/-- The children of an *and* that are looked at. -/
def explainAll (v : Vocabulary) (n : NodeView) :
    List Condition → Except Fault (Bool × List Explanation)
  | [] => .ok (true, [])
  | c :: cs => do
    let part ← explain v n c
    if part.value then
      let (value, parts) ← explainAll v n cs
      .ok (value, part :: parts)
    else .ok (false, [part])

/-- The children of an *or* that are looked at. -/
def explainAny (v : Vocabulary) (n : NodeView) :
    List Condition → Except Fault (Bool × List Explanation)
  | [] => .ok (false, [])
  | c :: cs => do
    let part ← explain v n c
    if part.value then .ok (true, [part])
    else
      let (value, parts) ← explainAny v n cs
      .ok (value, part :: parts)

end

end Condition

/-! ## Places for conditions -/

/-- **Whether a node satisfies what stands in a place for a condition**; nothing there is an empty
*and*. -/
def satisfies (v : Vocabulary) (n : NodeView) : Option (Slot Condition) → Except Fault Bool
  | none => .ok true
  | some (.holds c) => c.evaluate v n
  | some (.foreign w) => .error (.notACondition w.kindName)

/-- The explanation of what stands in a place for a condition. -/
def explainPlace (v : Vocabulary) (n : NodeView) :
    Option (Slot Condition) → Except Fault Explanation
  | none => .ok .unconditional
  | some c => do (← c.part).explain v n

/-- **The fields that a place for a condition reads**, sorted. -/
def requiredFields : Option (Slot Condition) → Except Fault (List String)
  | none => .ok []
  | some c => do .ok ((← c.part).requiredFields.mergeSort (· ≤ ·))

end DialPlan
