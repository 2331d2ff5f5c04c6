import DialPlan.Condition.Comparison
import DialPlan.Failure
import DialPlan.Rule.Basic

/-!
# Validation

What is wrong with a rule, judged by a vocabulary, before the rule is kept.  All problems are
collected.  An evaluation degrades the leaves that are reported here.
-/

namespace DialPlan

/-- The deepest condition tree that is accepted. -/
def maxConditionDepth : Nat := 16

/-- **What is wrong with a leaf.** -/
inductive LeafProblem
  | unknownField (name : String)
  | unknownOperator (name : String)
  | notApplicable (operator : String) (type : FieldType) (field : String)
  | notOrderable (operator field : String)
  | listExpected (field operator : String)
  | pairExpected (field operator : String)
  | valueExpected (field operator : String)
  | badRegex (field : String) (fault : Fault)
  | notScalar (field : String)
  | badValue (item : Value) (type : FieldType) (field : String) (fault : Fault)
  | notAChoice (item : Value) (choices : List String) (field : String)
  deriving DecidableEq

/-- The wording of a leaf problem. -/
def LeafProblem.message : LeafProblem → String
  | unknownField name => "unknown field '" ++ name ++ "'"
  | unknownOperator name => "unknown operator '" ++ name ++ "'"
  | notApplicable operator type field =>
    "operator '" ++ operator ++ "' does not apply to " ++ type.name ++ " field '" ++ field ++ "'"
  | notOrderable operator field =>
    "operator '" ++ operator ++ "' cannot order set field '" ++ field ++ "'"
  | listExpected field operator => "'" ++ field ++ " " ++ operator ++ "' expects a non-empty list"
  | pairExpected field operator => "'" ++ field ++ " " ++ operator ++ "' expects [low, high]"
  | valueExpected field operator => "'" ++ field ++ " " ++ operator ++ "' requires a value"
  | badRegex field fault => "invalid regex for '" ++ field ++ "': " ++ fault.message
  | notScalar field => "'" ++ field ++ "' set value has non-scalar members"
  | badValue item type field fault =>
    "value " ++ item.shown ++ " is not a valid " ++ type.name ++ " for '" ++ field ++ "': " ++
      fault.message
  | notAChoice item choices field =>
    "value " ++ item.shown ++ " is not one of " ++ (Value.list (choices.map .str)).shown ++
      " for '" ++ field ++ "'"

/-- **What is wrong with a rule.** -/
inductive Problem
  | noSubscription
  | switchNotBoolean
  | notAHop
  | noReference (selector : Selector)
  | noConditions (selector : Selector)
  | noGroupName
  | unknownGroupType (type : Value)
  | badInterval
  | badTolerance
  | unknownTarget (kind : String)
  | tooDeep
  | leaf (problem : LeafProblem)
  | inHop (index : Nat) (problem : Problem)
  deriving DecidableEq

/-- The wording of a problem. -/
def Problem.message : Problem → String
  | noSubscription => "subscription_id is required"
  | switchNotBoolean => "enabled must be a boolean"
  | notAHop => "not a chain hop"
  | noReference selector => selector.name ++ " hop requires a reference"
  | noConditions selector => selector.name ++ " hop requires conditions"
  | noGroupName => "custom_group hop requires a group name"
  | unknownGroupType type => "unknown group type '" ++ type.text ++ "'"
  | badInterval => "url test interval must be positive"
  | badTolerance => "url test tolerance must not be negative"
  | unknownTarget kind => "unknown target variant " ++ kind
  | tooDeep => "condition tree deeper than " ++ toString maxConditionDepth
  | leaf problem => problem.message
  | inHop index problem => "chain[" ++ toString index ++ "]: " ++ problem.message

/-! ## Leaves -/

/-- The operators that need an order. -/
def orderedOperators : List String :=
  [Operator.greaterThan, .greaterOrEqual, .lessThan, .lessOrEqual, .between].map (·.name)

/-- How the values of a field type are read when they are checked. -/
def FieldType.check : FieldType → Value → Except Fault Unit
  | .number, v => do let _ ← coerceNumber v
  | .duration, v => do let _ ← parseDuration v
  | _, v => do let _ ← coerceText v

/-- A member that a set may have. -/
def isSetMember : Value → Bool
  | .str _ | .int _ | .float _ | .bool _ => true
  | _ => false

/-- What is wrong with one value of a leaf.  Faults that are not the value's own go through, and so
does the fault of a value that the problem cannot quote. -/
def checkItem (field : FieldSpec) (p : Predicate) (item : Value) :
    Except Fault (Option LeafProblem) :=
  match field.type, item.collection? with
  | .set, some members =>
    .ok (if members.all isSetMember then none else some (.notScalar p.field))
  | _, _ =>
    match field.type.check item with
    | .ok () =>
      match field.type with
      | .enum => do
        let s ← coerceText item
        if field.choices.isEmpty || field.choices.contains s then .ok none
        else .ok (some (.notAChoice item field.choices p.field))
      | _ => .ok none
    | .error f =>
      match f.kind with
      | .type | .value => do
        item.requirePrintable
        .ok (some (.badValue item field.type p.field f))
      | _ => .error f

/-- The first problem among the values of a leaf. -/
def checkItems (field : FieldSpec) (p : Predicate) : List Value → Except Fault (Option LeafProblem)
  | [] => .ok none
  | v :: vs => do
    match ← checkItem field p v with
    | some problem => .ok (some problem)
    | none => checkItems field p vs

/-- The values of a leaf that its arity asks for, or what is wrong with their number. -/
def leafItems (arity : Arity) (p : Predicate) : Except LeafProblem (List Value) :=
  match arity with
  | .none => .ok []
  | .list =>
    match p.value.collection? with
    | some (v :: vs) => .ok (v :: vs)
    | _ => .error (.listExpected p.field p.operator)
  | .pair =>
    match p.value.sequence? with
    | some [low, high] => .ok [low, high]
    | _ => .error (.pairExpected p.field p.operator)
  | .scalar =>
    match p.value with
    | .null => .error (.valueExpected p.field p.operator)
    | v => .ok [v]

/-- What is wrong with the pattern of a leaf. -/
def checkPattern (p : Predicate) : Except Fault (Option LeafProblem) :=
  match coerceText p.value >>= readPattern with
  | .ok _ => .ok none
  | .error f =>
    match f.kind with
    | .type | .pattern => .ok (some (.badRegex p.field f))
    | _ => .error f

/-- **What is wrong with a leaf.** -/
def Vocabulary.checkLeaf (v : Vocabulary) (p : Predicate) : Except Fault (Option LeafProblem) :=
  match v.fields.get? p.field with
  | none => .ok (some (.unknownField p.field))
  | some field =>
    match v.operators.get? p.operator with
    | none => .ok (some (.unknownOperator p.operator))
    | some o =>
      if !o.appliesTo field.type then
        .ok (some (.notApplicable p.operator field.type field.name))
      else if field.type = .set && orderedOperators.contains p.operator then
        .ok (some (.notOrderable p.operator field.name))
      else if o.arity = .none then .ok none
      else
        match leafItems o.arity p with
        | .error problem => .ok (some problem)
        | .ok items =>
          if p.operator = Operator.regex.name then checkPattern p else checkItems field p items

/-- What is wrong with several leaves. -/
def Vocabulary.checkLeaves (v : Vocabulary) : List Predicate → Except Fault (List Problem)
  | [] => .ok []
  | p :: ps => do
    let problem ← v.checkLeaf p
    let rest ← v.checkLeaves ps
    .ok (match problem with | some q => .leaf q :: rest | none => rest)

/-! ## Conditions, hops and targets -/

/-- **What is wrong with a condition.** -/
def Vocabulary.checkCondition (v : Vocabulary) (c : Condition) : Except Fault (List Problem) :=
  if maxConditionDepth < c.depth then .ok [.tooDeep] else v.checkLeaves c.leaves

/-- What is wrong with what stands in the place of a condition. -/
def Vocabulary.checkPlace (v : Vocabulary) (c : Slot Condition) : Except Fault (List Problem) := do
  v.checkCondition (← c.part)

/-- Whether a number is below zero, or not above it when `strict` is off. -/
def isBelowZero (strict : Bool) (n : Value) : Except Fault Bool :=
  match n.quantity? with
  | some q => .ok (q.lt (.exact 0 1) || (!strict && q.same (.exact 0 1)))
  | none => .error (.notOrdered (if strict then "<" else "<=") n.fullKindName "int")

/-- What is wrong with speed test settings. -/
def checkUrlTest (u : UrlTest) : Except Fault (List Problem) := do
  let interval ← isBelowZero false u.interval
  let tolerance ← isBelowZero true u.tolerance
  .ok ((if interval then [.badInterval] else []) ++ if tolerance then [.badTolerance] else [])

/-- The type of the group that a hop generates. -/
def Hop.generatedType (h : Hop) : Value :=
  if h.groupType.truthy then h.groupType else .str "select"

/-- **What is wrong with a hop.** -/
def Vocabulary.checkHop (v : Vocabulary) (h : Hop) : Except Fault (List Problem) :=
  match h.selector with
  | .node | .group | .template =>
    .ok (if h.reference.isEmpty then [.noReference h.selector] else [])
  | .dynamic => checkConditions h
  | .custom => do
    let conditions ← checkConditions h
    let type := h.generatedType
    let known := v.groupTypes.any fun t => Value.same (.str t) type
    if !known then type.requirePrintable
    let urlTest ← match h.urlTest with
      | some u => checkUrlTest u
      | none => .ok []
    .ok (conditions ++ (if h.reference.isEmpty then [.noGroupName] else [])
      ++ (if known then [] else [.unknownGroupType type]) ++ urlTest)
where
  /-- A hop that collects nodes has to say which. -/
  checkConditions (h : Hop) : Except Fault (List Problem) :=
    match h.conditions with
    | none => .ok [.noConditions h.selector]
    | some c => v.checkPlace c

/-- What is wrong with the hops of a chain from a position on. -/
def Vocabulary.checkChainFrom (v : Vocabulary) :
    Nat → List (Slot Hop) → Except Fault (List Problem)
  | _, [] => .ok []
  | i, h :: hs => do
    let problems ← match h with
      | .holds h => v.checkHop h
      | .foreign _ => .ok [.notAHop]
    .ok (problems.map (.inHop i) ++ (← v.checkChainFrom (i + 1) hs))

/-- **What is wrong with a chain.** -/
def Vocabulary.checkChain (v : Vocabulary) (chain : List (Slot Hop)) :
    Except Fault (List Problem) :=
  v.checkChainFrom 0 chain

/-- **What is wrong with a target.** -/
def Vocabulary.checkTarget (v : Vocabulary) : Slot Target → Except Fault (List Problem)
  | .holds (.conditions (some c)) => v.checkPlace c
  | .holds _ => .ok []
  | .foreign w => .ok [.unknownTarget w.kindName]

/-! ## Rules -/

/-- **What is wrong with a rule.** -/
def Vocabulary.checkRule (v : Vocabulary) (r : Rule) : Except Fault (List Problem) := do
  let subscription := if r.subscription.isEmpty then [.noSubscription] else []
  let switch := match r.enabled with | .bool _ => [] | _ => [Problem.switchNotBoolean]
  let chain ← v.checkChain r.chain
  let target ← v.checkTarget r.target
  .ok (subscription ++ switch ++ chain ++ target)

/-- **Whether a rule is accepted.** -/
def Vocabulary.Accepts (v : Vocabulary) (r : Rule) : Prop := v.checkRule r = .ok []

/-- The messages of the problems of a rule. -/
def Vocabulary.ruleErrors (v : Vocabulary) (r : Rule) : Except Fault (List String) :=
  (v.checkRule r).map fun problems => problems.map (·.message)

/-- **Refuse a rule that is not accepted.** -/
def Vocabulary.require (v : Vocabulary) (r : Rule) : Outcome Unit := do
  let errors ← Outcome.ofFault (v.ruleErrors r)
  if errors.isEmpty then .ok ()
  else do
    Outcome.ofFault (if r.name.truthy then r.name else r.id).requirePrintable
    Outcome.refuse (.invalidRule r.id r.name r.subscription errors)

end DialPlan
