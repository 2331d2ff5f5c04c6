import DialPlan.Rule.Basic
import DialPlan.Table

/-!
# Vocabularies

The fields, operators, group types and templates that rules may name.  A vocabulary is a value that
evaluation and validation are given; `Vocabulary.standard` is the stock one.
-/

namespace DialPlan

/-- **The declared type of a field**; it decides how values are read for a comparison. -/
inductive FieldType
  | string
  | number
  | duration
  | set
  | enum
  deriving DecidableEq, Repr, Inhabited

namespace FieldType

/-- The wire name of a field type. -/
def name : FieldType → String
  | string => "string"
  | number => "number"
  | duration => "duration"
  | set => "set"
  | enum => "enum"

/-- All field types. -/
def all : List FieldType := [string, number, duration, set, enum]

/-- The field type of a wire name. -/
def ofName? (s : String) : Option FieldType :=
  all.find? (·.name = s)

@[simp] theorem ofName?_name (t : FieldType) : ofName? t.name = some t := by
  cases t <;> rfl

end FieldType

/-- **The operators that can be evaluated.** -/
inductive Operator
  | equals
  | notEquals
  | contains
  | notContains
  | startsWith
  | endsWith
  | regex
  | greaterThan
  | greaterOrEqual
  | lessThan
  | lessOrEqual
  | between
  | isIn
  | notIn
  | isEmpty
  | isNotEmpty
  | exists_
  | notExists
  deriving DecidableEq, Repr, Inhabited

namespace Operator

/-- The wire name of an operator. -/
def name : Operator → String
  | equals => "equals"
  | notEquals => "not_equals"
  | contains => "contains"
  | notContains => "not_contains"
  | startsWith => "starts_with"
  | endsWith => "ends_with"
  | regex => "regex"
  | greaterThan => "greater_than"
  | greaterOrEqual => "greater_or_equal"
  | lessThan => "less_than"
  | lessOrEqual => "less_or_equal"
  | between => "between"
  | isIn => "in"
  | notIn => "not_in"
  | isEmpty => "is_empty"
  | isNotEmpty => "is_not_empty"
  | exists_ => "exists"
  | notExists => "not_exists"

/-- All operators, in the order in which they are offered. -/
def all : List Operator :=
  [equals, notEquals, contains, notContains, startsWith, endsWith, regex, greaterThan,
    greaterOrEqual, lessThan, lessOrEqual, between, isIn, notIn, isEmpty, isNotEmpty, exists_,
    notExists]

/-- The operator of a wire name. -/
def ofName? (s : String) : Option Operator :=
  all.find? (·.name = s)

@[simp] theorem ofName?_name (o : Operator) : ofName? o.name = some o := by
  cases o <;> rfl

end Operator

/-- **The number of values** that an operator takes. -/
inductive Arity
  | none
  | scalar
  | list
  | pair
  deriving DecidableEq, Repr, Inhabited

namespace Arity

/-- The wire name of an arity. -/
def name : Arity → String
  | none => "none"
  | scalar => "scalar"
  | list => "list"
  | pair => "pair"

/-- The arity of a wire name. -/
def ofName? (s : String) : Option Arity :=
  [Arity.none, scalar, list, pair].find? (·.name = s)

end Arity

/-- **A field that conditions may name.** -/
structure FieldSpec where
  name : String
  type : FieldType
  label : String := ""
  /-- The node attribute to read, when it is not the one of the field's name. -/
  reads : Option String := none
  /-- The values of an enumeration. -/
  choices : List String := []
  deriving DecidableEq, Repr, Inhabited

/-- The node attribute that a field reads. -/
def FieldSpec.attributeName (f : FieldSpec) : String :=
  match f.reads with
  | some a => if a.isEmpty then f.name else a
  | none => f.name

/-- **An operator that conditions may name**, with the field types it applies to. -/
structure OperatorSpec where
  name : String
  fieldTypes : List FieldType
  arity : Arity := .scalar
  label : String := ""
  deriving DecidableEq, Repr, Inhabited

/-- Whether an operator applies to fields of a type. -/
def OperatorSpec.appliesTo (o : OperatorSpec) (t : FieldType) : Bool :=
  o.fieldTypes.contains t

/-- **A vocabulary.** -/
structure Vocabulary where
  fields : Table FieldSpec := []
  operators : Table OperatorSpec := []
  groupTypes : List String := ["select", "url-test"]
  templates : Table (Slot Hop) := []
  deriving Inhabited

namespace Vocabulary

/-- The vocabulary with more templates, later definitions winning. -/
def withTemplates (v : Vocabulary) (more : Table (Slot Hop)) : Vocabulary :=
  { v with templates := Table.merge v.templates more }

/-- The label of something named, falling back on the name. -/
def labelOr (label name : String) : Value :=
  .str (if label.isEmpty then name else label)

/-- **The option lists** that a rule editor offers. -/
def options (v : Vocabulary) : Value :=
  let fieldOption (f : FieldSpec) : Value :=
    .dict [(.str "value", .str f.name), (.str "label", labelOr f.label f.name),
      (.str "type", .str f.type.name)]
  let operatorOption (o : OperatorSpec) : Value :=
    .dict [(.str "value", .str o.name), (.str "label", labelOr o.label o.name)]
  let groupOption (g : String) : Value := .dict [(.str "value", .str g), (.str "label", .str g)]
  .dict [
    (.str "conditionFields", .list (v.fields.values.map fieldOption)),
    (.str "operators", .list (v.operators.values.map operatorOption)),
    (.str "groupTypes", .list (v.groupTypes.map groupOption)),
    (.str "templateGroups", .list ((v.templates.keys.mergeSort (· ≤ ·)).map .str))]

/-! ## The stock vocabulary -/

/-- The results of a status test. -/
def statusChoices : List String := ["untested", "success", "timeout", "error"]

/-- Texts and enumerations. -/
def textTypes : List FieldType := [.string, .enum]

/-- The types whose values have an order. -/
def orderedTypes : List FieldType := [.number, .duration]

/-- The field types that a stock operator applies to. -/
def stockTypes : Operator → List FieldType
  | .contains | .notContains => [.string, .enum, .set]
  | .startsWith | .endsWith | .regex => textTypes
  | .greaterThan | .greaterOrEqual | .lessThan | .lessOrEqual | .between => orderedTypes
  | _ => FieldType.all

/-- The arity of a stock operator. -/
def stockArity : Operator → Arity
  | .between => .pair
  | .isIn | .notIn => .list
  | .isEmpty | .isNotEmpty | .exists_ | .notExists => .none
  | _ => .scalar

/-- The label of a stock operator. -/
def stockLabel : Operator → String
  | .equals => "等于"
  | .notEquals => "不等于"
  | .contains => "包含"
  | .notContains => "不包含"
  | .startsWith => "开头是"
  | .endsWith => "结尾是"
  | .regex => "正则匹配"
  | .greaterThan => "大于"
  | .greaterOrEqual => "大于等于"
  | .lessThan => "小于"
  | .lessOrEqual => "小于等于"
  | .between => "介于"
  | .isIn => "属于"
  | .notIn => "不属于"
  | .isEmpty => "为空"
  | .isNotEmpty => "不为空"
  | .exists_ => "存在"
  | .notExists => "不存在"

/-- A stock operator. -/
def stockOperator (o : Operator) : OperatorSpec :=
  ⟨o.name, stockTypes o, stockArity o, stockLabel o⟩

/-- **The stock operators.** -/
def stockOperators : Table OperatorSpec :=
  Operator.all.map fun o => (o.name, stockOperator o)

/-- The stock fields, without their names as keys. -/
def stockFieldList : List FieldSpec := [
  ⟨"id", .string, "节点ID", none, []⟩,
  ⟨"name", .string, "节点名称", none, []⟩,
  ⟨"link_name", .string, "原始名称", none, []⟩,
  ⟨"link_country", .string, "国家/地区", none, []⟩,
  ⟨"protocol", .string, "协议类型", none, []⟩,
  ⟨"group", .string, "分组", none, []⟩,
  ⟨"source", .string, "来源", none, []⟩,
  ⟨"speed", .number, "速度 (MB/s)", none, []⟩,
  ⟨"delay_time", .duration, "延迟 (ms)", none, []⟩,
  ⟨"speed_status", .enum, "测速状态", none, statusChoices⟩,
  ⟨"delay_status", .enum, "延迟状态", none, statusChoices⟩,
  ⟨"tags", .set, "标签", none, []⟩,
  ⟨"link_address", .string, "地址", none, []⟩,
  ⟨"link_host", .string, "主机名", none, []⟩,
  ⟨"link_port", .number, "端口", none, []⟩,
  ⟨"dialer_proxy_name", .string, "前置代理", none, []⟩]

/-- **The stock fields.** -/
def stockFields : Table FieldSpec :=
  stockFieldList.map fun f => (f.name, f)

/-- **The stock vocabulary**, with the given templates. -/
def standard (templates : Table (Slot Hop) := []) : Vocabulary where
  fields := stockFields
  operators := stockOperators
  templates := templates

end Vocabulary

end DialPlan
