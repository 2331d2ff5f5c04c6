import DialPlan.Value.Shown

/-!
# Issues

What is wrong with data that does not have the shape it should have.  An issue names the place, from
the outermost key or index inwards, and what is wrong there; checking collects all issues of a
value.
-/

namespace DialPlan

/-- **What is wrong at a place.** -/
inductive IssueKind
  | missing
  | extraForbidden
  | invalidKey
  | notAModel
  | notAString
  | notUnicode
  | notAList
  | notADict
  | notAnInteger
  | fractional
  | unreadableInteger
  | integerTooLarge
  | notFinite
  | notABoolean
  | unreadableBoolean
  | notListed
  | tooShort
  | notGreater
  | notGreaterOrEqual
  | notATime
  | unreadableTime
  | outOfRangeTime
  | rejected (message : String)
  deriving DecidableEq, Repr

namespace IssueKind

/-- The code of an issue. -/
def code : IssueKind → String
  | missing => "missing"
  | extraForbidden => "extra_forbidden"
  | invalidKey => "invalid_key"
  | notAModel => "model_type"
  | notAString => "string_type"
  | notUnicode => "string_unicode"
  | notAList => "list_type"
  | notADict => "dict_type"
  | notAnInteger => "int_type"
  | fractional => "int_from_float"
  | unreadableInteger => "int_parsing"
  | integerTooLarge => "int_parsing_size"
  | notFinite => "finite_number"
  | notABoolean => "bool_type"
  | unreadableBoolean => "bool_parsing"
  | notListed => "literal_error"
  | tooShort => "too_short"
  | notGreater => "greater_than"
  | notGreaterOrEqual => "greater_than_equal"
  | notATime => "datetime_type"
  | unreadableTime => "datetime_from_date_parsing"
  | outOfRangeTime => "datetime_parsing"
  | rejected _ => "value_error"

end IssueKind

/-- **One issue**, with its place. -/
structure Issue where
  place : List Value
  kind : IssueKind
  deriving DecidableEq

namespace Issue

/-- The issue seen from one level further out. -/
def under (step : Value) (i : Issue) : Issue :=
  { i with place := step :: i.place }

/-- The issue as data. -/
def toValue (i : Issue) : Value :=
  .dict ([(.str "loc", .list i.place), (.str "type", .str i.kind.code)] ++
    match i.kind with
    | .rejected message => [(.str "msg", .str ("Value error, " ++ message))]
    | _ => [])

end Issue

end DialPlan
