import DialPlan.Schema.Reading
import DialPlan.Vocabulary

/-!
# Reading vocabularies

A vocabulary in data lists fields and operators.  They are added to the stock vocabulary, replacing
entries of the same name, unless the data says that it does not extend it.
-/

namespace DialPlan

/-- The field of an object. -/
def readFieldSpec (entries : Entries) : Checked FieldSpec :=
  let make (name : String) (type : FieldType) (label : String) (reads : Option String)
      (choices : List String) (_ : Unit) : FieldSpec := ⟨name, type, label, reads, choices⟩
  make
    <$> Schema.required entries "name" "name" Schema.text
    <*> Schema.required entries "type" "type" (Schema.oneOf FieldType.ofName?)
    <*> Schema.field entries "label" "label" Schema.text ""
    <*> Schema.optionalField entries "attribute" "attribute" Schema.text
    <*> Schema.field entries "choices" "choices" (Schema.list Schema.text) []
    <*> Schema.noOthers entries ["name", "type", "label", "attribute", "choices"]

/-- The operator of an object. -/
def readOperatorSpec (entries : Entries) : Checked OperatorSpec :=
  let make (name : String) (types : List FieldType) (arity : Arity) (label : String) (_ : Unit) :
      OperatorSpec := ⟨name, types, arity, label⟩
  make
    <$> Schema.required entries "name" "name" Schema.text
    <*> Schema.required entries "field_types" "field_types"
      (Schema.nonEmptyList (Schema.oneOf FieldType.ofName?))
    <*> Schema.field entries "arity" "arity" (Schema.oneOf Arity.ofName?) .scalar
    <*> Schema.field entries "label" "label" Schema.text ""
    <*> Schema.noOthers entries ["name", "field_types", "arity", "label"]

/-- **What a vocabulary in data says.** -/
structure VocabularyParts where
  extends_ : Bool := true
  fields : List FieldSpec := []
  operators : List OperatorSpec := []
  groupTypes : Option (List String) := none

/-- The vocabulary data of an object. -/
def readVocabularyEntries (entries : Entries) : Checked VocabularyParts :=
  let make (extends_ : Bool) (fields : List FieldSpec) (operators : List OperatorSpec)
      (groupTypes : Option (List String)) (_ : Unit) : VocabularyParts :=
    ⟨extends_, fields, operators, groupTypes⟩
  make
    <$> Schema.field entries "extend_defaults" "extend_defaults" Schema.boolean true
    <*> Schema.field entries "fields" "fields" (Schema.list (Schema.model readFieldSpec)) []
    <*> Schema.field entries "operators" "operators"
      (Schema.list (Schema.model readOperatorSpec)) []
    <*> Schema.optionalField entries "group_types" "group_types" (Schema.list Schema.text)
    <*> Schema.noOthers entries ["extend_defaults", "fields", "operators", "group_types"]

/-- **Reading a vocabulary.** -/
def readVocabulary : Value → Checked VocabularyParts := Schema.model readVocabularyEntries

/-- **The vocabulary that the data makes**, with the given templates. -/
def VocabularyParts.toVocabulary (p : VocabularyParts) (templates : Table (Slot Hop)) :
    Vocabulary where
  fields := Table.merge (if p.extends_ then Vocabulary.stockFields else [])
    (p.fields.map fun f => (f.name, f))
  operators := Table.merge (if p.extends_ then Vocabulary.stockOperators else [])
    (p.operators.map fun o => (o.name, o))
  groupTypes :=
    match p.groupTypes with
    | some (g :: gs) => g :: gs
    | _ => ["select", "url-test"]
  templates := templates

end DialPlan
