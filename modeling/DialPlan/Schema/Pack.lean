import DialPlan.Schema.Rule
import DialPlan.Schema.Vocabulary

/-!
# Reading packs

A pack in data is an object with the rules of one subscription, its vocabulary, its templates and
its groups.  Fields that a pack does not have are issues.
-/

namespace DialPlan

/-- **One rule of a pack**; its place in the list is its position. -/
structure PackRule where
  id : Option Value
  name : String
  enabled : Bool
  chain : List Hop
  target : Target

/-- **The parts of a pack.** -/
structure PackParts where
  subscription : Value
  name : Option String
  description : Option String
  vocabulary : Option VocabularyParts
  templates : Table Hop
  groups : Table (List String)
  clashTemplate : Option String
  rules : List PackRule

/-- The rule of an object. -/
def readPackRule (entries : Entries) : Checked PackRule :=
  let make (id : Option Value) (name : String) (enabled : Bool) (chain : List Hop)
      (target : Target) (_ : Unit) : PackRule := ⟨id, name, enabled, chain, target⟩
  make
    <$> Schema.optionalField entries "id" "id" Schema.identifier
    <*> Schema.field entries "name" "name" Schema.text ""
    <*> Schema.field entries "enabled" "enabled" Schema.boolean true
    <*> Schema.field entries "chain" "chain" (Schema.list readHop) []
    <*> Schema.field entries "target" "target" readTarget .all
    <*> Schema.noOthers entries ["id", "name", "enabled", "chain", "target"]

namespace PackParts

/-- The ids that rules of the pack give themselves. -/
def givenIds (p : PackParts) : List String :=
  p.rules.filterMap fun r => r.id.map Value.text

/-- The given ids that occur more than once, sorted. -/
def repeatedIds (p : PackParts) : List String :=
  (p.givenIds.filter fun i => 1 < p.givenIds.count i).eraseDups.mergeSort (· ≤ ·)

/-- A pack whose rules do not share an id.  The ids are compared as texts. -/
def checkIds (p : PackParts) : Checked PackParts :=
  if !p.rules.all fun r => r.id.all Value.printable then
    .fail (.rejected (Fault.tooManyDigits none).message)
  else if p.repeatedIds.isEmpty then .good p
  else
    .fail (.rejected ("Duplicate rule ids: " ++ (Value.list (p.repeatedIds.map .str)).shown))

end PackParts

/-- The names of the fields of a pack. -/
def packFields : List String :=
  ["schema_version", "subscription_id", "name", "description", "vocabulary", "templates", "groups",
    "clash_template", "rules"]

/-- The pack of an object. -/
def readPackEntries (entries : Entries) : Checked PackParts :=
  let make (_ : String) (subscription : Value) (name description : Option String)
      (vocabulary : Option VocabularyParts) (templates : Table Hop)
      (groups : Table (List String)) (clashTemplate : Option String) (rules : List PackRule)
      (_ : Unit) : PackParts :=
    ⟨subscription, name, description, vocabulary, templates, groups, clashTemplate, rules⟩
  let parts : Checked PackParts := make
    <$> Schema.field entries "schema_version" "schema_version" Schema.text ""
    <*> Schema.required entries "subscription_id" "subscription_id" Schema.identifier
    <*> Schema.optionalField entries "name" "name" Schema.text
    <*> Schema.optionalField entries "description" "description" Schema.text
    <*> Schema.optionalField entries "vocabulary" "vocabulary" readVocabulary
    <*> Schema.field entries "templates" "templates" (Schema.table readHop) []
    <*> Schema.field entries "groups" "groups" (Schema.table (Schema.list Schema.text)) []
    <*> Schema.optionalField entries "clash_template" "clash_template" Schema.text
    <*> Schema.field entries "rules" "rules" (Schema.list (Schema.model readPackRule)) []
    <*> Schema.noOthers entries packFields
  parts.andThen PackParts.checkIds

end DialPlan
