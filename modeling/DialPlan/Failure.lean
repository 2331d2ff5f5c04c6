import DialPlan.Fault
import DialPlan.Schema.Issue
import DialPlan.Table

/-!
# Failures

Everything an operation of this library can fail with: a fault of a value, issues of data, or a
refusal, that is, a rule, a record, a node or a pack that the library will not accept.

A refusal is a cause.  Its report (`Refusal.report`) has a class, a code, a message and details, and
names the subscription it concerns.
-/

namespace DialPlan

/-- **The classes of refusals.** -/
inductive RefusalClass
  | ruleValidation
  | ruleNotFound
  | ruleOwnership
  | orderingConflict
  | providerContract
  | packLoad
  | packValidation
  | packVersion
  deriving DecidableEq, Repr

namespace RefusalClass

/-- The name of a class. -/
def name : RefusalClass → String
  | ruleValidation => "RuleValidationError"
  | ruleNotFound => "RuleNotFoundError"
  | ruleOwnership => "RuleOwnershipError"
  | orderingConflict => "OrderingConflictError"
  | providerContract => "ProviderContractError"
  | packLoad => "PackLoadError"
  | packValidation => "PackValidationError"
  | packVersion => "PackVersionMismatch"

/-- The code of a class. -/
def code : RefusalClass → String
  | ruleValidation => "CR_RULE_VALIDATION_ERROR"
  | ruleNotFound => "CR_RULE_NOT_FOUND"
  | ruleOwnership => "CR_RULE_OWNERSHIP"
  | orderingConflict => "CR_ORDERING_CONFLICT"
  | providerContract => "CR_PROVIDER_CONTRACT"
  | packLoad => "CR_PACK_LOAD_ERROR"
  | packValidation => "CR_PACK_VALIDATION_ERROR"
  | packVersion => "CR_PACK_VERSION_MISMATCH"

end RefusalClass

/-- **Why something is refused.** -/
inductive Refusal
  -- rules and their store
  | subscriptionRequired
  | invalidRule (id name : Value) (subscription : String) (errors : List String)
  | protectedFields (id : String) (fields : List String) (subscription : Option String)
  | unknownFields (id : String) (fields : List String) (subscription : Option String)
  | targetRequired (id : String) (subscription : Option String)
  | ruleMissing (id : String) (subscription : Option String)
  | ruleElsewhere (id : String) (subscription : Option String)
  | orderMismatch (missing extra duplicates : List String) (subscription : String)
  | repeatedImport (id subscription : String)
  | ownedElsewhere (id owner : String)
  -- nodes and providers
  | recordWithoutId (keys : List Value)
  | nodeWithoutId (kind : String)
  | repeatedNode (id : String)
  | templateNotAHop (name kind : String)
  | groupNotAList (name : String)
  -- records
  | notJson (what : String)
  | invalidData (what : String) (issues : List Issue) (context : Entries)
  -- packs and files
  | unreadableTemplate
  | templateNotAMapping
  | missingTemplateFile
  | unnamedGroup (index : Nat)
  | invalidFilter (name filter : Value) (error : PatternError)
  | nodesUnreadable
  | nodesNotAList
  | nodeNotAMapping (index : Nat)
  | nodeInvalid (index : Nat) (message : String)
  | packUnreadable
  | packUnparsable (format : String)
  | packNotAMapping
  | packVersion (found : Value)
  | packInvalid (issues : List Issue)
  | packRulesInvalid (errors : Table (List String))
  deriving DecidableEq

/-- **The report of a refusal.** -/
structure Report where
  cls : RefusalClass
  message : String
  details : Entries := []
  subscription : Option String := none

/-- The schema version that packs are written for. -/
def schemaVersion : String := "1.0.0"

namespace Refusal

/-- A list of texts as data. -/
def texts (ss : List String) : Value := .list (ss.map .str)

/-- A list of issues as data. -/
def issueList (issues : List Issue) : Value := .list (issues.map Issue.toValue)

/-- **What a refusal reports.** -/
def report : Refusal → Report
  | subscriptionRequired => ⟨.ruleValidation, "subscription_id is required", [], none⟩
  | invalidRule id name subscription errors =>
    let shownName := if name.truthy then name.text else id.text
    ⟨.ruleValidation, "Rule '" ++ shownName ++ "' is invalid: " ++ errors.headD "",
      [(.str "rule_id", id), (.str "errors", texts errors)], some subscription⟩
  | protectedFields id fields subscription =>
    ⟨.ruleValidation, "Fields cannot be changed by update: " ++ ", ".intercalate fields,
      [(.str "rule_id", .str id), (.str "fields", texts fields)], subscription⟩
  | unknownFields id fields subscription =>
    ⟨.ruleValidation, "Unknown rule fields: " ++ ", ".intercalate fields,
      [(.str "rule_id", .str id), (.str "fields", texts fields)], subscription⟩
  | targetRequired id subscription =>
    ⟨.ruleValidation, "target_config must be exactly one target variant",
      [(.str "rule_id", .str id)], subscription⟩
  | ruleMissing id subscription =>
    ⟨.ruleNotFound, "Chain rule not found: " ++ id, [(.str "rule_id", .str id)], subscription⟩
  | ruleElsewhere id subscription =>
    ⟨.ruleOwnership, "Chain rule " ++ id ++ " does not belong to this subscription",
      [(.str "rule_id", .str id)], subscription⟩
  | orderMismatch missing extra duplicates subscription =>
    ⟨.orderingConflict, "Reorder ids do not match the current rules",
      [(.str "missing", texts missing), (.str "extra", texts extra),
        (.str "duplicates", texts duplicates)], some subscription⟩
  | repeatedImport id subscription =>
    ⟨.ruleValidation, "Duplicate rule id in import: " ++ id, [(.str "rule_id", .str id)],
      some subscription⟩
  | ownedElsewhere id owner =>
    ⟨.ruleValidation, "Rule id " ++ id ++ " already belongs to another subscription",
      [(.str "rule_id", .str id), (.str "owner", .str owner)], none⟩
  | recordWithoutId keys =>
    ⟨.providerContract, "Node record has no id", [(.str "keys", .list keys)], none⟩
  | nodeWithoutId kind =>
    ⟨.providerContract, "Node has no id attribute", [(.str "node_type", .str kind)], none⟩
  | repeatedNode id =>
    ⟨.providerContract, "Duplicate node id in snapshot: " ++ id, [(.str "node_id", .str id)],
      none⟩
  | templateNotAHop name kind =>
    ⟨.providerContract,
      "Template '" ++ name ++ "' expanded to " ++ kind ++ ", expected ChainHop",
      [(.str "template", .str name)], none⟩
  | groupNotAList name =>
    ⟨.providerContract, "Group '" ++ name ++ "' members must be a sequence of ids",
      [(.str "group", .str name)], none⟩
  | notJson what => ⟨.packValidation, "Invalid " ++ what ++ ": not valid JSON", [], none⟩
  | invalidData what issues context =>
    ⟨.packValidation,
      "Invalid " ++ what ++ ": " ++ toString issues.length ++ " validation error(s)",
      (.str "errors", issueList issues) :: context, none⟩
  | unreadableTemplate => ⟨.packLoad, "Failed to parse Clash template", [], none⟩
  | templateNotAMapping => ⟨.packLoad, "Clash template must be a YAML mapping", [], none⟩
  | missingTemplateFile => ⟨.packLoad, "Failed to read Clash template", [], none⟩
  | unnamedGroup index =>
    ⟨.packValidation, "proxy-groups[" ++ toString index ++ "] has no name",
      [(.str "index", .int index)], none⟩
  | invalidFilter name filter error =>
    ⟨.packValidation,
      "proxy-group '" ++ name.text ++ "' has an invalid filter: " ++ error.message,
      [(.str "group", name), (.str "filter", filter)], none⟩
  | nodesUnreadable => ⟨.packLoad, "Failed to load nodes", [], none⟩
  | nodesNotAList =>
    ⟨.packValidation, "Node list must be a list or a mapping with 'nodes'", [], none⟩
  | nodeNotAMapping index =>
    ⟨.packValidation, "nodes[" ++ toString index ++ "] must be a mapping",
      [(.str "index", .int index)], none⟩
  | nodeInvalid index message =>
    ⟨.packValidation, "nodes[" ++ toString index ++ "] is invalid: " ++ message,
      [(.str "index", .int index)], none⟩
  | packUnreadable => ⟨.packLoad, "Failed to load rule pack", [], none⟩
  | packUnparsable format =>
    ⟨.packLoad, "Failed to parse rule pack", [(.str "format", .str format)], none⟩
  | packNotAMapping => ⟨.packLoad, "Rule pack must be a mapping", [], none⟩
  | packVersion found =>
    ⟨.packVersion,
      "Schema version mismatch: pack has " ++ found.text ++ ", expected " ++ schemaVersion,
      [(.str "pack_version", found), (.str "expected_version", .str schemaVersion)], none⟩
  | packInvalid issues =>
    ⟨.packValidation, "Rule pack validation failed: " ++ toString issues.length ++ " errors",
      [(.str "errors", issueList issues)], none⟩
  | packRulesInvalid errors =>
    ⟨.packValidation, "Rule pack has invalid rules: " ++ ", ".intercalate errors.keys,
      [(.str "errors", .dict (errors.map fun e => (.str e.1, texts e.2)))], none⟩

end Refusal

namespace Report

/-- The subscription, unless its name is empty. -/
def concerned (r : Report) : Option String :=
  r.subscription.filter (!·.isEmpty)

/-- **The text of a report.** -/
def text (r : Report) : String :=
  "[" ++ r.cls.code ++ "] " ++ r.message ++
    (match r.concerned with | some s => " (subscription: " ++ s ++ ")" | none => "")

/-- **A report as data**: details and subscription only when there are any. -/
def toValue (r : Report) : Value :=
  .dict ([(.str "code", .str r.cls.code), (.str "message", .str r.message)]
    ++ (if r.details.isEmpty then [] else [(Value.str "details", Value.dict r.details)])
    ++ (match r.concerned with
      | some s => [(.str "subscription_id", .str s)]
      | none => []))

end Report

/-- **What an operation fails with.** -/
inductive Failure
  | fault (fault : Fault)
  | refused (refusal : Refusal)
  | issues (issues : List Issue)
  deriving DecidableEq

/-- The result of an operation that can fail. -/
abbrev Outcome (α : Type) := Except Failure α

namespace Outcome

/-- The outcome of an operation that fails with faults only. -/
def ofFault {α : Type} (e : Except Fault α) : Outcome α :=
  match e with
  | .ok a => .ok a
  | .error f => .error (.fault f)

/-- A refusal as an outcome. -/
def refuse {α : Type} (r : Refusal) : Outcome α := .error (.refused r)

@[simp] theorem ofFault_ok {α : Type} (a : α) : ofFault (.ok a) = .ok a := rfl

@[simp] theorem ofFault_error {α : Type} (f : Fault) :
    (ofFault (.error f) : Outcome α) = .error (.fault f) := rfl

end Outcome

end DialPlan
