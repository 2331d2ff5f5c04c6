import DialPlan.Files
import DialPlan.Pack.Basic
import DialPlan.Rule.Validation

/-!
# Loading packs

From text or a file to a pack: the data is read, its version and its shape are checked, the Clash
template it names is read, and every template and every rule is validated.
-/

namespace DialPlan.Pack

/-- What keeps a path from naming a file: it cannot be encoded, or it holds a null character. -/
def pathFault? (p : Path) : Option Fault :=
  match Text.pathComplaint? p.text with
  | some complaint => some (.unencodable complaint)
  | none => if p.text.toList.contains '\x00' then some .nullInPath else none

/-- The Clash groups that a pack names a template for; the template is looked up next to the pack.
A path that names no file is a fault, and so is a template that is no text. -/
def readClashGroups (files : Files) (base : Path) (template : Option String) :
    Outcome (List TemplateGroup) :=
  match template with
  | none | some "" => .ok []
  | some t =>
    let path := base.join (.ofText t)
    match pathFault? path with
    | some f => .error (.fault f)
    | none =>
      match files.read? path with
      | some (.text text) => ProxyGroup.ofText text
      | some (.undecodable complaint) => .error (.fault (.undecodable complaint))
      | none => Outcome.refuse .missingTemplateFile

/-- The id of a rule: the given one, or one made of the subscription and the position. -/
def ruleId (subscription : String) (index : Nat) (r : PackRule) : String :=
  match r.id with
  | some id => id.text
  | none => subscription ++ "-" ++ toString (index + 1)

/-- A rule of the pack at a position. -/
def ruleAt (now : DateTime) (subscription : String) (index : Nat) (r : PackRule) : Rule where
  id := .str (ruleId subscription index r)
  subscription := subscription
  name := .str r.name
  enabled := .bool r.enabled
  position := index
  chain := r.chain.map .holds
  target := .holds r.target
  created := now
  updated := now

/-- The rules of a pack. -/
def rulesOf (now : DateTime) (subscription : String) (rules : List PackRule) : List Rule :=
  rules.mapIdx (ruleAt now subscription)

/-- The messages about templates, by what they are about. -/
def templateErrors (v : Vocabulary) : Table Hop → Except Fault (Table (List String))
  | [] => .ok []
  | (name, hop) :: more => do
    let problems ← v.checkChain [.holds hop]
    let rest ← templateErrors v more
    .ok (if problems.isEmpty then rest
      else ("template:" ++ name, problems.map (·.message)) :: rest)

/-- The messages about rules, by their ids. -/
def rulesErrors (v : Vocabulary) : List Rule → Except Fault (Table (List String))
  | [] => .ok []
  | r :: rs => do
    let errors ← v.ruleErrors r
    let rest ← rulesErrors v rs
    .ok (if errors.isEmpty then rest else (r.id.text, errors) :: rest)

/-- **Refuse a pack** one of whose templates or rules is not accepted. -/
def requireValid (v : Vocabulary) (templates : Table Hop) (rules : List Rule) : Outcome Unit := do
  let ofTemplates ← Outcome.ofFault (templateErrors v templates)
  let ofRules ← Outcome.ofFault (rulesErrors v rules)
  let errors := Table.ofList (ofTemplates ++ ofRules)
  if errors.isEmpty then .ok () else Outcome.refuse (.packRulesInvalid errors)

/-- The vocabulary of a pack. -/
def vocabularyOf (parts : Option VocabularyParts) (templates : Table Hop) : Vocabulary :=
  let slots := templates.map fun (name, hop) => (name, Slot.holds hop)
  match parts with
  | some p => p.toVocabulary slots
  | none => .standard slots

/-- A strict reader refuses packs of another version. -/
def requireVersion (strict : Bool) (entries : Entries) : Outcome Unit := do
  if strict then
    if !(← Outcome.ofFault (isCompatible entries)) then
      Outcome.refuse (.packVersion ((Entries.get? entries "schema_version").getD (.str "unknown")))

/-- The parts of a pack, and the fault of putting its hops and targets together, if there is one. -/
def readParts (entries : Entries) : Outcome (PackParts × Option Fault) :=
  match readPackEntries entries with
  | .good parts => .ok (parts, none)
  | .stuck f parts => .ok (parts, some f)
  | .bad issues => Outcome.refuse (.packInvalid issues)

/-- **The pack of data.** -/
def ofValue (now : DateTime) (strict : Bool) (files : Files) (source : Option String)
    (base : Path) (v : Value) : Outcome Pack :=
  match v with
  | .dict entries => do
    requireVersion strict entries
    let (parts, late) ← readParts entries
    let subscription ← Outcome.ofFault parts.subscription.asText
    let clashGroups ← readClashGroups files base parts.clashTemplate
    if let some f := late then .error (.fault f)
    let templates := Table.merge (ProxyGroup.templates clashGroups) parts.templates
    let vocabulary := vocabularyOf parts.vocabulary templates
    let rules := rulesOf now subscription parts.rules
    requireValid vocabulary templates rules
    .ok
      { subscription, rules, vocabulary, groups := parts.groups, clashGroups
        name := parts.name, description := parts.description, source }
  | _ => Outcome.refuse .packNotAMapping

/-- **The pack of a file.** -/
def ofFile (now : DateTime) (strict : Bool) (files : Files) (p : Path) : Outcome Pack :=
  match files.value p with
  | .ok v => ofValue now strict files (some p.text) p.parent v
  | .error .unreadable => Outcome.refuse .packUnreadable
  | .error (.broken f) => .error (.fault f)

/-- **The pack of text** in a format: JSON, or YAML under any other name. -/
def ofText (now : DateTime) (strict : Bool) (files : Files) (format text : String) :
    Outcome Pack :=
  match if Text.lower format = "json" then Files.json text else Files.yaml text with
  | .ok v => ofValue now strict files none {} v
  | .error .unreadable => Outcome.refuse (.packUnparsable format)
  | .error (.broken f) => .error (.fault f)

end DialPlan.Pack
