import DialPlan.Failure
import DialPlan.Json.Reader
import DialPlan.Json.Writer
import DialPlan.Node.Basic
import DialPlan.Schema.Rule

/-!
# Records

A record is the stored form of a rule: a flat object whose chain and target are JSON text of their
own.  Writing gives the canonical form (`Rule.toRecord`); reading (`readRecord`) takes it and older
ones: chain and target as plain data, `sort` for `sortOrder`, and the older spellings of hops and
conditions.
-/

namespace DialPlan

/-! ## Writing -/

/-- The wire forms of a chain. -/
def chainValue : List (Slot Hop) → Except Fault (List Value)
  | [] => .ok []
  | h :: hs => do .ok ((← (← h.part).toValue) :: (← chainValue hs))

/-- The wire form of what stands in the place of a target. -/
def targetValue : Slot Target → Except Fault Value
  | .holds t => t.toValue
  | .foreign v => .error (.unknownTarget v.kindName)

/-- **A stored record.**  The id, the name and the switch are kept as the rule has them. -/
structure Record where
  id : Value
  subscription : String
  name : Value
  enabled : Value
  position : Int
  chain : String
  target : String
  created : DateTime
  updated : DateTime
  deriving DecidableEq

namespace Record

/-- The entries of a record, in their order. -/
def entries (r : Record) : Entries := [
  (.str "id", r.id),
  (.str "subscriptionId", .str r.subscription),
  (.str "name", r.name),
  (.str "enabled", r.enabled),
  (.str "sortOrder", .int r.position),
  (.str "chainConfig", .str r.chain),
  (.str "targetConfig", .str r.target),
  (.str "createdAt", .str r.created.iso),
  (.str "updatedAt", .str r.updated.iso)]

/-- A record as data. -/
def toValue (r : Record) : Value := .dict r.entries

end Record

/-- **The record of a rule.** -/
def Rule.toRecord (r : Rule) : Except Fault Record := do
  let chain ← Json.write {} (.list (← chainValue r.chain))
  let target ← Json.write {} (← targetValue r.target)
  .ok
    { id := r.id
      subscription := r.subscription
      name := r.name
      enabled := r.enabled
      position := r.position
      chain
      target
      created := r.created
      updated := r.updated }

/-- The records of several rules. -/
def recordsOf : List Rule → Except Fault (List Record)
  | [] => .ok []
  | r :: rs => do .ok ((← r.toRecord) :: (← recordsOf rs))

/-! ## Reading -/

/-- A field that may be JSON text: null and blank text stand for `empty`, other text for its
value. -/
def readEmbedded {α : Type} (empty : Value) (read : Value → Checked α) (v : Value) : Checked α :=
  match v with
  | .null => read empty
  | .str s =>
    if Text.isBlankText s then read empty
    else
      match Json.read s with
      | .ok w => read w
      | .error .malformed => .fail (.rejected "invalid JSON")
      | .error (.tooManyDigits n) => .fail (.rejected (Fault.tooManyDigits (some n)).message)
  | v => read v

/-- The target of a record that names none. -/
def allTargetValue : Value := .dict [(.str "type", .str "all")]

/-- A name; null is the empty one. -/
def readName (v : Value) : Checked String :=
  match v with
  | .null => .good ""
  | v => Schema.text v

/-- An identifier in words. -/
def readIdentifierText (v : Value) : Checked String :=
  (Schema.identifier v).andThen fun w => .ofWording w.asText ""

/-- **The parts of a record object.** -/
structure RecordParts where
  id : String
  subscription : String
  name : String
  enabled : Bool
  sortOrder : Option Int
  sort : Option Int
  chain : List Hop
  target : Target
  created : Option DateTime
  updated : Option DateTime

/-- **The rule of the parts.**  A time that the record does not give is the present one. -/
def RecordParts.toRule (now : DateTime) (p : RecordParts) : Rule where
  id := .str p.id
  subscription := p.subscription
  name := .str p.name
  enabled := .bool p.enabled
  position := (p.sortOrder.or p.sort).getD 0
  chain := p.chain.map .holds
  target := .holds p.target
  created := p.created.getD now
  updated := p.updated.getD now

/-- The parts of an object. -/
def readRecordParts (entries : Entries) : Checked RecordParts :=
  RecordParts.mk
    <$> Schema.required entries "id" "id" readIdentifierText
    <*> Schema.required entries "subscriptionId" "subscription_id" readIdentifierText
    <*> Schema.field entries "name" "name" readName ""
    <*> Schema.field entries "enabled" "enabled" Schema.boolean true
    <*> Schema.optionalField entries "sortOrder" "sort_order" (Schema.integerFrom 0)
    <*> Schema.optionalField entries "sort" "sort" (Schema.integerFrom 0)
    <*> Schema.field entries "chainConfig" "chain_config"
      (readEmbedded (.list []) (Schema.list readHop)) []
    <*> Schema.field entries "targetConfig" "target_config"
      (readEmbedded allTargetValue readTarget) .all
    <*> Schema.optionalField entries "createdAt" "created_at" Schema.time
    <*> Schema.optionalField entries "updatedAt" "updated_at" Schema.time

/-- A checked reading as an outcome. -/
def Checked.toOutcome {α : Type} (what : String) (context : Entries) : Checked α → Outcome α
  | .good a => .ok a
  | .stuck f _ => .error (.fault f)
  | .bad issues => Outcome.refuse (.invalidData what issues context)

/-- **Reading a record.** -/
def readRecord (now : DateTime) (v : Value) : Outcome Rule := do
  let entries ← Outcome.ofFault (Node.entriesOf v)
  match readRecordParts entries, v with
  | .good p, _ => .ok (p.toRule now)
  | .stuck f _, _ => .error (.fault f)
  | .bad issues, .dict own =>
    Outcome.refuse
      (.invalidData "rule record" issues [(.str "rule_id", (Entries.get? own "id").getD .null)])
  | .bad _, _ => .error (.fault .notARulePart)

/-- JSON text as the value it holds. -/
def readJson (what text : String) : Outcome Value :=
  match Json.read text with
  | .ok v => .ok v
  | .error .malformed => Outcome.refuse (.notJson what)
  | .error (.tooManyDigits n) => .error (.fault (.tooManyDigits (some n)))

/-- **Decoding a condition** from data or from JSON text. -/
def decodeCondition (v : Value) : Outcome Condition := do
  let v ← match v with
    | .str s => readJson "condition" s
    | v => .ok v
  (readCondition v).toOutcome "condition" []

/-- **Decoding a hop.** -/
def decodeHop (v : Value) : Outcome Hop := do
  let entries ← Outcome.ofFault (Node.entriesOf v)
  (readHopEntries entries).toOutcome "chain hop" []

/-- **Decoding a target** from data or from JSON text; nothing at all means all nodes. -/
def decodeTarget (v : Value) : Outcome Target := do
  let v ← match v with
    | .str s => if Text.isBlankText s then .ok (.dict []) else readJson "target" s
    | v => .ok v
  (readTarget (if v.truthy then v else .dict [])).toOutcome "target" []

/-- **Whether a pack's schema version can be read**: the part before the first point decides. -/
def isCompatible (pack : Entries) : Except Fault Bool := do
  let version ← ((pack.get? "schema_version").getD (.str schemaVersion)).asText
  .ok (version.toList.takeWhile (· != '.') == schemaVersion.toList.takeWhile (· != '.'))

end DialPlan
