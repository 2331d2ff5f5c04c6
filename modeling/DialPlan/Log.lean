import DialPlan.Json.Writer
import DialPlan.Settings

/-!
# Log entries

An entry has a level, the name of its logger, a message, and the context it was made in.  As a line
it is one JSON object in ASCII.
-/

namespace DialPlan

/-- **The level of an entry.** -/
inductive LogLevel
  | unset
  | debug
  | info
  | warning
  | error
  | critical
  deriving DecidableEq, Repr, Inhabited

namespace LogLevel

/-- The name of a level. -/
def name : LogLevel → String
  | unset => "NOTSET"
  | debug => "DEBUG"
  | info => "INFO"
  | warning => "WARNING"
  | error => "ERROR"
  | critical => "CRITICAL"

/-- How severe a level is. -/
def rank : LogLevel → Nat
  | unset => 0
  | debug => 10
  | info => 20
  | warning => 30
  | error => 40
  | critical => 50

/-- The level of a name; two have a second one. -/
def ofName? (s : String) : Option LogLevel :=
  if s = "WARN" then some warning
  else if s = "FATAL" then some critical
  else [unset, debug, info, warning, error, critical].find? (·.name = s)

/-- Whether an entry of a level is written under a threshold; without one, warnings are. -/
def passes (level threshold : LogLevel) : Bool :=
  (match threshold with | unset => warning.rank | t => t.rank) ≤ level.rank

end LogLevel

/-! ## Messages -/

/-- An integer argument as its digits. -/
def integerArgument (v : Value) : Except Fault String :=
  match v with
  | .int n => numeralOf n
  | .bool b => .ok (if b then "1" else "0")
  | .float x => .ok (toString x.truncate)
  | v => .error (.formatNeedsNumber v.fullKindName)

/-- A template of a message with its marks replaced by arguments, and the arguments that are left;
`index` is the place of the first character. -/
def fillFrom : Nat → List Char → List Value → Except Fault (List Char × List Value)
  | _, [], args => .ok ([], args)
  | _, ['%'], _ => .error .formatBreaksOff
  | index, '%' :: mark :: rest, args =>
    if mark == '%' then do
      let (text, left) ← fillFrom (index + 2) rest args
      .ok ('%' :: text, left)
    else if mark == 's' || mark == 'd' || mark == 'r' then
      match args with
      | [] => .error .formatMissing
      | v :: more => do
        let part ← if mark == 'd' then integerArgument v
          else if mark == 'r' then v.asShown
          else v.asText
        let (text, left) ← fillFrom (index + 2) rest more
        .ok (part.toList ++ text, left)
    else .error (.badFormatMark mark (index + 1))
  | index, c :: rest, args => do
    let (text, left) ← fillFrom (index + 1) rest args
    .ok (c :: text, left)

/-- **A message from a template.**  Without arguments the template is the message; a single
dictionary may be left over. -/
def fillMessage (template : String) (args : List Value) : Except Fault String :=
  if args.isEmpty then .ok template
  else do
    let (text, left) ← fillFrom 0 template.toList args
    match args, left with
    | _, [] | [.dict (_ :: _)], _ => .ok (String.ofList text)
    | _, _ => .error .formatLeftOver

/-! ## Entries -/

/-- **A log entry.** -/
structure LogEntry where
  level : LogLevel
  logger : String
  message : String
  context : Table Value := []
  deriving Inhabited

namespace LogEntry

/-- What a context may hold, in the order of writing. -/
def contextNames : List String :=
  ["subscription_id", "rule_id", "node_id", "reason", "reference", "position"]

/-- The entries of an entry's object, in the order of writing. -/
def entries (e : LogEntry) : Entries :=
  [(.str "level", .str e.level.name), (.str "logger", .str e.logger),
    (.str "message", .str e.message)]
  ++ contextNames.filterMap fun name => (e.context.get? name).map fun v => (Value.str name, v)

/-- **An entry as data.** -/
def toValue (e : LogEntry) : Value := .dict e.entries

/-- **An entry as a line.** -/
def line (e : LogEntry) : Except Fault String :=
  Json.write { ascii := true, lenient := true } e.toValue

/-- An entry as a line with the time it was made at in front. -/
def stampedLine (now : DateTime) (e : LogEntry) : Except Fault String :=
  Json.write { ascii := true, lenient := true }
    (.dict ((.str "timestamp", .str now.iso) :: e.entries))

/-- An entry as plain text. -/
def plainLine (now : DateTime) (e : LogEntry) : String :=
  now.textWith " " ++ " " ++ e.level.name ++ " " ++ e.logger ++ ": " ++ e.message

end LogEntry

/-! ## Configuration -/

/-- **Which entries are written, and how.** -/
structure LogSetup where
  threshold : LogLevel
  asJson : Bool
  deriving DecidableEq, Repr, Inhabited

/-- A word, unless it is missing or empty. -/
def wordOr (word : Option String) (default : String) : String :=
  match word with
  | none | some "" => default
  | some w => w

/-- **The set-up** for a level and a form that may be given; the settings stand in for them. -/
def LogSetup.make (s : Settings) (level form : Option String) : Except Fault LogSetup :=
  let name := Text.upper (wordOr level s.logLevel)
  match LogLevel.ofName? name with
  | some threshold => .ok { threshold, asJson := wordOr form s.logForm.name = "json" }
  | none => .error (.unknownLevel name)

/-- The entries that are written. -/
def LogSetup.written (s : LogSetup) (entries : List LogEntry) : List LogEntry :=
  entries.filter fun e => e.level.passes s.threshold

/-- The line of an entry in the form of the set-up. -/
def LogSetup.line (s : LogSetup) (now : DateTime) (e : LogEntry) : Except Fault String :=
  if s.asJson then e.stampedLine now else .ok (e.plainLine now)

end DialPlan
