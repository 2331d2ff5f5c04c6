import DialPlan.CommandLine.Invocation
import DialPlan.Decision.Journal
import DialPlan.NodeList
import DialPlan.Pack.Loading
import DialPlan.Settings

/-!
# Runs

A run is what an invocation comes to: the lines that it prints, the log entries that it writes, and
the exit code.  A refusal is reported and ends the run with its own code; other failures are
failures of the run itself.
-/

namespace DialPlan.CommandLine

/-- **What a run leaves behind.** -/
structure Run where
  /-- The lines printed. -/
  output : List String := []
  /-- The log entries, before the threshold is applied. -/
  journal : List LogEntry := []
  /-- The lines that report a refusal. -/
  complaint : List String := []
  exitCode : Nat := 0
  deriving Inhabited

/-- **What runs are made in**: the present time, the files there are, and the settings. -/
structure Surroundings where
  now : DateTime
  files : Files
  settings : Settings := {}

/-! ## Tables -/

/-- A text at the left of a column. -/
def fitted (width : Nat) (text : String) : String :=
  text ++ String.ofList (List.replicate (width - text.length) ' ')

/-- A value in a column.  Numbers and booleans are written as numbers; a date takes the measure of
the column for its layout, and collections have none. -/
def cell (width : Nat) (v : Value) : Except Fault String :=
  match v with
  | .str s => .ok (fitted width s)
  | .bool b => .ok (fitted width (if b then "1" else "0"))
  | .int _ | .float _ | .decimal _ => fitted width <$> v.asText
  | .date _ | .time _ => .ok ("<" ++ toString width)
  | .null | .bytes _ | .list _ | .tuple _ | .set _ | .dict _ | .object _ =>
    .error (.noPadding v.kindName)

/-- A line across the page. -/
def bar (mark : Char) : String := String.ofList (List.replicate 70 mark)

/-- What the table says about a ruling. -/
def rulingText (r : Ruling) : String :=
  match r with
  | .preserved dialer => dialer ++ " (preserved)"
  | .failed _ e => "ERROR " ++ e.cause.reason ++ ": " ++ e.cause.message
  | .unruled => "-"
  | .chained _ c =>
    let names := " -> ".intercalate c.proxyNames
    if names.isEmpty then "(direct)" else names

/-- The row of a decision. -/
def row (nodes : NodeSnapshot) (d : Decision) : Except Fault String := do
  let label := match nodes.node? d.node with
    | some n => n.proxyName
    | none => .str d.node
  let ruleId := if d.ruleId.truthy then d.ruleId else .str "-"
  .ok ((← cell 24 label) ++ " " ++ (← cell 16 ruleId) ++ " " ++ rulingText d.ruling)

/-- The rows of decisions. -/
def rows (nodes : NodeSnapshot) : List Decision → Except Fault (List String)
  | [] => .ok []
  | d :: ds => do .ok ((← row nodes d) :: (← rows nodes ds))

/-- The line of a generated group. -/
def groupLine (g : CustomGroup) : Except Fault String := do
  .ok ("  " ++ g.name ++ " [" ++ (← g.type.asText) ++ "]: " ++ ", ".intercalate g.proxies)

/-- The lines of generated groups. -/
def groupLines : List CustomGroup → Except Fault (List String)
  | [] => .ok []
  | g :: gs => do .ok ((← groupLine g) :: (← groupLines gs))

/-- **The table of a pass.** -/
def passTable (subscription : String) (nodes : NodeSnapshot) (p : Pass) :
    Except Fault (List String) := do
  let body ← rows nodes p.decisions
  let lines ← groupLines p.groups
  let groups := if p.groups.isEmpty then [] else "" :: "CUSTOM PROXY GROUPS" :: lines
  let errors :=
    if p.errors.isEmpty then [] else ["", toString p.errors.length ++ " resolution error(s)"]
  .ok ([bar '=', "CHAIN RESOLUTION: " ++ subscription, bar '=',
      fitted 24 "Node" ++ " " ++ fitted 16 "Rule" ++ " Chain", bar '-']
    ++ body ++ [bar '-'] ++ groups ++ errors)

/-! ## Commands -/

/-- JSON laid out over lines. -/
def laidOut (lenient : Bool) (v : Value) : Except Fault (List String) := do
  .ok [← Json.write { indent := some 2, lenient } v]

/-- The pack at a path. -/
def Surroundings.pack (s : Surroundings) (path : String) : Outcome Pack :=
  Pack.ofFile s.now true s.files (.ofText path)

/-- What checking a pack prints. -/
def packSummary (path : String) (p : Pack) : List String := [
  "OK  " ++ path,
  "  Subscription:    " ++ p.subscription,
  "  Rules:           " ++ toString p.rules.length ++ " (" ++ toString p.enabledRules.length ++
    " enabled)",
  "  Template groups: " ++ toString p.vocabulary.templates.length,
  "  Policy groups:   " ++ toString (p.groups.length + p.clashGroups.length)]

/-- The engine that an evaluation uses; what the call gives wins over the settings. -/
def engineOf (s : Settings) (p : Pack) (nodes : NodeSnapshot) (policy : Option Policy)
    (ignoresDialers : Bool) : Engine where
  provider := nodes.provider
  vocabulary := p.vocabulary
  policy := policy.getD s.policy
  templateLimit := s.templateLimit
  keepsDialers := !ignoresDialers && s.keepsDialers

/-- **The run of a command.** -/
def Command.run (s : Surroundings) : Command → Outcome Run
  | .validate path => do .ok { output := packSummary path (← s.pack path) }
  | .evaluate path nodesPath policy ignoresDialers asJson => do
    let p ← s.pack path
    let nodes ← p.snapshot (← NodeList.ofFile s.files (.ofText nodesPath))
    let e := engineOf s.settings p nodes policy ignoresDialers
    let pass ← e.pass p.rules nodes.provider.nodes
    let output ← Outcome.ofFault
      (if asJson then laidOut true pass.toValue else passTable p.subscription nodes pass)
    .ok { output, journal := pass.journal, exitCode := if pass.errors.isEmpty then 0 else 1 }
  | .listRecords path => do
    let records ← Outcome.ofFault (← s.pack path).records
    .ok { output := ← Outcome.ofFault (laidOut false (.list (records.map (·.toValue)))) }
  | .listOptions path => do
    let v ← match path with
      | some path => do .ok (← s.pack path).vocabulary
      | none => .ok Vocabulary.standard
    .ok { output := ← Outcome.ofFault (laidOut false v.options) }

/-- **The run that a refusal makes**: its text and its details. -/
def Run.ofRefusal (r : Refusal) : Except Fault Run := do
  let report := r.report
  let details ← if report.details.isEmpty then .ok [] else laidOut true (.dict report.details)
  .ok { complaint := ("ERROR " ++ report.text) :: details, exitCode := 2 }

/-- **The run of an invocation** in an environment, and how its log is written. -/
def Invocation.run (now : DateTime) (files : Files) (env : Table String) (i : Invocation) :
    Outcome (Run × LogSetup) := do
  let settings ← Outcome.ofFault (Settings.ofEnvironment env)
  let setup ← Outcome.ofFault (LogSetup.make settings i.logLevel none)
  match i.command.run { now, files, settings } with
  | .ok r => .ok (r, setup)
  | .error (.refused r) => do .ok (← Outcome.ofFault (Run.ofRefusal r), setup)
  | .error f => .error f

/-! ## Files -/

/-- The template that the data of a pack names. -/
def templatePath? (pack : Path) (v : Value) : Option Path :=
  match v.entries?.bind (Entries.get? · "clash_template") with
  | some (.str t) => if t.isEmpty then none else some (pack.parent.join (.ofText t))
  | _ => none

/-- The files of a pack, as far as those already read tell. -/
def packPaths (files : Files) (path : String) : List Path :=
  let p := Path.ofText path
  p :: ((files.value p).toOption.bind (templatePath? p)).toList

/-- **The files that a command reads**, as far as those already read tell: what it names, and the
template that a pack names. -/
def Command.paths (files : Files) : Command → List Path
  | .validate path | .listRecords path | .listOptions (some path) => packPaths files path
  | .evaluate path nodes .. => .ofText nodes :: packPaths files path
  | .listOptions none => []

end DialPlan.CommandLine
