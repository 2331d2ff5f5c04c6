import DialPlan.CommandLine.Word

/-!
# Invocations

What a command line asks for.  The words before the command belong to the program, those after it to
the command; words that nothing takes are a misuse, but only once all others are read, so that a
call for help before or after them is heard.
-/

namespace DialPlan.CommandLine

/-- **What the program is asked to do.** -/
inductive Command
  /-- Check a pack and count its parts. -/
  | validate (pack : String)
  /-- Decide on the nodes of a list. -/
  | evaluate (pack nodes : String) (policy : Option Policy) (ignoresDialers asJson : Bool)
  /-- Write the records of a pack. -/
  | listRecords (pack : String)
  /-- Write the vocabulary of a pack, or the stock one. -/
  | listOptions (pack : Option String)
  deriving DecidableEq, Repr, Inhabited

/-- **A command with the settings of the call.** -/
structure Invocation where
  command : Command
  logLevel : Option String := none
  deriving DecidableEq, Repr, Inhabited

/-- **Why a command line leads to no invocation.** -/
inductive Stop
  | helpWanted
  | commandMissing
  | misuse
  deriving DecidableEq, Repr, Inhabited

/-- The exit code that a stop ends the program with. -/
def Stop.exitCode : Stop → Nat
  | helpWanted => 0
  | commandMissing => 1
  | misuse => 2

/-- **How the program is called**, line by line. -/
def usage : List String := [
  "usage: dialplan [-h] [--log-level LOG_LEVEL] COMMAND ...",
  "",
  "  validate PACK         check a rule pack",
  "  evaluate PACK NODES   resolve chains for a node list",
  "      --policy fail_closed|fail_open",
  "      --ignore-existing",
  "      --json",
  "  export PACK           print the rule records of a pack",
  "  options [PACK]        print the option lists of a vocabulary"]

/-- **What the words give a command.** -/
structure Gathered where
  /-- The switches and their texts, in order. -/
  switches : List (Switch × String) := []
  operands : List String := []
  /-- Whether a word was met that is unknown. -/
  stray : Bool := false
  deriving DecidableEq, Repr, Inhabited

namespace Gathered

/-- With an operand in front. -/
def withOperand (g : Gathered) (text : String) : Gathered :=
  { g with operands := text :: g.operands }

/-- With a switch in front. -/
def withSwitch (g : Gathered) (s : Switch) (text : String) : Gathered :=
  { g with switches := (s, text) :: g.switches }

/-- Gather what words give, in order; help and misuse end it where they are met. -/
def ofWords : List Word → Except Stop Gathered
  | [] => .ok {}
  | .operand text :: rest => (ofWords rest).map (·.withOperand text)
  | .divider :: rest => ofWords rest
  | .unknown :: rest => (ofWords rest).map fun g => { g with stray := true }
  | .overloaded :: _ => .error .misuse
  | .switch .help _ :: _ => .error .helpWanted
  | .switch s (some text) :: rest =>
    if s.accepts text then (ofWords rest).map (·.withSwitch s text) else .error .misuse
  | .switch s none :: rest =>
    if s.takesText then
      match rest with
      | .operand text :: rest =>
        if s.accepts text then (ofWords rest).map (·.withSwitch s text) else .error .misuse
      | _ => .error .misuse
    else (ofWords rest).map (·.withSwitch s "")

/-- What the words of a command with these switches give; words that are unknown are a misuse. -/
def read (known : List Switch) (words : List String) : Except Stop Gathered :=
  match Word.readAll? known words with
  | none => .error .misuse
  | some ws => do
    let g ← ofWords ws
    if g.stray then .error .misuse else .ok g

/-- Whether a switch was given. -/
def has (g : Gathered) (s : Switch) : Bool := g.switches.any (·.1 = s)

/-- The text of a switch; the last one counts. -/
def textOf? (g : Gathered) (s : Switch) : Option String :=
  (g.switches.reverse.find? (·.1 = s)).map (·.2)

end Gathered

namespace Command

/-- **The command of a name**, with the words after it. -/
def read (name : String) (words : List String) : Except Stop Command :=
  match name with
  | "validate" => do
    match (← Gathered.read [.help] words).operands with
    | [pack] => .ok (.validate pack)
    | _ => .error .misuse
  | "evaluate" => do
    let g ← Gathered.read [.help, .policy, .ignoreExisting, .json] words
    match g.operands with
    | [pack, nodes] =>
      .ok (.evaluate pack nodes ((g.textOf? .policy).bind Policy.ofName?)
        (g.has .ignoreExisting) (g.has .json))
    | _ => .error .misuse
  | "export" => do
    match (← Gathered.read [.help] words).operands with
    | [pack] => .ok (.listRecords pack)
    | _ => .error .misuse
  | "options" => do
    match (← Gathered.read [.help] words).operands with
    | [] => .ok (.listOptions none)
    | [pack] => .ok (.listOptions (if pack.isEmpty then none else some pack))
    | _ => .error .misuse
  | _ => .error .misuse

end Command

namespace Invocation

/-- The switches of the program. -/
def switches : List Switch := [.help, .logLevel]

/-- The invocation of words, after the given log level and perhaps unknown words. -/
def readFrom (logLevel : Option String) (stray : Bool) : List String → Except Stop Invocation
  | [] => .error (if stray then .misuse else .commandMissing)
  | word :: rest =>
    match Word.read? switches word with
    | some (.operand name) => do
      let command ← Command.read name rest
      if stray then .error .misuse else .ok { command, logLevel }
    | some .unknown => readFrom logLevel true rest
    | some (.switch .help _) => .error .helpWanted
    | some (.switch _ (some level)) => readFrom (some level) stray rest
    | some (.switch _ none) =>
      match rest with
      | level :: rest =>
        if Word.read? switches level = some (.operand level) then readFrom (some level) stray rest
        else .error .misuse
      | [] => .error .misuse
    | some .divider | some .overloaded | none => .error .misuse

/-- **The invocation of a command line.**  A word that the program cannot tell apart is a misuse
wherever it stands. -/
def read (words : List String) : Except Stop Invocation :=
  match Word.readAll? switches words with
  | none => .error .misuse
  | some _ => readFrom none false words

end Invocation

end DialPlan.CommandLine
