import DialPlan.Decision.Basic
import DialPlan.Text.Letters

/-!
# Settings

What can be set from the environment: the level and the form of the log, the policy, the limit on
templates, and whether nodes keep their dialers.  A variable that is not set leaves the default.
-/

namespace DialPlan

/-- **The form of log lines.** -/
inductive LogForm
  | json
  | text
  deriving DecidableEq, Repr, Inhabited

/-- The name of a form. -/
def LogForm.name : LogForm → String
  | json => "json"
  | text => "text"

/-- **The settings of a run.** -/
structure Settings where
  logLevel : String := "INFO"
  logForm : LogForm := .json
  policy : Policy := .failClosed
  templateLimit : Int := 8
  keepsDialers : Bool := true
  deriving DecidableEq, Repr, Inhabited

namespace Settings

/-- The variables that settings are read from. -/
def variableNames : List String :=
  ["CHAINRULES_LOG_LEVEL", "CHAINRULES_LOG_FORMAT", "CHAINRULES_RESOLUTION_POLICY",
    "CHAINRULES_MAX_TEMPLATE_DEPTH", "CHAINRULES_PRESERVE_DIALER"]

/-- The words for true. -/
def trueWords : List String := ["1", "true", "yes", "on"]

/-- The form of a word, in any case. -/
def readForm (word : String) : Except Fault LogForm :=
  let w := Text.lower word
  if w = "json" then .ok .json
  else if w = "text" then .ok .text
  else .error (.unknownLogFormat w)

/-- A limit of at least one. -/
def readLimit (word : String) : Except Fault Int :=
  match readSignedDigits word with
  | none => .error (.notAnInteger 10 word)
  | some (negative, digits) =>
    if digitLimit < digits.length then .error (.tooManyDigits digits.length)
    else
      let n := signedValue negative digits
      if n < 1 then .error .templateDepthTooSmall else .ok n

/-- **The settings of an environment.** -/
def ofEnvironment (env : Table String) : Except Fault Settings := do
  let word (name default : String) : String := (env.get? name).getD default
  let logForm ← readForm (word "CHAINRULES_LOG_FORMAT" "json")
  let templateLimit ← readLimit (word "CHAINRULES_MAX_TEMPLATE_DEPTH" "8")
  let policy ← Policy.ofValue
    (.str (Text.lower (word "CHAINRULES_RESOLUTION_POLICY" Policy.failClosed.name)))
  .ok
    { logLevel := Text.upper (word "CHAINRULES_LOG_LEVEL" "INFO")
      logForm, policy, templateLimit
      keepsDialers := trueWords.contains (Text.lower (word "CHAINRULES_PRESERVE_DIALER" "true")) }

end Settings

end DialPlan
