import DialPlan.Decision.Basic
import DialPlan.Text.Digit

/-!
# Words of a command line

A word is a switch, an operand, or the divider `--`, after which every word is an operand.

* A long switch may be shortened as far as it stays unambiguous, and the text after an equals sign
  is attached to it.
* Short switches may be run together; the first one is met before anything behind it is looked at,
  but a dash or an equals sign cannot be run on.
* A single dash, a negative number and an unknown switch with a space in it are operands.
-/

namespace DialPlan.CommandLine

/-- **A switch.** -/
inductive Switch
  | help
  | logLevel
  | policy
  | ignoreExisting
  | json
  deriving DecidableEq, Repr, Inhabited

namespace Switch

/-- The spellings of a switch. -/
def spellings : Switch → List String
  | help => ["-h", "--help"]
  | logLevel => ["--log-level"]
  | policy => ["--policy"]
  | ignoreExisting => ["--ignore-existing"]
  | json => ["--json"]

/-- Whether a switch takes a text. -/
def takesText : Switch → Bool
  | logLevel | policy => true
  | help | ignoreExisting | json => false

/-- Whether a switch takes a text of this wording. -/
def accepts (s : Switch) (text : String) : Bool :=
  match s with
  | logLevel => true
  | policy => (Policy.ofName? text).isSome
  | help | ignoreExisting | json => false

end Switch

/-- **A word, as a command reads it.** -/
inductive Word
  | operand (text : String)
  | divider
  /-- A switch, with the text attached to it. -/
  | switch (s : Switch) (attached : Option String)
  /-- A switch with a text that it does not take. -/
  | overloaded
  /-- A switch that the command does not have. -/
  | unknown
  deriving DecidableEq, Repr, Inhabited

namespace Word

/-- The switch of a spelling. -/
def spelled? (known : List Switch) (spelling : String) : Option Switch :=
  known.find? fun s => s.spellings.contains spelling

/-- A word up to its first equals sign, and the text after it. -/
def cut (word : List Char) : List Char × Option (List Char) :=
  let stem := word.takeWhile (· != '=')
  (stem, ((word.drop stem.length).tail?))

/-- A switch with a text attached by an equals sign. -/
def attach (s : Switch) (text : List Char) : Word :=
  if s.takesText then .switch s (some (String.ofList text)) else .overloaded

/-- Whether these letters can be run on to a short switch. -/
def runsOn (known : List Switch) : List Char → Bool
  | [] => true
  | c :: rest =>
    if c == '-' || c == '=' then false
    else if (spelled? known (String.ofList ['-', c])).isSome then runsOn known rest
    else true

/-- The readings of a word as a long switch cut short. -/
def shortened (known : List Switch) (word : List Char) : List Word :=
  let (stem, attached) := cut word
  known.flatMap fun s =>
    (s.spellings.filter fun spelling => stem.isPrefixOf spelling.toList).map fun _ =>
      match attached with
      | some text => attach s text
      | none => .switch s none

/-- The readings of a word as a short switch with more run on. -/
def runTogether (known : List Switch) (word : List Char) : List Word :=
  match spelled? known (String.ofList (word.take 2)) with
  | some s =>
    let letters := word.drop 2
    [if s.takesText then .switch s (some (String.ofList letters))
      else if runsOn known letters then .switch s none else .overloaded]
  | none => []

/-- A negative number in decimal digits. -/
def isNegativeNumber (word : List Char) : Bool :=
  match word with
  | '-' :: rest =>
    let whole := rest.takeWhile Text.isDigit
    match rest.drop whole.length with
    | [] | ['\n'] => !whole.isEmpty
    | '.' :: fraction =>
      let digits := fraction.takeWhile Text.isDigit
      let after := fraction.drop digits.length
      !digits.isEmpty && (after.isEmpty || after == ['\n'])
    | _ => false
  | _ => false

/-- **A word of a command with these switches**; none when it is ambiguous. -/
def read? (known : List Switch) (word : String) : Option Word :=
  match word.toList with
  | '-' :: second :: rest =>
    let letters := '-' :: second :: rest
    if word = "--" then some .divider
    else
      match spelled? known word with
      | some s => some (.switch s none)
      | none =>
        match cut letters with
        | (stem, some text) =>
          match spelled? known (String.ofList stem) with
          | some s => some (attach s text)
          | none => unspelled second letters
        | (_, none) => unspelled second letters
  | _ => some (.operand word)
where
  /-- A word that is no switch in full. -/
  unspelled (second : Char) (letters : List Char) : Option Word :=
    match if second == '-' then shortened known letters else runTogether known letters with
    | [w] => some w
    | _ :: _ :: _ => none
    | [] =>
      some (if isNegativeNumber letters || letters.contains ' ' then .operand word else .unknown)

/-- **The words of a command**; none when one of them is ambiguous. -/
def readAll? (known : List Switch) : List String → Option (List Word)
  | [] => some []
  | word :: rest => do
    match ← read? known word with
    | .divider => some (.divider :: rest.map .operand)
    | w => some (w :: (← readAll? known rest))

end Word

end DialPlan.CommandLine
