import DialPlan.Pattern.Basic

/-!
# Reading patterns

`Pattern.read` turns the text of a pattern into its syntax tree or into the first flaw, with the
position at which the flaw shows.

The text is taken token by token: a character, or a backslash with the character after it.  A lone
backslash at the end is noticed as soon as the token before it has been taken.  Recursion is by
fuel, twice the length of the text and a little more: every step takes a token or opens a group.
-/

namespace DialPlan.PatternReader

/-- A token of a pattern: a character, escaped or not. -/
inductive Token
  | plain (c : Char)
  | escaped (c : Char)
  deriving DecidableEq, Repr

namespace Token

/-- The characters of a token. -/
def text : Token → String
  | plain c => String.ofList [c]
  | escaped c => String.ofList ['\\', c]

/-- The length of a token. -/
def length : Token → Nat
  | plain _ => 1
  | escaped _ => 2

end Token

/-- The flags in force at a place of a pattern. -/
structure Flags where
  ignoreCase : Bool := false
  multiline : Bool := false
  dotAll : Bool := false
  verbose : Bool := false
  ascii : Bool := false

namespace Flags

/-- How letters are compared under the flags. -/
def fold (f : Flags) : CaseFold :=
  if f.ignoreCase then (if f.ascii then .ascii else .wide) else .exact

end Flags

/-- Where a reader stands, and what it knows of the groups so far. -/
structure State where
  source : String
  /-- Whether the pattern was written in bytes. -/
  bytes : Bool
  rest : List Char
  position : Nat
  flags : Flags
  /-- The letters for the kind of the classes among the flags of the whole pattern. -/
  typeLetters : List Char
  /-- The width of each group from the first one on; an open group has none yet. -/
  widths : List (Option Width)
  names : List (String × Nat)
  /-- The number of groups before the outermost open look-behind. -/
  lookbehind : Option Nat
  /-- Groups that conditions refer to, each with its first position. -/
  conditions : List (Nat × Nat)

/-- A reading step. -/
abbrev Read := StateT State (Except PatternError)

/-- Report a flaw, `offset` characters before the current place. -/
def flaw {α : Type} (f : PatternFlaw) (offset : Nat) : Read α := fun r =>
  .error ⟨f, some (r.position - offset), r.source⟩

/-- Report a flaw that has no place. -/
def breakOff {α : Type} (f : PatternFlaw) : Read α := fun r => .error ⟨f, none, r.source⟩

/-- The token that comes next. -/
def peek : Read (Option Token) := fun r =>
  .ok (match r.rest with
    | [] => none
    | '\\' :: c :: _ => some (.escaped c)
    | c :: _ => some (.plain c), r)

/-- A backslash may not be the last character. -/
def checkEnd : Read Unit := fun r =>
  if r.rest = ['\\'] then .error ⟨.endsInEscape, some (r.source.length - 1), r.source⟩
  else .ok ((), r)

/-- Take a token. -/
def next : Read (Option Token) := do
  let token ← peek
  let n := match token with | some t => t.length | none => 0
  modify fun r => { r with rest := r.rest.drop n, position := r.position + n }
  checkEnd
  pure token

/-- Take the next token if it is the given character. -/
def accept (c : Char) : Read Bool := do
  if (← peek) = some (.plain c) then
    let _ ← next
    pure true
  else pure false

/-- The current position. -/
def here : Read Nat := fun r => .ok (r.position, r)

/-- Report a flaw at a given position. -/
def flawAt {α : Type} (f : PatternFlaw) (position : Nat) : Read α := fun r =>
  .error ⟨f, some position, r.source⟩

/-- Take up to `count` characters of a class. -/
def takeUpTo (good : Char → Bool) : Nat → Read (List Char)
  | 0 => pure []
  | n + 1 => do
    match ← peek with
    | some (.plain c) =>
      if good c then
        let _ ← next
        pure (c :: (← takeUpTo good n))
      else pure []
    | _ => pure []

/-- Take characters up to a terminator, which is taken too. -/
def takeUntil (terminator : Char) (what : String) : Nat → String → Read String
  | 0, taken => pure taken
  | fuel + 1, taken => do
    match ← next with
    | none =>
      if taken.isEmpty then flaw (.missingName what) 0
      else flaw (.unterminatedName (String.ofList [terminator])) taken.length
    | some token =>
      if token = .plain terminator then
        if taken.isEmpty then flaw (.missingName what) 1 else pure taken
      else takeUntil terminator what fuel (taken ++ token.text)

/-- The value of a hexadecimal digit. -/
def hexValue (c : Char) : Nat :=
  if c.isDigit then c.toNat - 48 else if 'a' ≤ c then c.toNat - 87 else c.toNat - 55

/-- A hexadecimal digit. -/
def isHex (c : Char) : Bool :=
  c.isDigit || ('a' ≤ c && c ≤ 'f') || ('A' ≤ c && c ≤ 'F')

/-- An octal digit. -/
def isOctal (c : Char) : Bool := '0' ≤ c && c ≤ '7'

/-- The value of digits in a base. -/
def valueIn (base : Nat) (cs : List Char) : Nat :=
  cs.foldl (fun n c => base * n + hexValue c) 0

/-- The characters that a letter after a backslash stands for. -/
def controlEscape (c : Char) : Option Nat :=
  match c with
  | 'a' => some 7
  | 'f' => some 12
  | 'n' => some 10
  | 'r' => some 13
  | 't' => some 9
  | 'v' => some 11
  | '\\' => some 92
  | _ => none

/-- The class that a letter after a backslash stands for. -/
def classEscape (c : Char) : Option SetItem :=
  match c with
  | 'd' => some (.named .digit false)
  | 'D' => some (.named .digit true)
  | 's' => some (.named .blank false)
  | 'S' => some (.named .blank true)
  | 'w' => some (.named .word false)
  | 'W' => some (.named .word true)
  | _ => none

/-- The code point of a hexadecimal escape with a fixed number of digits. -/
def hexEscape (c : Char) (count : Nat) : Read Nat := do
  let ds ← takeUpTo isHex count
  let text := String.ofList ('\\' :: c :: ds)
  if ds.length != count then flaw (.incompleteEscape text) text.length
  else
    let code := valueIn 16 ds
    if 0x10FFFF < code then flaw (.badEscape text) text.length else pure code

/-- Escapes that mean the same inside and outside a set: the code point, if it is one of them. -/
def commonEscape (c : Char) : Read (Option Nat) := do
  if c == 'x' then pure (some (← hexEscape c 2))
  else if (← get).bytes then pure none
  else if c == 'u' then pure (some (← hexEscape c 4))
  else if c == 'U' then pure (some (← hexEscape c 8))
  else if c == 'N' then
    if ← accept '\x7b' then
      let r ← get
      let name ← takeUntil '\x7d' "character name" (r.rest.length + 1) ""
      flaw (.unknownCharacterName name) (name.length + 4)
    else flaw .missingBrace 0
  else pure none

/-- An escape inside a set. -/
def setEscape (c : Char) : Read SetItem := do
  if let some code := if c == 'b' then some 8 else controlEscape c then
    return .range code code
  if let some item := classEscape c then return item
  if let some code ← commonEscape c then return .range code code
  if isOctal c then
    let ds := c :: (← takeUpTo isOctal 2)
    let code := valueIn 8 ds
    let text := String.ofList ('\\' :: ds)
    if 0o377 < code then flaw (.octalTooLarge text) text.length
    else return .range code code
  else if c.isDigit || c.isAlpha then flaw (.badEscape (String.ofList ['\\', c])) 2
  else return .range (Text.code c) (Text.code c)

/-- Whether a group is closed, so that it can be referred to. -/
def isClosed (r : State) (group : Nat) : Option Width :=
  if group = 0 then none else (r.widths[group - 1]?).join

/-- Groups defined inside an open look-behind cannot be referred to in it. -/
def checkLookbehind (group : Nat) : Read Unit := do
  let r ← get
  match r.lookbehind with
  | none => pure ()
  | some before =>
    if (isClosed r group).isNone then flaw .openReference 0
    else if before < group then flaw .lookbehindReference 0
    else pure ()

/-- A reference to a group, whose number was written in `length` characters. -/
def reference (flags : Flags) (group length : Nat) : Read Pattern := do
  let r ← get
  match isClosed r group with
  | none => flaw .openReference length
  | some w =>
    checkLookbehind group
    pure (.backref group flags.fold w)

/-- An escape outside a set. -/
def escape (flags : Flags) (c : Char) : Read Pattern := do
  match c with
  | 'A' => return .anchor .textStart
  | 'Z' => return .anchor .finalEnd
  | 'b' => return .anchor (.boundary flags.ascii)
  | 'B' => return .anchor (.inside flags.ascii)
  | _ =>
  if let some item := classEscape c then return .set false [item] flags.fold flags.ascii
  if let some code := controlEscape c then return .char code flags.fold
  if let some code ← commonEscape c then return .char code flags.fold
  if c == '0' then
    return .char (valueIn 8 (← takeUpTo isOctal 2)) flags.fold
  else if c.isDigit then
    let more ← takeUpTo Char.isDigit 1
    let third ←
      if isOctal c && more.all isOctal && !more.isEmpty then takeUpTo isOctal 1 else pure []
    let ds := c :: more ++ third
    let text := String.ofList ('\\' :: ds)
    if third.isEmpty then
      let group := valueIn 10 ds
      let r ← get
      if group ≤ r.widths.length then reference flags group text.length
      else flaw (.invalidReference group) (text.length - 1)
    else
      let code := valueIn 8 ds
      if 0o377 < code then flaw (.octalTooLarge text) text.length
      else return .char code flags.fold
  else if c.isAlpha then flaw (.badEscape (String.ofList ['\\', c])) 2
  else return .char (Text.code c) flags.fold

/-- One member of a set, from its token. -/
def setItem (token : Token) : Read SetItem :=
  match token with
  | .plain c => pure (.range (Text.code c) (Text.code c))
  | .escaped c => setEscape c

/-- The single character of a set member. -/
def singleCode? : SetItem → Option Nat
  | .range a b => if a = b then some a else none
  | .named .. => none

/-- The members of a set up to its closing bracket; `start` is where the set began. -/
def setItems (start : Nat) : Nat → List SetItem → Read (List SetItem)
  | 0, items => pure items
  | fuel + 1, items => do
    match ← next with
    | none => flawAt .unterminatedSet start
    | some token =>
      if token = .plain ']' && !items.isEmpty then pure items
      else
        let item ← setItem token
        if ← accept '-' then
          match ← next with
          | none => flawAt .unterminatedSet start
          | some upper =>
            if upper = .plain ']' then pure (items ++ [item, .range 45 45])
            else
              let last ← setItem upper
              let bad := PatternFlaw.badRange token.text upper.text
              match singleCode? item, singleCode? last with
              | some a, some b =>
                if b < a then flaw bad (token.length + 1 + upper.length)
                else setItems start fuel (items ++ [.range a b])
              | _, _ => flaw bad (token.length + 1 + upper.length)
        else setItems start fuel (items ++ [item])

/-- A character set, after its opening bracket. -/
def readSet (flags : Flags) : Read Pattern := do
  let start := (← here) - 1
  let negated ← accept '^'
  let r ← get
  let items ← setItems start (r.rest.length + 1) []
  pure (.set negated items flags.fold flags.ascii)

/-- The characters that start a group name. -/
def isNameStart (c : Char) : Bool := Text.isWord c && !Text.isDigit c

/-- A name that a group may have. -/
def isGroupName (name : String) : Bool :=
  match name.toList with
  | [] => false
  | c :: rest => isNameStart c && rest.all Text.isWord

/-- Refuse a name that a group may not have. -/
def checkGroupName (name : String) : Read Unit :=
  if isGroupName name then pure () else flaw (.badName name) (name.length + 1)

/-- What an item of a sequence is to a repetition mark after it. -/
inductive ItemKind
  | position
  | repetition
  | other
  deriving DecidableEq

/-- An item of a sequence. -/
structure Item where
  pattern : Pattern
  kind : ItemKind

/-- Flag letters. -/
def isFlag (c : Char) : Bool := "iLmsxatu".toList.contains c

/-- A letter in the sense of flag messages. -/
def isLetter (c : Char) : Bool :=
  c.isAlpha || (0x80 ≤ c.toNat && Text.isWord c && !Text.isDigit c)

/-- The letters that turn flags on: the letters up to and with the character that ends them. -/
def flagsOn : Nat → List Char → Char → Read (List Char × Char)
  | 0, on, c => pure (on, c)
  | fuel + 1, on, c => do
    let r ← get
    if c == 'L' && !r.bytes then flaw .localeFlag 0
    if c == 'u' && r.bytes then flaw .unicodeFlag 0
    let on := on ++ [c]
    if on.contains 'a' && (on.contains 'u' || on.contains 'L') then flaw .flagsClash 0
    match ← next with
    | none => flaw (.missingAfterFlags "-, : or )") 0
    | some (.plain letter) =>
      if letter == ')' || letter == '-' || letter == ':' then pure (on, letter)
      else if isFlag letter then flagsOn fuel on letter
      else
        flaw (if isLetter letter then .unknownFlag else .missingAfterFlags "-, : or )") 1
    | some token => flaw (.missingAfterFlags "-, : or )") token.length

/-- The letters that turn flags off, up to the colon. -/
def flagsOff : Nat → List Char → Char → Read (List Char)
  | 0, off, _ => pure off
  | fuel + 1, off, c => do
    if c == 'a' || c == 'u' || c == 'L' then flaw .typeFlagOff 0
    let off := off ++ [c]
    match ← next with
    | none => flaw (.missingAfterFlags ":") 0
    | some (.plain letter) =>
      if letter == ':' then pure off
      else if isFlag letter then flagsOff fuel off letter
      else flaw (if isLetter letter then .unknownFlag else .missingAfterFlags ":") 1
    | some token => flaw (.missingAfterFlags ":") token.length

/-- The flags after some letters were turned on and others off. -/
def applyFlags (f : Flags) (on off : List Char) : Flags where
  ignoreCase := (f.ignoreCase || on.contains 'i') && !off.contains 'i'
  multiline := (f.multiline || on.contains 'm') && !off.contains 'm'
  dotAll := (f.dotAll || on.contains 's') && !off.contains 's'
  verbose := (f.verbose || on.contains 'x') && !off.contains 'x'
  ascii := (f.ascii && !on.contains 'u') || on.contains 'a'

/-- A flag group after its first letter: the flags for its body, or `none` when it set the flags of
the whole pattern. -/
def readFlags (flags : Flags) (c : Char) : Read (Option Flags) := do
  let r ← get
  let fuel := r.rest.length + 1
  let (on, stop) ← if c == '-' then pure ([], '-') else flagsOn fuel [] c
  if stop == ')' then
    modify fun r => { r with
      flags := applyFlags r.flags on []
      typeLetters := r.typeLetters ++ on.filter "auL".toList.contains }
    return none
  let off ←
    if stop == '-' then
      match ← next with
      | none => flaw (.missingAfterFlags "flag") 0
      | some (.plain letter) =>
        if isFlag letter then flagsOff fuel [] letter
        else flaw (if isLetter letter then .unknownFlag else .missingAfterFlags "flag") 1
      | some token => flaw (.missingAfterFlags "flag") token.length
    else pure []
  if on.any off.contains then flaw .flagOnAndOff 1
  return some (applyFlags flags on off)

/-- The bounds of a braced repetition; `none` when the brace stands for itself. -/
def readBounds : Read (Option (String × String)) := do
  let r ← get
  let fuel := r.rest.length
  let low ← takeUpTo Char.isDigit fuel
  let high ← if ← accept ',' then takeUpTo Char.isDigit fuel else pure low
  if ← accept '\x7d' then pure (some (String.ofList low, String.ofList high))
  else
    set r
    pure none

/-- The largest repetition count that can be asked for. -/
def repetitionLimit : Nat := 4294967295

/-- The count of a bound; without digits there is none. -/
def boundValue (digits : String) : Read (Option Nat) :=
  if digits.isEmpty then pure none
  else if digitLimit < digits.length then breakOff (.tooManyDigits digits.length)
  else
    let count := valueIn 10 digits.toList
    if repetitionLimit ≤ count then breakOff .repetitionTooLarge else pure (some count)

/-- Take the mark that says how a repetition chooses its count. -/
def readGreed : Read Greed := do
  if ← accept '?' then pure .lazy
  else if ← accept '+' then pure .possessive
  else pure .greedy

/-- Repeat the last item of a sequence, for a mark of `length` characters before `start`. -/
def repeatLast (items : List Item) (least : Nat) (greatest : Option Nat) (start : Nat) :
    Read (List Item) := do
  match items with
  | [] => flawAt .nothingToRepeat (start - 1)
  | last :: before =>
    match last.kind with
    | .position => flawAt .nothingToRepeat (start - 1)
    | .repetition => flawAt .multipleRepeat (start - 1)
    | .other =>
      let greed ← readGreed
      pure (⟨.repeated greed least greatest last.pattern, .repetition⟩ :: before)

/-- Skip a comment group up to its closing bracket. -/
def skipComment (start : Nat) : Nat → Read Unit
  | 0 => pure ()
  | fuel + 1 => do
    match ← next with
    | none => flawAt .unterminatedComment start
    | some token => if token = .plain ')' then pure () else skipComment start fuel

/-- Skip the rest of a line. -/
def skipLine : Nat → Read Unit
  | 0 => pure ()
  | fuel + 1 => do
    match ← next with
    | none => pure ()
    | some token => if token = .plain '\n' then pure () else skipLine fuel

/-- Blanks that a verbose pattern ignores. -/
def isVerboseBlank (c : Char) : Bool :=
  c == ' ' || (9 ≤ c.toNat && c.toNat ≤ 13)

/-- The number from which on no group can be referred to. -/
def groupLimit : Nat := 2147483647

/-- The group a condition refers to, by its name or by an integer. -/
def conditionGroup : Read Nat := do
  let r ← get
  let name ← takeUntil ')' "group name" (r.rest.length + 1) ""
  if isGroupName name then
    match r.names.lookup name with
    | some group => pure group
    | none => flaw (.unknownName name) (name.length + 1)
  else
    match readSignedDigits name with
    | none => flaw (.badName name) (name.length + 1)
    | some (negative, digits) =>
      let group := digitsValue digits
      if digitLimit < digits.length || (negative && group != 0) then
        flaw (.badName name) (name.length + 1)
      else if group = 0 then flaw .badGroupNumber (name.length + 1)
      else if groupLimit ≤ group then flaw (.invalidReference group) (name.length + 1)
      else
        let position := (← here) - name.length - 1
        modify fun r =>
          if (r.conditions.lookup group).isSome then r
          else { r with conditions := r.conditions ++ [(group, position)] }
        pure group

/-- Open a group, named or not. -/
def openGroup (name : Option String) : Read Nat := do
  let r ← get
  let group := r.widths.length + 1
  match name with
  | none => pure ()
  | some n =>
    match r.names.lookup n with
    | some first => flaw (.repeatedName n group first) (n.length + 1)
    | none => modify fun r => { r with names := r.names ++ [(n, group)] }
  modify fun r => { r with widths := r.widths ++ [none] }
  pure group

/-- Close a group, whose width is known from then on. -/
def closeGroup (group : Nat) (body : Pattern) : Read Unit :=
  modify fun r => { r with widths := r.widths.set (group - 1) (some body.width) }

/-- The closing bracket of a group that began at `start`. -/
def closeBracket (start : Nat) : Read Unit := do
  if ← accept ')' then pure () else flawAt .unterminatedGroup start

mutual

/-- Alternatives up to a closing bracket or the end. -/
def readAlternatives : Nat → Flags → (nested : Bool) → Read Pattern
  | 0, _, _ => pure .empty
  | fuel + 1, flags, nested => do
    let first ← readSequence fuel flags (!nested) []
    let flags ← if nested then pure flags else pure (← get).flags
    let rest ← readBranches fuel flags
    pure (Pattern.altAll (first :: rest))

/-- The alternatives after the first one. -/
def readBranches : Nat → Flags → Read (List Pattern)
  | 0, _ => pure []
  | fuel + 1, flags => do
    if ← accept '|' then
      let branch ← readSequence fuel flags false []
      pure (branch :: (← readBranches fuel flags))
    else pure []

/-- A sequence, with the items read so far, the last one first.  Flags of the whole pattern may be
set where `first` holds and nothing was read. -/
def readSequence : Nat → Flags → (first : Bool) → List Item → Read Pattern
  | 0, _, _, items => pure (Pattern.seqAll (items.reverse.map (·.pattern)))
  | fuel + 1, flags, first, items => do
    let other (p : Pattern) : Read Pattern :=
      readSequence fuel flags first (⟨p, .other⟩ :: items)
    match ← peek with
    | none => pure (Pattern.seqAll (items.reverse.map (·.pattern)))
    | some (.escaped c) =>
      let _ ← next
      let p ← escape flags c
      match p with
      | .anchor _ => readSequence fuel flags first (⟨p, .position⟩ :: items)
      | _ => other p
    | some (.plain c) =>
      if c == '|' || c == ')' then pure (Pattern.seqAll (items.reverse.map (·.pattern)))
      else
        let _ ← next
        if flags.verbose && isVerboseBlank c then readSequence fuel flags first items
        else if flags.verbose && c == '#' then
          let r ← get
          skipLine (r.rest.length + 1)
          readSequence fuel flags first items
        else
          match c with
          | '[' => other (← readSet flags)
          | '.' => other (.any flags.dotAll)
          | '^' =>
            let at_ := if flags.multiline then Anchor.lineStart else .textStart
            readSequence fuel flags first (⟨.anchor at_, .position⟩ :: items)
          | '$' =>
            let at_ := if flags.multiline then Anchor.lineEnd else .textEnd
            readSequence fuel flags first (⟨.anchor at_, .position⟩ :: items)
          | '?' =>
            readSequence fuel flags first (← repeatLast items 0 (some 1) (← here))
          | '*' => readSequence fuel flags first (← repeatLast items 0 none (← here))
          | '+' => readSequence fuel flags first (← repeatLast items 1 none (← here))
          | '\x7b' =>
            let start ← here
            if (← peek) = some (.plain '\x7d') then other (.char 0x7B flags.fold)
            else
              match ← readBounds with
              | none => other (.char 0x7B flags.fold)
              | some (low, high) =>
                let least := (← boundValue low).getD 0
                let greatest ← boundValue high
                if greatest.any (· < least) then flawAt .boundsReversed start
                readSequence fuel flags first (← repeatLast items least greatest start)
          | '(' =>
            match ← readGroup fuel flags first items.isEmpty with
            | some p => other p
            | none =>
              let flags ← if first && items.isEmpty then pure (← get).flags else pure flags
              readSequence fuel flags first items
          | _ => other (.char (Text.code c) flags.fold)

/-- A group after its opening bracket; nothing when it leaves no item behind. -/
def readGroup : Nat → Flags → (first bare : Bool) → Read (Option Pattern)
  | 0, _, _, _ => pure none
  | fuel + 1, flags, first, bare => do
    let start := (← here) - 1
    let remaining := (← get).rest.length + 1
    let capture (name : Option String) : Read (Option Pattern) := do
      let group ← openGroup name
      let body ← readAlternatives fuel flags true
      closeBracket start
      closeGroup group body
      pure (some (.group group body))
    if !(← accept '?') then capture none
    else
      match ← next with
      | none => flaw .unexpectedEnd 0
      | some (.escaped c) => flaw (.unknownExtension (String.ofList ['?', '\\', c])) 3
      | some (.plain 'P') =>
        if ← accept '<' then
          let name ← takeUntil '>' "group name" remaining ""
          checkGroupName name
          capture (some name)
        else if ← accept '=' then
          let name ← takeUntil ')' "group name" remaining ""
          checkGroupName name
          match (← get).names.lookup name with
          | none => flaw (.unknownName name) (name.length + 1)
          | some group => pure (some (← reference flags group (name.length + 1)))
        else
          match ← next with
          | none => flaw .unexpectedEnd 0
          | some token => flaw (.unknownExtension ("?P" ++ token.text)) (token.length + 2)
      | some (.plain ':') =>
        let body ← readAlternatives fuel flags true
        closeBracket start
        pure (some body)
      | some (.plain '#') =>
        skipComment start remaining
        pure none
      | some (.plain '=') => readLook fuel flags start true false
      | some (.plain '!') => readLook fuel flags start true true
      | some (.plain '<') =>
        match ← next with
        | none => flaw .unexpectedEnd 0
        | some (.plain '=') => readLook fuel flags start false false
        | some (.plain '!') => readLook fuel flags start false true
        | some token => flaw (.unknownExtension ("?<" ++ token.text)) (token.length + 2)
      | some (.plain '(') =>
        let group ← conditionGroup
        checkLookbehind group
        let yes ← readSequence fuel flags false []
        let no ←
          if ← accept '|' then
            let branch ← readSequence fuel flags false []
            if (← peek) = some (.plain '|') then flaw .tooManyBranches 0
            pure branch
          else pure .empty
        closeBracket start
        pure (some (.ifGroup group yes no))
      | some (.plain '>') =>
        let body ← readAlternatives fuel flags true
        closeBracket start
        pure (some (.atomic body))
      | some (.plain c) =>
        if isFlag c || c == '-' then
          match ← readFlags flags c with
          | none =>
            if first && bare then pure none else flawAt .misplacedFlags start
          | some inner =>
            let body ← readAlternatives fuel inner true
            closeBracket start
            pure (some body)
        else flaw (.unknownExtension (String.ofList ['?', c])) 2

/-- A look around the current place, after its mark. -/
def readLook : Nat → Flags → (start : Nat) → (ahead negated : Bool) → Read (Option Pattern)
  | 0, _, _, _, _ => pure none
  | fuel + 1, flags, start, ahead, negated => do
    let outer := (← get).lookbehind
    if !ahead && outer.isNone then
      modify fun r => { r with lookbehind := some r.widths.length }
    let body ← readAlternatives fuel flags true
    if !ahead && outer.isNone then modify fun r => { r with lookbehind := none }
    closeBracket start
    pure (some (.look ahead negated body))

end

/-- The flags of the whole pattern may not ask for classes of two kinds. -/
def checkTypeLetters : Read Unit := fun r =>
  if r.typeLetters.contains 'a' && r.typeLetters.contains 'u' then
    breakOff .asciiAndUnicode r
  else if r.typeLetters.contains 'a' && r.typeLetters.contains 'L' then
    breakOff .asciiAndLocale r
  else .ok ((), r)

/-- A whole pattern. -/
def readAll (fuel : Nat) : Read Pattern := do
  checkEnd
  let p ← readAlternatives fuel (← get).flags false
  checkTypeLetters
  if (← peek).isSome then flaw .unbalanced 0
  let r ← get
  match r.conditions.find? fun c => r.widths.length < c.1 with
  | some (group, position) => flawAt (.invalidReference group) position
  | none => pure ()
  if p.looksFixed then pure p
  else breakOff .variableLookbehind

end DialPlan.PatternReader

namespace DialPlan

/-- Reading a pattern that was written as text or in bytes; the classes of one in bytes are the
ASCII ones. -/
def Pattern.readAs (bytes : Bool) (source : String) : Except PatternError Pattern :=
  let cs := source.toList
  let start : PatternReader.State :=
    { source, bytes, rest := cs, position := 0, flags := { ascii := bytes }, typeLetters := [],
      widths := [], names := [], lookbehind := none, conditions := [] }
  (PatternReader.readAll (2 * cs.length + 8) start).map (·.1)

/-- **Reading a pattern.** -/
def Pattern.read (source : String) : Except PatternError Pattern := readAs false source

/-- **Reading a pattern in bytes**, each byte being the character of its code. -/
def Pattern.readBytes (source : List UInt8) : Except PatternError Pattern :=
  readAs true (Text.ofLatin source)

end DialPlan
