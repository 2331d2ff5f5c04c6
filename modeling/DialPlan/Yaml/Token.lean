import DialPlan.Json.Reader
import DialPlan.Yaml.Cursor

/-!
# Tokens

The marks and the scalars of a text.  Blocks are delimited by indentation, so a token for the start
or the end of a block may stand where the text has no character for it.

A key is only known as one when its colon is met.  Until then its place is remembered (`KeyPlace`),
one place per level of brackets; a place is dropped when the line ends or the key grows too long.
When the colon comes, the tokens for the key are put in at that place.
-/

namespace DialPlan.Yaml

/-- **What a directive says.** -/
inductive Directive
  /-- The first number of the version that the text is written for. -/
  | version (major : Nat)
  /-- A handle, and what it stands for in tags. -/
  | handle (name expansion : String)
  | other
  deriving DecidableEq, Repr

/-- **A token.** -/
inductive Token
  | directive (d : Directive)
  | documentStart
  | documentEnd
  | sequenceStart
  | mappingStart
  | blockEnd
  | listOpen
  | listClose
  | mapOpen
  | mapClose
  | entry
  | comma
  | key
  | value
  | alias (name : String)
  | anchor (name : String)
  /-- A tag; without a handle it is given in full. -/
  | tag (handle : Option String) (suffix : String)
  /-- A scalar; plain when it is written without quotes. -/
  | scalar (plain : Bool) (text : String)
  deriving DecidableEq, Repr

/-! ## Scalars -/

/-- The breaks behind a line break inside quotes, where no separator may stand. -/
def quotedBreaks : Nat → Cursor → Option (List Char × Cursor)
  | 0, _ => none
  | fuel + 1, c =>
    if c.isAtSeparator then none
    else
      let c := c.skipWhile fun ch => ch == ' ' || ch == '\t'
      if isBreak c.peek then do
        let (ch, c) := c.takeBreak
        let (rest, c) ← quotedBreaks fuel c
        some (ch ++ rest, c)
      else some ([], c)

/-- One line break is a space, more are all but the first. -/
def foldBreaks (first rest : List Char) : List Char :=
  if first != ['\n'] then first ++ rest else if rest.isEmpty then [' '] else rest

/-- A gap inside quotes. -/
def quotedGap (c : Cursor) : Option (List Char × Cursor) :=
  let blanks := c.run fun ch => ch == ' ' || ch == '\t'
  let c := c.skip blanks.length
  if isBreak c.peek then do
    let (first, c) := c.takeBreak
    let (rest, c) ← quotedBreaks (c.rest.length + 1) c
    some (foldBreaks first rest, c)
  else some (blanks, c)

/-- The character of a one-letter escape. -/
def escapedChar? (c : Char) : Option Char :=
  match c with
  | '0' => some '\x00'
  | 'a' => some '\x07'
  | 'b' => some '\x08'
  | 't' | '\t' => some '\t'
  | 'n' => some '\n'
  | 'v' => some '\x0b'
  | 'f' => some '\x0c'
  | 'r' => some '\r'
  | 'e' => some '\x1b'
  | ' ' => some ' '
  | '"' => some '"'
  | '\\' => some '\\'
  | '/' => some '/'
  | 'N' => some '\u0085'
  | '_' => some '\u00a0'
  | 'L' => some '\u2028'
  | 'P' => some '\u2029'
  | _ => none

/-- The number of digits of an escape by code. -/
def codeLength? (c : Char) : Option Nat :=
  match c with
  | 'x' => some 2
  | 'u' => some 4
  | 'U' => some 8
  | _ => none

/-- The value of hexadecimal digits. -/
def hexNumber? (cs : List Char) : Option Nat :=
  cs.foldlM (fun n c => (Json.hexValue? c).map (16 * n + ·)) 0

/-- An escape, behind its backslash. -/
def quotedEscape (c : Cursor) : Option (List Char × Cursor) :=
  match escapedChar? c.peek, codeLength? c.peek with
  | some ch, _ => some ([ch], c.step)
  | none, some n => do
    let ds := c.step.rest.take n
    let code ← if ds.length = n then hexNumber? ds else none
    if code < 0x110000 then some ([Json.unitValue code], c.skip (n + 1)) else none
  | none, none =>
    if isBreak c.peek then
      let (_, c) := c.takeBreak
      quotedBreaks (c.rest.length + 1) c
    else none

/-- The text of a quoted scalar, behind its opening quote. -/
def quotedText (double : Bool) : Nat → Cursor → Option (List Char × Cursor)
  | 0, _ => none
  | fuel + 1, c =>
    let goOn (part : List Char) (c : Cursor) : Option (List Char × Cursor) := do
      let (rest, c) ← quotedText double fuel c
      some (part ++ rest, c)
    let ch := c.peek
    if ch == endMark then none
    else if isGap ch then do
      let (part, c) ← quotedGap c
      goOn part c
    else if double then
      if ch == '"' then some ([], c.step)
      else if ch == '\\' then do
        let (part, c) ← quotedEscape c.step
        goOn part c
      else goOn [ch] c.step
    else if ch == '\'' then
      if c.peekAt 1 == '\'' then goOn ['\''] (c.skip 2) else some ([], c.step)
    else goOn [ch] c.step

/-- **A quoted scalar.** -/
def scanQuoted (c : Cursor) : Option (Token × Cursor) := do
  let (text, c) ← quotedText (c.peek == '"') (c.rest.length + 1) c.step
  some (.scalar false (String.ofList text), c)

/-- The end of a word of a plain scalar. -/
def plainStop (inFlow : Bool) (c : Cursor) (n : Nat) : Bool :=
  let ch := c.peekAt n
  let after := c.peekAt (n + 1)
  isGap ch ||
    (ch == ':' && (isGap after || (inFlow && ",[]\x7b\x7d".toList.contains after))) ||
    (inFlow && ",?[]\x7b\x7d".toList.contains ch)

/-- The length of a word of a plain scalar. -/
def plainLength (inFlow : Bool) (c : Cursor) : Nat → Nat → Nat
  | 0, n => n
  | fuel + 1, n => if plainStop inFlow c n then n else plainLength inFlow c fuel (n + 1)

/-- The breaks behind a line break in a plain scalar; none when a separator comes. -/
def plainBreaks : Nat → Cursor → Option (List Char) × Cursor
  | 0, c => (none, c)
  | fuel + 1, c =>
    if c.peek == ' ' then plainBreaks fuel c.step
    else if isBreak c.peek then
      let (ch, c) := c.takeBreak
      if c.isAtSeparator then (none, c)
      else
        let (rest, c) := plainBreaks fuel c
        (rest.map (ch ++ ·), c)
    else (some [], c)

/-- What stands between two words of a plain scalar, where the next may begin, and whether a line
ended; nothing between them ends the scalar. -/
def plainGap (c : Cursor) : List Char × Cursor × Bool :=
  let blanks := c.run (· == ' ')
  let c := c.skip blanks.length
  if isBreak c.peek then
    let (first, c) := c.takeBreak
    if c.isAtSeparator then ([], c, true)
    else
      match plainBreaks (c.rest.length + 1) c with
      | (some rest, c) => (foldBreaks first rest, c, true)
      | (none, c) => ([], c, true)
  else (blanks, c, false)

/-- **The words of a plain scalar** with the gaps between them, and whether a line ended behind the
last of them; `gap` and `ended` are what stands before the next word. -/
def plainText (inFlow : Bool) (indent : Int) :
    Nat → List Char → Bool → Cursor → List Char × Cursor × Bool
  | 0, _, ended, c => ([], c, ended)
  | fuel + 1, gap, ended, c =>
    let n := plainLength inFlow c c.rest.length 0
    if c.peek == '#' || n = 0 then ([], c, ended)
    else
      let word := gap ++ c.rest.take n
      let (next, c, ended) := plainGap (c.skip n)
      if next.isEmpty || c.peek == '#' || (!inFlow && Int.ofNat c.column < indent) then
        (word, c, ended)
      else
        let (rest, c, ended) := plainText inFlow indent fuel next ended c
        (word ++ rest, c, ended)

/-- How the end of a block scalar is cut: all breaks go, one stays, or all stay. -/
inductive Chomping
  | strip
  | clip
  | keep
  deriving DecidableEq, Repr

/-- The mark of a cut. -/
def chompingOf? (c : Char) : Option Chomping :=
  if c == '-' then some .strip else if c == '+' then some .keep else none

/-- A digit other than zero. -/
def indentDigit? (c : Char) : Option Nat :=
  if '1' ≤ c && c ≤ '9' then some (c.toNat - 48) else none

/-- The marks behind `|` or `>`: a cut and a depth, in either order. -/
def blockMarks (c : Cursor) : Option (Chomping × Option Nat × Cursor) :=
  let done (m : Chomping) (n : Option Nat) (c : Cursor) : Option (Chomping × Option Nat × Cursor) :=
    if isBreakOrEnd c.peek || c.peek == ' ' then some (m, n, c) else none
  match chompingOf? c.peek with
  | some m =>
    match indentDigit? c.step.peek with
    | some n => done m (some n) (c.skip 2)
    | none => done m none c.step
  | none =>
    match indentDigit? c.peek with
    | some n =>
      match chompingOf? c.step.peek with
      | some m => done m (some n) (c.skip 2)
      | none => done .clip (some n) c.step
    | none => done .clip none c

/-- The rest of a line: spaces and a comment. -/
def lineEnd (c : Cursor) : Option Cursor :=
  let c := c.skipWhile (· == ' ')
  let c := if c.peek == '#' then c.skipWhile (!isBreakOrEnd ·) else c
  if isBreakOrEnd c.peek then some c.takeBreak.2 else none

/-- The empty lines before the first line of a block scalar, and the deepest column among them. -/
def blockLead : Nat → Nat → Cursor → List Char × Nat × Cursor
  | 0, deepest, c => ([], deepest, c)
  | fuel + 1, deepest, c =>
    if c.peek == ' ' then
      let c := c.step
      blockLead fuel (max deepest c.column) c
    else if isBreak c.peek then
      let (ch, c) := c.takeBreak
      let (rest, deepest, c) := blockLead fuel deepest c
      (ch ++ rest, deepest, c)
    else ([], deepest, c)

/-- The empty lines before the next line of a block scalar of a given depth. -/
def blockBreaks (depth : Nat) : Nat → Cursor → List Char × Cursor
  | 0, c => ([], c)
  | fuel + 1, c =>
    let c := c.skipSpacesTo depth
    if isBreak c.peek then
      let (ch, c) := c.takeBreak
      let (rest, c) := blockBreaks depth fuel c
      (ch ++ rest, c)
    else ([], c)

/-- Whether another line of the block follows here. -/
def blockGoesOn (depth : Nat) (c : Cursor) : Bool := c.column == depth && c.peek != endMark

/-- The lines of a block scalar, with the empty lines before them; its last break and the empty
lines behind it are given apart. -/
def blockLines (folded : Bool) (depth : Nat) :
    Nat → List Char → Cursor → List Char × List Char × List Char × Cursor
  | 0, _, c => ([], [], [], c)
  | fuel + 1, breaks, c =>
    let isText (ch : Char) : Bool := ch != ' ' && ch != '\t'
    let startsText := isText c.peek
    let line := c.run (!isBreakOrEnd ·)
    let (last, c) := (c.skip line.length).takeBreak
    let (next, c) := blockBreaks depth (c.rest.length + 1) c
    if blockGoesOn depth c then
      let joint :=
        if folded && last == ['\n'] && startsText && isText c.peek then
          (if next.isEmpty then [' '] else [])
        else last
      let (text, last, left, c) := blockLines folded depth fuel next c
      (breaks ++ line ++ joint ++ text, last, left, c)
    else (breaks ++ line, last, next, c)

/-- **A block scalar**, inside a block of the given indentation. -/
def scanBlock (indent : Int) (c : Cursor) : Option (Token × Cursor) := do
  let folded := c.peek == '>'
  let (cut, extra, c) ← blockMarks c.step
  let c ← lineEnd c
  let least := (max (indent + 1) 1).toNat
  let (breaks, depth, c) := match extra with
    | some n =>
      let depth := least + n - 1
      let (breaks, c) := blockBreaks depth (c.rest.length + 1) c
      (breaks, depth, c)
    | none =>
      let (breaks, deepest, c) := blockLead (c.rest.length + 1) 0 c
      (breaks, max least deepest, c)
  let (text, last, left, c) :=
    if blockGoesOn depth c then blockLines folded depth (c.rest.length + 1) breaks c
    else ([], [], breaks, c)
  let tail := match cut with
    | .strip => []
    | .clip => last
    | .keep => last ++ left
  some (.scalar false (String.ofList (text ++ tail)), c)

/-! ## Names, tags and directives -/

/-- A character of an anchor's name. -/
def isNameChar (c : Char) : Bool := c.isAlphanum || c == '-' || c == '_'

/-- An anchor or an alias: its name, behind a mark. -/
def scanName (make : String → Token) (c : Cursor) : Option (Token × Cursor) :=
  let name := c.step.run isNameChar
  let c := c.skip (name.length + 1)
  if name.isEmpty then none
  else if isGap c.peek || "?:,]\x7d%@`".toList.contains c.peek then
    some (make (String.ofList name), c)
  else none

/-- A space, a line break or the end. -/
def endsWord (c : Char) : Bool := isBreakOrEnd c || c == ' '

/-- A character of an address; the percent sign starts an escape. -/
def isAddressChar (c : Char) : Bool := c.isAlphanum || "-;/?:@&=+$,_.!~*'()[]%".toList.contains c

/-- The bytes of escapes in a row. -/
def addressBytes : Nat → Cursor → Option (List UInt8 × Cursor)
  | 0, c => some ([], c)
  | fuel + 1, c =>
    if c.peek == '%' then do
      let code ← hexNumber? [c.peekAt 1, c.peekAt 2]
      let (bytes, c) ← addressBytes fuel (c.skip 3)
      some (UInt8.ofNat code :: bytes, c)
    else some ([], c)

/-- The characters of an address. -/
def addressText : Nat → Cursor → Option (List Char × Cursor)
  | 0, c => some ([], c)
  | fuel + 1, c =>
    if c.peek == '%' then do
      let (bytes, c) ← addressBytes c.rest.length c
      let part ← Text.ofUtf8? bytes
      let (rest, c) ← addressText fuel c
      some (part.toList ++ rest, c)
    else if isAddressChar c.peek then do
      let (rest, next) ← addressText fuel c.step
      some (c.peek :: rest, next)
    else some ([], c)

/-- An address; it is not empty. -/
def scanAddress (c : Cursor) : Option (String × Cursor) :=
  if isAddressChar c.peek then
    (addressText (c.rest.length + 1) c).map fun (text, c) => (String.ofList text, c)
  else none

/-- The handle of a tag: a mark alone, or a name between two. -/
def scanHandle (c : Cursor) : Option (String × Cursor) :=
  if c.peek != '!' then none
  else if c.peekAt 1 == ' ' then some ("!", c.step)
  else
    let name := c.step.run isNameChar
    if c.peekAt (name.length + 1) == '!' then
      some (String.ofList ('!' :: name ++ ['!']), c.skip (name.length + 2))
    else none

/-- **A tag**: given in full, the mark alone, or a handle and what comes behind it. -/
def scanTag (c : Cursor) : Option (Token × Cursor) := do
  let (tag, c) ←
    if c.peekAt 1 == '<' then do
      let (address, c) ← scanAddress (c.skip 2)
      if c.peek == '>' then some (Token.tag none address, c.step) else none
    else if isGap (c.peekAt 1) then some (Token.tag none "!", c.step)
    else do
      let named := (c.step.run (!endsWord ·)).contains '!'
      let (handle, c) ← if named then scanHandle c else some ("!", c.step)
      let (suffix, c) ← scanAddress c
      some (Token.tag (some handle) suffix, c)
  if endsWord c.peek then some (tag, c) else none

/-- A number, at least one digit long. -/
def scanNumber (c : Cursor) : Option (Nat × Cursor) :=
  let digits := c.run Char.isDigit
  if digits.isEmpty then none else some (digitsValue digits, c.skip digits.length)

/-- The two numbers of a version. -/
def scanVersion (c : Cursor) : Option (Directive × Cursor) := do
  let (major, c) ← scanNumber (c.skipWhile (· == ' '))
  if c.peek != '.' then none
  let (_, c) ← scanNumber c.step
  if endsWord c.peek then some (.version major, c) else none

/-- A handle and what it stands for. -/
def scanExpansion (c : Cursor) : Option (Directive × Cursor) := do
  let (handle, c) ← scanHandle (c.skipWhile (· == ' '))
  if c.peek != ' ' then none
  let (expansion, c) ← scanAddress (c.skipWhile (· == ' '))
  if endsWord c.peek then some (.handle handle expansion, c) else none

/-- **A directive**, behind its mark. -/
def scanDirective (c : Cursor) : Option (Directive × Cursor) := do
  let name := c.run isNameChar
  let c := c.skip name.length
  if name.isEmpty || !endsWord c.peek then none
  let (d, c) ←
    if name == "YAML".toList then scanVersion c
    else if name == "TAG".toList then scanExpansion c
    else some (.other, c.skipWhile (!isBreakOrEnd ·))
  some (d, ← lineEnd c)

/-! ## The scan -/

/-- **A place where a key may have begun.** -/
structure KeyPlace where
  /-- How many tokens stand before it. -/
  before : Nat
  /-- Whether only a key can stand there. -/
  required : Bool
  index : Nat
  line : Nat
  column : Nat

/-- **The state of a scan.** -/
structure Scan where
  cursor : Cursor
  /-- The depth of brackets. -/
  flow : Nat := 0
  /-- The column of the current block, below zero outside of all. -/
  indent : Int := -1
  outer : List Int := []
  /-- Whether a key may begin here. -/
  keyAllowed : Bool := true
  places : List (Nat × KeyPlace) := []
  /-- The tokens so far, the last one first. -/
  tokens : List Token := []
  count : Nat := 0

namespace Scan

/-- Add a token. -/
def emit (s : Scan) (t : Token) : Scan :=
  { s with tokens := t :: s.tokens, count := s.count + 1 }

/-- Put a token in where so many tokens stand before it. -/
def emitAt (s : Scan) (before : Nat) (t : Token) : Scan :=
  { s with tokens := s.tokens.insertIdx (s.count - before) t, count := s.count + 1 }

/-- Go on from a cursor. -/
def moveTo (s : Scan) (c : Cursor) : Scan := { s with cursor := c }

/-- The place of the current level. -/
def place? (s : Scan) : Option KeyPlace := s.places.lookup s.flow

/-- Forget the place of the current level; one that is required cannot be forgotten. -/
def dropPlace (s : Scan) : Option Scan :=
  match s.place? with
  | none => some s
  | some p =>
    if p.required then none
    else some { s with places := s.places.filter (·.1 != s.flow) }

/-- Remember the present place, if a key may begin here. -/
def savePlace (s : Scan) : Option Scan :=
  if s.keyAllowed then do
    let s ← s.dropPlace
    let c := s.cursor
    let required := s.flow == 0 && s.indent == Int.ofNat c.column
    some { s with
      places := (s.flow, ⟨s.count, required, c.index, c.line, c.column⟩) :: s.places }
  else some s

/-- Whether a place is on another line or too far back. -/
def isStale (s : Scan) (p : KeyPlace) : Bool :=
  p.line != s.cursor.line || 1024 < s.cursor.index - p.index

/-- Forget the places that are stale. -/
def dropStale (s : Scan) : Option Scan :=
  if s.places.any fun (_, p) => s.isStale p && p.required then none
  else some { s with places := s.places.filter fun (_, p) => !s.isStale p }

/-- Close the blocks that are deeper than a column. -/
def closeTo (column : Int) : Nat → Scan → Scan
  | 0, s => s
  | fuel + 1, s =>
    if s.indent > column then
      let s := { s with indent := s.outer.headD (-1), outer := s.outer.tail }
      closeTo column fuel (s.emit .blockEnd)
    else s

/-- Close the blocks that end before a column; inside brackets none do. -/
def unwind (s : Scan) (column : Int) : Scan :=
  if s.flow = 0 then closeTo column (s.outer.length + 1) s else s

/-- Open a block at a column, if it is deeper than the current one. -/
def openAt (s : Scan) (column : Nat) : Bool × Scan :=
  if s.indent < Int.ofNat column then
    (true, { s with indent := Int.ofNat column, outer := s.indent :: s.outer })
  else (false, s)

/-- To the next token: past spaces, comments and line breaks. -/
def toNext : Nat → Scan → Scan
  | 0, s => s
  | fuel + 1, s =>
    let c := if s.cursor.index = 0 && s.cursor.peek == '\ufeff' then s.cursor.step else s.cursor
    let c := c.skipWhile (· == ' ')
    let c := if c.peek == '#' then c.skipWhile (!isBreakOrEnd ·) else c
    if isBreak c.peek then
      toNext fuel
        { s with cursor := c.takeBreak.2, keyAllowed := s.keyAllowed || s.flow == 0 }
    else s.moveTo c

/-- A document mark of three characters. -/
def documentMark (s : Scan) (t : Token) : Option Scan := do
  let s ← (s.unwind (-1)).dropPlace
  some ({ s with cursor := s.cursor.skip 3, keyAllowed := false }.emit t)

/-- A directive, with the line that it stands on. -/
def directive (s : Scan) : Option Scan := do
  let s ← (s.unwind (-1)).dropPlace
  let (d, c) ← scanDirective s.cursor.step
  some ({ s with cursor := c, keyAllowed := false }.emit (.directive d))

/-- An opening bracket. -/
def openFlow (s : Scan) (t : Token) : Option Scan := do
  let s ← s.savePlace
  some ({ s with flow := s.flow + 1, keyAllowed := true, cursor := s.cursor.step }.emit t)

/-- A closing bracket; one has to be open. -/
def closeFlow (s : Scan) (t : Token) : Option Scan := do
  let s ← s.dropPlace
  if s.flow = 0 then none
  else
    some ({ s with flow := s.flow - 1, keyAllowed := false, cursor := s.cursor.step }.emit t)

/-- A comma between items in brackets. -/
def comma (s : Scan) : Option Scan := do
  let s ← { s with keyAllowed := true }.dropPlace
  some ((s.moveTo s.cursor.step).emit .comma)

/-- Open a block for a mark that stands in it; outside of brackets the mark has to be where a key
may begin. -/
def openFor (s : Scan) (t : Token) : Option Scan :=
  if s.flow = 0 then
    if s.keyAllowed then
      let (opened, s) := s.openAt s.cursor.column
      some (if opened then s.emit t else s)
    else none
  else some s

/-- The mark of a list item. -/
def entry (s : Scan) : Option Scan := do
  let s ← s.openFor .sequenceStart
  let s ← { s with keyAllowed := true }.dropPlace
  some ((s.moveTo s.cursor.step).emit .entry)

/-- The mark of a key. -/
def keyMark (s : Scan) : Option Scan := do
  let s ← s.openFor .mappingStart
  let s ← { s with keyAllowed := s.flow == 0 }.dropPlace
  some ((s.moveTo s.cursor.step).emit .key)

/-- The mark of a value: what began at the remembered place was a key. -/
def valueMark (s : Scan) : Option Scan :=
  match s.place? with
  | some p => do
    let s := { s with places := s.places.filter (·.1 != s.flow) }
    let s := s.emitAt p.before .key
    let s :=
      if s.flow = 0 then
        let (opened, s) := s.openAt p.column
        if opened then s.emitAt p.before .mappingStart else s
      else s
    some ({ s with keyAllowed := false, cursor := s.cursor.step }.emit .value)
  | none => do
    let s ← s.openFor .mappingStart
    let s ← { s with keyAllowed := s.flow == 0 }.dropPlace
    some ((s.moveTo s.cursor.step).emit .value)

/-- An anchor, an alias or a tag. -/
def named (s : Scan) (scan : Cursor → Option (Token × Cursor)) : Option Scan := do
  let s ← s.savePlace
  let (t, c) ← scan s.cursor
  some ({ s with keyAllowed := false, cursor := c }.emit t)

/-- A scalar over several lines. -/
def block (s : Scan) : Option Scan := do
  let s ← { s with keyAllowed := true }.dropPlace
  let (t, c) ← scanBlock s.indent s.cursor
  some ((s.moveTo c).emit t)

/-- A quoted scalar. -/
def quoted (s : Scan) : Option Scan := do
  let s ← s.savePlace
  let (t, c) ← scanQuoted s.cursor
  some ({ s with keyAllowed := false, cursor := c }.emit t)

/-- A plain scalar. -/
def plain (s : Scan) : Option Scan := do
  let s ← s.savePlace
  let (text, c, lineEnded) :=
    plainText (s.flow != 0) (s.indent + 1) (s.cursor.rest.length + 1) [] false s.cursor
  some ({ s with keyAllowed := lineEnded, cursor := c }.emit (.scalar true (String.ofList text)))

/-- Characters that start no plain scalar. -/
def plainStarts (s : Scan) : Bool :=
  let ch := s.cursor.peek
  !(isGap ch || "-?:,[]\x7b\x7d#&*!|>'\"%@`".toList.contains ch) ||
    (!isGap (s.cursor.peekAt 1) && (ch == '-' || (s.flow == 0 && (ch == '?' || ch == ':'))))

/-- The end of the text. -/
def finish (s : Scan) : Option Scan := (s.unwind (-1)).dropPlace

/-- **The next token**, at its first character. -/
def next (s : Scan) : Option Scan :=
  let c := s.cursor
  let ch := c.peek
  let gapBehind := isGap (c.peekAt 1)
  if ch == '%' && c.column = 0 then s.directive
  else if c.column = 0 && c.isAtSeparator then
    s.documentMark (if ch == '-' then .documentStart else .documentEnd)
  else if ch == '[' then s.openFlow .listOpen
  else if ch == '\x7b' then s.openFlow .mapOpen
  else if ch == ']' then s.closeFlow .listClose
  else if ch == '\x7d' then s.closeFlow .mapClose
  else if ch == ',' then s.comma
  else if ch == '-' && gapBehind then s.entry
  else if ch == '?' && (s.flow != 0 || gapBehind) then s.keyMark
  else if ch == ':' && (s.flow != 0 || gapBehind) then s.valueMark
  else if ch == '*' then s.named (scanName .alias)
  else if ch == '&' then s.named (scanName .anchor)
  else if ch == '!' then s.named scanTag
  else if (ch == '|' || ch == '>') && s.flow = 0 then s.block
  else if ch == '\'' || ch == '"' then s.quoted
  else if s.plainStarts then s.plain
  else none

/-- All tokens. -/
def loop : Nat → Scan → Option Scan
  | 0, _ => none
  | fuel + 1, s => do
    let s ← (s.toNext (s.cursor.rest.length + 1)).dropStale
    let s := s.unwind (Int.ofNat s.cursor.column)
    if s.cursor.rest.isEmpty then s.finish else loop fuel (← s.next)

end Scan

/-- A character that a text may hold. -/
def isAllowed (c : Char) : Bool :=
  let n := Text.code c
  n == 0x9 || n == 0xA || n == 0xD || (0x20 ≤ n && n ≤ 0x7E) || n == 0x85 ||
    (0xA0 ≤ n && n ≤ 0xD7FF) || (0xE000 ≤ n && n ≤ 0xFFFD) || 0x10000 ≤ n

/-- **The tokens of a text**, or none when it has a mistake. -/
def tokens? (s : String) : Option (List Token) :=
  if s.toList.all isAllowed then
    (Scan.loop (s.length + 2) { cursor := .ofText s }).map (·.tokens.reverse)
  else none

end DialPlan.Yaml
