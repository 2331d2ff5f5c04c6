/-!
# Cursors

A place in a text, with its line and column, and the characters from there on.  The end of the text
shows as the null character, which no text of the format may hold.
-/

namespace DialPlan.Yaml

/-- The character that shows at the end of a text. -/
def endMark : Char := '\x00'

/-- **A line break**, of any of its kinds. -/
def isBreak (c : Char) : Bool :=
  c == '\r' || c == '\n' || c == '\u0085' || c == '\u2028' || c == '\u2029'

/-- A line break or the end. -/
def isBreakOrEnd (c : Char) : Bool := c == endMark || isBreak c

/-- A blank, a line break or the end. -/
def isGap (c : Char) : Bool := isBreakOrEnd c || c == ' ' || c == '\t'

/-- **A place in a text.** -/
structure Cursor where
  rest : List Char
  index : Nat := 0
  line : Nat := 0
  column : Nat := 0

namespace Cursor

/-- The start of a text. -/
def ofText (s : String) : Cursor := { rest := s.toList }

/-- The character at a distance. -/
def peekAt (c : Cursor) (n : Nat) : Char := c.rest.getD n endMark

/-- The character here. -/
def peek (c : Cursor) : Char := c.peekAt 0

/-- Whether a line ends with this character, given what follows it. -/
def endsLine (ch : Char) (rest : List Char) : Bool :=
  ch == '\n' || ch == '\u0085' || ch == '\u2028' || ch == '\u2029' ||
    (ch == '\r' && rest.head? != some '\n')

/-- **One character on.** -/
def step (c : Cursor) : Cursor :=
  match c.rest with
  | [] => c
  | ch :: rest =>
    if endsLine ch rest then ⟨rest, c.index + 1, c.line + 1, 0⟩
    else ⟨rest, c.index + 1, c.line, if ch == '\ufeff' then c.column else c.column + 1⟩

/-- Several characters on. -/
def skip : Nat → Cursor → Cursor
  | 0, c => c
  | n + 1, c => skip n c.step

/-- The characters up to the first that fails a test. -/
def run (p : Char → Bool) (c : Cursor) : List Char := c.rest.takeWhile p

/-- Past the characters that pass a test. -/
def skipWhile (p : Char → Bool) (c : Cursor) : Cursor := c.skip (c.run p).length

/-- Past the spaces, up to a column. -/
def skipSpacesTo (column : Nat) (c : Cursor) : Cursor :=
  c.skip (((c.run (· == ' ')).take (column - c.column)).length)

/-- **Past a line break**, with the character it stands for; nothing when there is none. -/
def takeBreak (c : Cursor) : List Char × Cursor :=
  match c.peek with
  | '\r' => (['\n'], if c.peekAt 1 == '\n' then c.skip 2 else c.step)
  | '\n' | '\u0085' => (['\n'], c.step)
  | '\u2028' => (['\u2028'], c.step)
  | '\u2029' => (['\u2029'], c.step)
  | _ => ([], c)

/-- A separator of documents: three marks, and a gap behind them. -/
def isAtSeparator (c : Cursor) : Bool :=
  let three := c.rest.take 3
  (three == ['-', '-', '-'] || three == ['.', '.', '.']) && isGap (c.peekAt 3)

end Cursor

end DialPlan.Yaml
