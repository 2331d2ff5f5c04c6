import DialPlan.Fault

/-!
# Writing JSON

A value as JSON text: separators `, ` and `: `, doubles with their shortest digits, keys in the
order of the dictionary.  A style says whether the text is laid out over lines, whether characters
beyond ASCII are escaped, and whether a value that JSON does not have is written as its text or
refused.  An integer of too many digits is refused in every style.
-/

namespace DialPlan.Json

/-- **How JSON is written.** -/
structure Style where
  /-- The indentation of a level, when every item has a line of its own. -/
  indent : Option Nat := none
  /-- Characters beyond ASCII are escaped. -/
  ascii : Bool := false
  /-- Values that JSON does not have are written as their text. -/
  lenient : Bool := false

/-- The escape of a code unit. -/
def unitEscape (n : Nat) : List Char :=
  '\\' :: 'u' :: Text.hexDigits 4 n

/-- The escape of a character beyond ASCII; two units when it needs them. -/
def wideEscape (n : Nat) : List Char :=
  if n < 0x10000 then unitEscape n
  else
    let m := n - 0x10000
    unitEscape (0xD800 + m / 0x400) ++ unitEscape (0xDC00 + m % 0x400)

/-- A character inside a string. -/
def writeChar (ascii : Bool) (c : Char) : List Char :=
  match c with
  | '"' => ['\\', '"']
  | '\\' => ['\\', '\\']
  | '\n' => ['\\', 'n']
  | '\r' => ['\\', 'r']
  | '\t' => ['\\', 't']
  | '\x08' => ['\\', 'b']
  | '\x0c' => ['\\', 'f']
  | c =>
    if c.toNat < 0x20 then unitEscape c.toNat
    else if ascii && 0x7F ≤ c.toNat then wideEscape (Text.code c)
    else [c]

/-- A string with its quotes. -/
def writeString (ascii : Bool) (s : String) : List Char :=
  '"' :: s.toList.flatMap (writeChar ascii) ++ ['"']

/-- A double. -/
def writeFloat (x : Binary64) : List Char :=
  match x with
  | .nan => "NaN".toList
  | .infinite negative => (if negative then "-Infinity" else "Infinity").toList
  | x => x.text.toList

/-- A key; numbers, booleans and null stand for their texts. -/
def keyText (key : Value) : Except Fault String :=
  match key with
  | .str s => .ok s
  | .bool b => .ok (if b then "true" else "false")
  | .null => .ok "null"
  | .int n => numeralOf n
  | .float x => .ok (String.ofList (writeFloat x))
  | v => .error (.keyNotWritable v.kindName)

/-- A line break with the indentation of a depth, when the style has lines. -/
def lineBreak (style : Style) (depth : Nat) : List Char :=
  match style.indent with
  | some n => '\n' :: List.replicate (n * depth) ' '
  | none => []

/-- What stands between two items. -/
def between (style : Style) (depth : Nat) : List Char :=
  match style.indent with
  | some _ => ',' :: lineBreak style depth
  | none => [',', ' ']

mutual

/-- A value at a depth. -/
def writeValue (style : Style) (depth : Nat) : Value → Except Fault (List Char)
  | .null => .ok "null".toList
  | .bool b => .ok (if b then "true" else "false").toList
  | .int n => String.toList <$> numeralOf n
  | .float x => .ok (writeFloat x)
  | .str s => .ok (writeString style.ascii s)
  | .list items | .tuple items =>
    if items.isEmpty then .ok ['[', ']']
    else do
      let body ← writeItems style (depth + 1) items
      .ok ('[' :: lineBreak style (depth + 1) ++ body ++ lineBreak style depth ++ [']'])
  | .dict entries =>
    if entries.isEmpty then .ok ['\x7b', '\x7d']
    else do
      let body ← writeEntries style (depth + 1) entries
      .ok ('\x7b' :: lineBreak style (depth + 1) ++ body ++ lineBreak style depth ++ ['\x7d'])
  | v =>
    if style.lenient then writeString style.ascii <$> v.asText
    else .error (.notWritable v.kindName)

/-- Items with separators between them. -/
def writeItems (style : Style) (depth : Nat) : List Value → Except Fault (List Char)
  | [] => .ok []
  | v :: vs => do
    let first ← writeValue style depth v
    let rest ← writeItems style depth vs
    .ok (if vs.isEmpty then first else first ++ between style depth ++ rest)

/-- Entries with separators between them. -/
def writeEntries (style : Style) (depth : Nat) :
    List (Value × Value) → Except Fault (List Char)
  | [] => .ok []
  | (k, v) :: es => do
    let key ← keyText k
    let value ← writeValue style depth v
    let rest ← writeEntries style depth es
    let first := writeString style.ascii key ++ ':' :: ' ' :: value
    .ok (if es.isEmpty then first else first ++ between style depth ++ rest)

end

/-- **JSON text of a value** in a style. -/
def write (style : Style) (v : Value) : Except Fault String :=
  (writeValue style 0 v).map String.ofList

end DialPlan.Json
