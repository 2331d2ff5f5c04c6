import DialPlan.Text.Printable
import DialPlan.Text.Encoding

/-!
# Quoted texts

How a text is shown inside a message: between single quotes, or between double quotes when it holds
a single quote and no double one, with the chosen quote and the backslash escaped and every
character that is not printable written by its code.  Complaints about a text that cannot be encoded
show its surrogates in the same way.
-/

namespace DialPlan.Text

/-- A small hexadecimal digit. -/
def hexDigit (n : Nat) : Char :=
  if n < 10 then Char.ofNat (48 + n) else Char.ofNat (87 + n)

/-- The last `width` hexadecimal digits of a number. -/
def hexDigits : Nat → Nat → List Char
  | 0, _ => []
  | width + 1, n => hexDigits width (n / 16) ++ [hexDigit (n % 16)]

/-- The escape of a character by its code: two, four or eight digits, whichever is enough. -/
def codeEscape (n : Nat) : List Char :=
  if n < 0x100 then '\\' :: 'x' :: hexDigits 2 n
  else if n < 0x10000 then '\\' :: 'u' :: hexDigits 4 n
  else '\\' :: 'U' :: hexDigits 8 n

/-- How one character is shown between the given quotes. -/
def quotedChar (quote c : Char) : List Char :=
  if c == quote || c == '\\' then ['\\', c]
  else if c == '\n' then ['\\', 'n']
  else if c == '\r' then ['\\', 'r']
  else if c == '\t' then ['\\', 't']
  else if isPrintable c then [c]
  else codeEscape (code c)

/-- Double quotes spare an escape when only single quotes occur. -/
def quoteFor (cs : List Char) : Char :=
  if cs.contains '\'' && !cs.contains '"' then '"' else '\''

/-- **A text between quotes.** -/
def quoted (s : String) : String :=
  let quote := quoteFor s.toList
  String.ofList (quote :: s.toList.flatMap (quotedChar quote) ++ [quote])

/-- **Bytes between quotes**: printable ASCII as it is, everything else by its code. -/
def quotedBytes (bytes : List UInt8) : String :=
  let cs := (ofLatin bytes).toList
  let quote := quoteFor cs
  let shown (c : Char) : List Char :=
    if c.toNat < 0x7F then quotedChar quote c else codeEscape c.toNat
  String.ofList ('b' :: quote :: cs.flatMap shown ++ [quote])

/-! ## Texts that cannot be encoded -/

/-- What encoding complains about surrogates in a row, from an index on. -/
def surrogateComplaint (index : Nat) (run : List Char) : Option String :=
  match run with
  | [] => none
  | [c] =>
    some ("'utf-8' codec can't encode character '" ++ String.ofList (codeEscape (code c)) ++
      "' in position " ++ toString index ++ ": surrogates not allowed")
  | _ =>
    some ("'utf-8' codec can't encode characters in position " ++ toString index ++ "-" ++
      toString (index + run.length - 1) ++ ": surrogates not allowed")

/-- **What encoding a text complains about**, if it holds a surrogate: the first row of them. -/
def encodingComplaint? (s : String) : Option String :=
  let before := s.toList.takeWhile (!isSurrogate ·)
  surrogateComplaint before.length ((s.toList.drop before.length).takeWhile isSurrogate)

/-- What encoding a path complains about; surrogates that stand for bytes are fine, as long as no
other follows in the same row. -/
def pathComplaint? (s : String) : Option String :=
  rows 0 s.toList
where
  /-- The rows of surrogates from an index on; `index` is the place of the first character. -/
  rows : Nat → List Char → Option String
    | _, [] => none
    | index, c :: cs =>
      if isSurrogate c && !isByteSurrogate c then
        surrogateComplaint index (c :: cs.takeWhile isSurrogate)
      else rows (index + 1) cs

end DialPlan.Text
