import DialPlan.Text.Blank
import DialPlan.Text.Digit
import DialPlan.Text.Letters
import DialPlan.Text.Quoted
import DialPlan.Text.Word
import DialPlan.Number.Decimal

/-!
# Search patterns

The syntax tree of a search pattern, and what can be wrong with the text of one.

Flags are resolved while a pattern is read: every node carries what it needs to know (whether it
ignores case, whether its classes are the ASCII ones), so matching has no ambient state.
-/

namespace DialPlan

/-- How letters are compared. -/
inductive CaseFold
  | exact
  | ascii
  | wide
  deriving DecidableEq, Repr

/-- The named character classes. -/
inductive CharClass
  | digit
  | blank
  | word
  deriving DecidableEq, Repr

/-- A member of a character set. -/
inductive SetItem
  | range (first last : Nat)
  | named (cls : CharClass) (negated : Bool)
  deriving DecidableEq, Repr

/-- Positions a pattern can ask for. -/
inductive Anchor
  | textStart
  | lineStart
  | textEnd
  | lineEnd
  | finalEnd
  | boundary (ascii : Bool)
  | inside (ascii : Bool)
  deriving DecidableEq, Repr

/-- How a repetition chooses its count. -/
inductive Greed
  | greedy
  | lazy
  | possessive
  deriving DecidableEq, Repr

/-- The least and greatest number of characters a pattern can take; no greatest when unbounded. -/
structure Width where
  least : Nat
  greatest : Option Nat
  deriving DecidableEq, Repr

/-- **A search pattern.**  Characters are code points, so that a pattern may name one that no text
can hold. -/
inductive Pattern
  | empty
  | char (code : Nat) (fold : CaseFold)
  | any (newlines : Bool)
  | set (negated : Bool) (items : List SetItem) (fold : CaseFold) (ascii : Bool)
  | anchor (at_ : Anchor)
  | seq (first second : Pattern)
  | alt (first second : Pattern)
  | repeated (greed : Greed) (least : Nat) (greatest : Option Nat) (body : Pattern)
  | group (index : Nat) (body : Pattern)
  | atomic (body : Pattern)
  | look (ahead negated : Bool) (body : Pattern)
  | backref (index : Nat) (fold : CaseFold) (width : Width)
  | ifGroup (index : Nat) (yes no : Pattern)
  deriving Repr

namespace Width

/-- No characters at all. -/
def none : Width := ⟨0, some 0⟩

/-- One after the other. -/
def add (a b : Width) : Width :=
  ⟨a.least + b.least, match a.greatest, b.greatest with
    | some m, some n => some (m + n)
    | _, _ => Option.none⟩

/-- Either of two. -/
def either (a b : Width) : Width :=
  ⟨min a.least b.least, match a.greatest, b.greatest with
    | some m, some n => some (max m n)
    | _, _ => Option.none⟩

/-- Repeated between `least` and `greatest` times. -/
def times (w : Width) (least : Nat) (greatest : Option Nat) : Width :=
  ⟨w.least * least, match w.greatest, greatest with
    | some 0, _ => some 0
    | some m, some n => some (m * n)
    | _, _ => Option.none⟩

/-- The common width of all matches, when there is one. -/
def fixed? (w : Width) : Option Nat :=
  if w.greatest = some w.least then some w.least else Option.none

end Width

namespace Pattern

/-- How many characters a pattern can take. -/
def width : Pattern → Width
  | empty | anchor _ | look .. => .none
  | char .. | any _ | set .. => ⟨1, some 1⟩
  | seq a b => a.width.add b.width
  | alt a b => a.width.either b.width
  | repeated _ least greatest body => body.width.times least greatest
  | group _ body | atomic body => body.width
  | backref _ _ w => w
  | ifGroup _ yes no => yes.width.either no.width

/-- Every look-behind has a fixed width. -/
def looksFixed : Pattern → Bool
  | empty | char .. | any _ | set .. | anchor _ | backref .. => true
  | seq a b | alt a b | ifGroup _ a b => a.looksFixed && b.looksFixed
  | repeated _ _ _ body | group _ body | atomic body => body.looksFixed
  | look ahead _ body => (ahead || body.width.fixed?.isSome) && body.looksFixed

/-- One pattern after the other. -/
def seqAll : List Pattern → Pattern
  | [] => empty
  | [p] => p
  | p :: rest => seq p (seqAll rest)

/-- One pattern or another. -/
def altAll : List Pattern → Pattern
  | [] => empty
  | [p] => p
  | p :: rest => alt p (altAll rest)

end Pattern

/-! ## What can be wrong -/

/-- **What is wrong with the text of a pattern.** -/
inductive PatternFlaw
  | endsInEscape
  | badEscape (text : String)
  | incompleteEscape (text : String)
  | octalTooLarge (text : String)
  | missingBrace
  | unknownCharacterName (name : String)
  | invalidReference (group : Nat)
  | openReference
  | lookbehindReference
  | unterminatedSet
  | badRange (first last : String)
  | nothingToRepeat
  | multipleRepeat
  | boundsReversed
  | repetitionTooLarge
  | tooManyDigits (count : Nat)
  | unexpectedEnd
  | missingName (what : String)
  | unterminatedName (terminator : String)
  | badName (name : String)
  | unknownName (name : String)
  | badGroupNumber
  | unknownExtension (text : String)
  | unterminatedComment
  | unterminatedGroup
  | tooManyBranches
  | misplacedFlags
  | unknownFlag
  | missingAfterFlags (what : String)
  | localeFlag
  | unicodeFlag
  | flagsClash
  | typeFlagOff
  | flagOnAndOff
  | repeatedName (name : String) (group first : Nat)
  | unbalanced
  | asciiAndUnicode
  | asciiAndLocale
  | variableLookbehind
  deriving DecidableEq, Repr

/-- A flaw, where it was found, and the pattern it was found in. -/
structure PatternError where
  flaw : PatternFlaw
  position : Option Nat
  source : String
  deriving DecidableEq, Repr

namespace PatternFlaw

/-- The wording of a flaw. -/
def message : PatternFlaw → String
  | endsInEscape => "bad escape (end of pattern)"
  | badEscape text => "bad escape " ++ text
  | incompleteEscape text => "incomplete escape " ++ text
  | octalTooLarge text => "octal escape value " ++ text ++ " outside of range 0-0o377"
  | missingBrace => "missing \x7b"
  | unknownCharacterName name => "undefined character name " ++ Text.quoted name
  | invalidReference group => "invalid group reference " ++ toString group
  | openReference => "cannot refer to an open group"
  | lookbehindReference => "cannot refer to group defined in the same lookbehind subpattern"
  | unterminatedSet => "unterminated character set"
  | badRange first last => "bad character range " ++ first ++ "-" ++ last
  | nothingToRepeat => "nothing to repeat"
  | multipleRepeat => "multiple repeat"
  | boundsReversed => "min repeat greater than max repeat"
  | repetitionTooLarge => "the repetition number is too large"
  | tooManyDigits count => digitComplaint (some count)
  | unexpectedEnd => "unexpected end of pattern"
  | missingName what => "missing " ++ what
  | unterminatedName terminator => "missing " ++ terminator ++ ", unterminated name"
  | badName name => "bad character in group name " ++ Text.quoted name
  | unknownName name => "unknown group name " ++ Text.quoted name
  | badGroupNumber => "bad group number"
  | unknownExtension text => "unknown extension " ++ text
  | unterminatedComment => "missing ), unterminated comment"
  | unterminatedGroup => "missing ), unterminated subpattern"
  | tooManyBranches => "conditional backref with more than two branches"
  | misplacedFlags => "global flags not at the start of the expression"
  | unknownFlag => "unknown flag"
  | missingAfterFlags what => "missing " ++ what
  | localeFlag => "bad inline flags: cannot use 'L' flag with a str pattern"
  | unicodeFlag => "bad inline flags: cannot use 'u' flag with a bytes pattern"
  | flagsClash => "bad inline flags: flags 'a', 'u' and 'L' are incompatible"
  | typeFlagOff => "bad inline flags: cannot turn off flags 'a', 'u' and 'L'"
  | flagOnAndOff => "bad inline flags: flag turned on and off"
  | repeatedName name group first =>
    "redefinition of group name " ++ Text.quoted name ++ " as group " ++ toString group ++
      "; was group " ++ toString first
  | unbalanced => "unbalanced parenthesis"
  | asciiAndUnicode => "ASCII and UNICODE flags are incompatible"
  | asciiAndLocale => "ASCII and LOCALE flags are incompatible"
  | variableLookbehind => "look-behind requires fixed-width pattern"

end PatternFlaw

/-- The message of a pattern error: the flaw, its position, and line and column in a pattern of
several lines. -/
def PatternError.message (e : PatternError) : String :=
  match e.position with
  | none => e.flaw.message
  | some pos =>
    let before := e.source.toList.take pos
    let place :=
      if e.source.toList.contains '\n' then
        let column := pos - (before.reverse.dropWhile (· != '\n')).length
        " (line " ++ toString (before.count '\n' + 1) ++ ", column " ++
          toString (if before.contains '\n' then column + 1 else pos + 1) ++ ")"
      else ""
    e.flaw.message ++ " at position " ++ toString pos ++ place

end DialPlan
