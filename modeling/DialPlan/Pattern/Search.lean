import DialPlan.Pattern.CaseFold
import DialPlan.Pattern.Reader

/-!
# Searching with a pattern

Backtracking search, leftmost match first.  A pattern is matched in continuation style: `run p k`
tries `p` at a position and hands every way of matching it, in order of preference, to `k`, until
one succeeds.  The recursion is on the pattern; a repetition counts its rounds by fuel, of which
`least + length + 2` is enough because every optional round but the last one takes a character.
-/

namespace DialPlan.Pattern

/-- The spans that groups have matched. -/
abbrev Captures := List (Nat × (Nat × Nat))

/-- A way to go on from a position. -/
abbrev Continuation := Nat → Captures → Option (Nat × Captures)

/-- Membership in a named class. -/
def inClass (cls : CharClass) (ascii : Bool) (c : Char) : Bool :=
  match cls with
  | .digit => if ascii then c.isDigit else Text.isDigit c
  | .blank => if ascii then c == ' ' || (9 ≤ c.toNat && c.toNat ≤ 13) else Text.isBlank c
  | .word => if ascii then c.isAlphanum || c == '_' else Text.isWord c

/-- Membership in one part of a set. -/
def inItem (fold : CaseFold) (ascii : Bool) (c : Char) : SetItem → Bool
  | .range first last =>
    match fold with
    | .exact => first ≤ Text.code c && Text.code c ≤ last
    | _ => (fold.relatives (Text.code c)).any fun n => first ≤ n && n ≤ last
  | .named cls negated => inClass cls ascii c != negated

/-- A word character stands at a position. -/
def wordAt (text : Array Char) (ascii : Bool) (i : Nat) : Bool :=
  match text[i]? with
  | some c => inClass .word ascii c
  | none => false

/-- A position lies between a word character and something else. -/
def isBoundary (text : Array Char) (ascii : Bool) (i : Nat) : Bool :=
  (0 < i && wordAt text ascii (i - 1)) != wordAt text ascii i

/-- Whether a position is as an anchor asks. -/
def holdsAt (text : Array Char) (i : Nat) : Anchor → Bool
  | .textStart => i == 0
  | .lineStart => i == 0 || text[i - 1]? == some '\n'
  | .textEnd => i == text.size || (i + 1 == text.size && text[i]? == some '\n')
  | .lineEnd => i == text.size || text[i]? == some '\n'
  | .finalEnd => i == text.size
  | .boundary ascii => text.size != 0 && isBoundary text ascii i
  | .inside ascii => text.size != 0 && !isBoundary text ascii i

/-- One character that passes a test. -/
def step (text : Array Char) (good : Char → Bool) (k : Continuation) : Continuation :=
  fun i caps =>
    match text[i]? with
    | some c => if good c then k (i + 1) caps else none
    | none => none

/-- As many rounds as possible, then fewer. -/
def greedyRounds (body : Continuation → Continuation) (least : Nat) (greatest : Option Nat)
    (k : Continuation) : Nat → Nat → Option Nat → Continuation
  | 0, _, _ => k
  | fuel + 1, count, last => fun i caps =>
    if count < least then body (greedyRounds body least greatest k fuel (count + 1) last) i caps
    else if greatest.all (count < ·) && last != some i then
      match body (greedyRounds body least greatest k fuel (count + 1) (some i)) i caps with
      | some r => some r
      | none => k i caps
    else k i caps

/-- As few rounds as possible, then more. -/
def lazyRounds (body : Continuation → Continuation) (least : Nat) (greatest : Option Nat)
    (k : Continuation) : Nat → Nat → Option Nat → Continuation
  | 0, _, _ => k
  | fuel + 1, count, last => fun i caps =>
    if count < least then body (lazyRounds body least greatest k fuel (count + 1) last) i caps
    else
      match k i caps with
      | some r => some r
      | none =>
        if greatest.all (count < ·) && last != some i then
          body (lazyRounds body least greatest k fuel (count + 1) (some i)) i caps
        else none

/-- As many rounds as possible, each matched once and for all. -/
def possessiveRounds (body : Continuation → Continuation) (least : Nat) (greatest : Option Nat) :
    Nat → Nat → Option Nat → Continuation
  | 0, _, _ => fun i caps => some (i, caps)
  | fuel + 1, count, last => fun i caps =>
    if count < least then
      match body (fun j c => some (j, c)) i caps with
      | some (j, c) => possessiveRounds body least greatest fuel (count + 1) last j c
      | none => none
    else if greatest.all (count < ·) && last != some i then
      match body (fun j c => some (j, c)) i caps with
      | some (j, c) => possessiveRounds body least greatest fuel (count + 1) (some i) j c
      | none => some (i, caps)
    else some (i, caps)

/-- The text of a span again, at a position. -/
def repeatsAt (text : Array Char) (fold : CaseFold) (first length i : Nat) : Bool :=
  (List.range length).all fun n =>
    match text[first + n]?, text[i + n]? with
    | some a, some b => fold.small (Text.code a) == fold.small (Text.code b)
    | _, _ => false

/-- **Matching a pattern at a position.** -/
def run (text : Array Char) : Pattern → Continuation → Continuation
  | empty, k => k
  | char code fold, k => step text (fun c => fold.equal code (Text.code c)) k
  | any newlines, k => step text (fun c => newlines || c != '\n') k
  | set negated items fold ascii, k =>
    step text (fun c => items.any (inItem fold ascii c) != negated) k
  | anchor at_, k => fun i caps => if holdsAt text i at_ then k i caps else none
  | seq a b, k => run text a (run text b k)
  | alt a b, k => fun i caps =>
    match run text a k i caps with
    | some r => some r
    | none => run text b k i caps
  | repeated greed least greatest body, k => fun i caps =>
    let fuel := least + text.size + 2
    match greed with
    | .greedy => greedyRounds (run text body) least greatest k fuel 0 none i caps
    | .lazy => lazyRounds (run text body) least greatest k fuel 0 none i caps
    | .possessive =>
      match possessiveRounds (run text body) least greatest fuel 0 none i caps with
      | some (j, c) => k j c
      | none => none
  | group index body, k => fun i caps =>
    run text body (fun j c => k j ((index, (i, j)) :: c)) i caps
  | atomic body, k => fun i caps =>
    match run text body (fun j c => some (j, c)) i caps with
    | some (j, c) => k j c
    | none => none
  | look ahead negated body, k => fun i caps =>
    let width := if ahead then 0 else body.width.least
    let found :=
      if i < width then none else run text body (fun j c => some (j, c)) (i - width) caps
    match found with
    | some (_, c) => if negated then none else k i c
    | none => if negated then k i caps else none
  | backref index fold _, k => fun i caps =>
    match caps.lookup index with
    | some (first, last) =>
      if repeatsAt text fold first (last - first) i then k (i + (last - first)) caps else none
    | none => none
  | ifGroup index yes no, k => fun i caps =>
    if (caps.lookup index).isSome then run text yes k i caps else run text no k i caps

/-- A match begins at the position. -/
def matchesAt (p : Pattern) (text : Array Char) (i : Nat) : Bool :=
  (run text p (fun j c => some (j, c)) i []).isSome

/-- **Whether a pattern is found in a text.** -/
def foundIn (p : Pattern) (text : String) : Bool :=
  let cs := text.toList.toArray
  (List.range (cs.size + 1)).any (p.matchesAt cs)

end DialPlan.Pattern
