import DialPlan.Table
import DialPlan.Yaml.Scalar
import DialPlan.Yaml.Token

/-!
# Nodes

The tree that tokens form: scalars, sequences and mappings, in block and in bracket style.  Every
node has a tag, the one that is written or else the one of its form.  A node may be named by an
anchor and stand again wherever an alias names it behind its end.

Every call reads from the tokens that are left and hands on the rest.  A chain of calls that reads
no token is at most four long, so four times the number of tokens is enough fuel.
-/

namespace DialPlan.Yaml

/-- **A node.** -/
inductive Node
  | scalar (tag : Tag) (text : String)
  | sequence (tag : Tag) (items : List Node)
  | mapping (tag : Tag) (entries : List (Node × Node))
  deriving Inhabited

namespace Node

/-- The tag of a node. -/
def tag : Node → Tag
  | scalar t _ | sequence t _ | mapping t _ => t

/-- The node with another tag. -/
def withTag (t : Tag) : Node → Node
  | scalar _ text => scalar t text
  | sequence _ items => sequence t items
  | mapping _ entries => mapping t entries

/-- A node that is not written. -/
def empty : Node := scalar .null ""

end Node

/-- **The tag of a node**, given the one that is written.  A lone mark asks for the tag of the
form. -/
def tagOr (form : Tag) (written : Option String) : Tag :=
  match written with
  | none | some "!" => form
  | some name => .ofName name

/-- The tag of a scalar. -/
def scalarTag (written : Option String) (plain : Bool) (text : String) : Tag :=
  tagOr (if plain || written.isSome then formTag text else .str) written

/-- The handles that every document has. -/
def standardHandles : Table String := [("!", "!"), ("!!", Tag.standardPrefix)]

/-- The tokens that are left, the nodes that have names, and what the handles of tags stand for. -/
structure Remaining where
  tokens : List Token
  anchors : Table Node := []
  handles : Table String := standardHandles

/-- **A step of reading**; none when the tokens do not fit. -/
abbrev Reading (α : Type) := StateT Remaining Option α

namespace Reading

/-- The next token. -/
def peek : Reading (Option Token) := do return (← get).tokens.head?

/-- Past the next token. -/
def advance : Reading Unit := modify fun r => { r with tokens := r.tokens.tail }

/-- Whether the next token is one of several. -/
def at_ (ts : List Token) : Reading Bool := do
  match ← peek with
  | some t => return ts.contains t
  | none => return false

/-- Past a token that has to come next. -/
def expect (t : Token) : Reading Unit := do
  if ← at_ [t] then advance else failure

/-- Past a token, if it comes next. -/
def accept (t : Token) : Reading Bool := do
  if ← at_ [t] then
    advance
    return true
  else return false

/-- Give a node a name, which has to be new. -/
def record (name : String) (n : Node) : Reading Unit := do
  let r ← get
  if (r.anchors.get? name).isSome then failure
  set { r with anchors := r.anchors.put name n }

/-- The node of a name. -/
def anchored (name : String) : Reading Node := do
  match (← get).anchors.get? name with
  | some n => return n
  | none => failure

/-- An anchor, if one comes next. -/
def anchor? : Reading (Option String) := do
  match ← peek with
  | some (.anchor a) =>
    advance
    return some a
  | _ => return none

/-- A tag, if one comes next, with what its handle stands for. -/
def tag? : Reading (Option String) := do
  match ← peek with
  | some (.tag none name) =>
    advance
    return some name
  | some (.tag (some handle) suffix) =>
    match (← get).handles.get? handle with
    | some expansion =>
      advance
      return some (expansion ++ suffix)
    | none => failure
  | _ => return none

/-- The names before a node: an anchor and a tag, in either order. -/
def names : Reading (Option String × Option String) := do
  match ← anchor? with
  | some a => return (some a, ← tag?)
  | none =>
    match ← tag? with
    | some t => return (← anchor?, some t)
    | none => return (none, none)

mutual

/-- **A node**; `block` when block style may be used, `flat` when the items of a list may stand
without a deeper indentation. -/
def node : Nat → Bool → Bool → Reading Node
  | 0, _, _ => failure
  | fuel + 1, block, flat => do
    match ← peek with
    | some (.alias name) =>
      advance
      anchored name
    | _ =>
      let (name, tag) ← names
      let n ← content fuel block flat tag (name.isSome || tag.isSome)
      match name with
      | some a => record a n
      | none => pure ()
      return n

/-- The content of a node with the tag that is written; one with names may be empty. -/
def content : Nat → Bool → Bool → Option String → Bool → Reading Node
  | 0, _, _, _, _ => failure
  | fuel + 1, block, flat, tag, named => do
    let sequence (items : List Node) : Node := .sequence (tagOr .seq tag) items
    let mapping (entries : List (Node × Node)) : Node := .mapping (tagOr .map tag) entries
    match ← peek, flat, block with
    | some (.scalar plain text), _, _ =>
      advance
      return .scalar (scalarTag tag plain text) text
    | some .listOpen, _, _ =>
      advance
      return sequence (← flowItems fuel true)
    | some .mapOpen, _, _ =>
      advance
      return mapping (← flowEntries fuel true)
    | some .entry, true, _ => return sequence (← flatItems fuel)
    | some .sequenceStart, _, true =>
      advance
      return sequence (← blockItems fuel)
    | some .mappingStart, _, true =>
      advance
      return mapping (← blockEntries fuel)
    | _, _, _ => if named then return .scalar (scalarTag tag true "") "" else failure

/-- A node, or an empty one before certain tokens. -/
def nodeUnless : Nat → List Token → Bool → Bool → Reading Node
  | 0, _, _, _ => failure
  | fuel + 1, stops, block, flat => do
    if ← at_ stops then return .empty else node fuel block flat

/-- The items of a block list. -/
def blockItems : Nat → Reading (List Node)
  | 0 => failure
  | fuel + 1 => do
    if ← accept .entry then
      let n ← nodeUnless fuel [.entry, .blockEnd] true false
      return n :: (← blockItems fuel)
    else
      expect .blockEnd
      return []

/-- The items of a list without an indentation of its own. -/
def flatItems : Nat → Reading (List Node)
  | 0 => failure
  | fuel + 1 => do
    if ← accept .entry then
      let n ← nodeUnless fuel [.entry, .key, .value, .blockEnd] true false
      return n :: (← flatItems fuel)
    else return []

/-- The value of a block entry, which may be missing. -/
def blockValue : Nat → Reading Node
  | 0 => failure
  | fuel + 1 => do
    if ← accept .value then nodeUnless fuel [.key, .value, .blockEnd] true true
    else return .empty

/-- The entries of a block mapping. -/
def blockEntries : Nat → Reading (List (Node × Node))
  | 0 => failure
  | fuel + 1 => do
    if ← accept .key then
      let k ← nodeUnless fuel [.key, .value, .blockEnd] true true
      let v ← blockValue fuel
      return (k, v) :: (← blockEntries fuel)
    else
      expect .blockEnd
      return []

/-- The value of an entry in brackets, which may be missing. -/
def flowValue : Nat → Token → Reading Node
  | 0, _ => failure
  | fuel + 1, close => do
    if ← accept .value then nodeUnless fuel [.comma, close] false false else return .empty

/-- The items of a list in brackets; an item may be a single entry. -/
def flowItems : Nat → Bool → Reading (List Node)
  | 0, _ => failure
  | fuel + 1, first => do
    if ← accept .listClose then return []
    else
      if !first then expect .comma
      if ← accept .key then
        let k ← nodeUnless fuel [.value, .comma, .listClose] false false
        let v ← flowValue fuel .listClose
        return .mapping .map [(k, v)] :: (← flowItems fuel false)
      else if ← accept .listClose then return []
      else
        let n ← node fuel false false
        return n :: (← flowItems fuel false)

/-- The entries of a mapping in brackets; an entry may be a key alone. -/
def flowEntries : Nat → Bool → Reading (List (Node × Node))
  | 0, _ => failure
  | fuel + 1, first => do
    if ← accept .mapClose then return []
    else
      if !first then expect .comma
      if ← accept .key then
        let k ← nodeUnless fuel [.value, .comma, .mapClose] false false
        let v ← flowValue fuel .mapClose
        return (k, v) :: (← flowEntries fuel false)
      else if ← accept .mapClose then return []
      else
        let k ← node fuel false false
        return (k, .empty) :: (← flowEntries fuel false)

end

/-- Past the marks that end a document. -/
def documentEnds : Nat → Reading Unit
  | 0 => failure
  | fuel + 1 => do if ← accept .documentEnd then documentEnds fuel

/-- Past the directives before a document.  The version may be given once and has to be 1, and no
handle may be given twice; the handles that are given win over the standard ones. -/
def directives : Nat → Bool → Table String → Reading Unit
  | 0, _, _ => failure
  | fuel + 1, hasVersion, given => do
    match ← peek with
    | some (.directive d) =>
      advance
      match d with
      | .version major => if hasVersion || major != 1 then failure else directives fuel true given
      | .handle name expansion =>
        if (given.get? name).isSome then failure
        else directives fuel hasVersion (given.put name expansion)
      | .other => directives fuel hasVersion given
    | _ => modify fun r => { r with handles := Table.merge standardHandles given }

/-- Whether the next token belongs to no content of a document. -/
def atDocumentMark : Reading Bool := do
  match ← peek with
  | none | some (.directive _) | some .documentStart | some .documentEnd => return true
  | _ => return false

/-- A document behind its mark. -/
def markedDocument (fuel : Nat) : Reading Node := do
  directives fuel false []
  expect .documentStart
  if ← atDocumentMark then return .empty else node fuel true false

/-- **The one document of a text**, if there is any. -/
def document (fuel : Nat) : Reading (Option Node) := do
  match ← peek with
  | none => return none
  | some t =>
    let n ← match t with
      | .directive _ | .documentStart => markedDocument fuel
      | _ => node fuel true false
    let _ ← accept .documentEnd
    documentEnds fuel
    match ← peek with
    | none => return some n
    | some _ => failure

end Reading

/-- **The document of a text**: none when the text has a mistake, and in it none when the text is
empty. -/
def document? (s : String) : Option (Option Node) := do
  let ts ← tokens? s
  (Reading.document (4 * ts.length + 8)).run' { tokens := ts }

end DialPlan.Yaml
