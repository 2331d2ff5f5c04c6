import DialPlan.Condition.Comparison
import DialPlan.Failure
import DialPlan.Node.Basic
import DialPlan.Rule.Basic
import DialPlan.Yaml.Reader

/-!
# Clash templates

The proxy groups that a Clash template lists.  A group has static members, providers that it uses,
and, when it includes all nodes, the nodes whose names its filter finds a match in.

A filter is a text (`ProxyGroup`), and names are texts.  A template can give a filter in bytes as
well (`TemplateGroup`); it finds matches in names that are bytes and cannot be used on any other.
-/

namespace DialPlan

/-- **A filter on names**: a pattern, and the text it was read from. -/
structure NameFilter where
  source : String
  pattern : Pattern
  reads : readPattern source = .ok pattern

/-- The filter of a text. -/
def NameFilter.ofText (source : String) : Except Fault NameFilter :=
  match h : readPattern source with
  | .ok pattern => .ok ⟨source, pattern, h⟩
  | .error f => .error f

/-- **A proxy group of a Clash template.** -/
structure ProxyGroup where
  name : String
  type : String := "select"
  proxies : List String := []
  use : List String := []
  includeAll : Bool := false
  filter : Option NameFilter := none

namespace ProxyGroup

/-- The static members and the used providers that are not among them. -/
def fixedMembers (g : ProxyGroup) : List String :=
  g.proxies ++ g.use.filter fun u => !g.proxies.contains u

/-- Whether a name passes the filter; without one all names do. -/
def admits (g : ProxyGroup) (name : Value) : Except Fault Bool :=
  match g.filter with
  | none => .ok true
  | some f =>
    match name with
    | .str s => .ok (f.pattern.foundIn s)
    | .bytes _ => .error .textPatternOnBytes
    | v => .error (.notSearchable v.fullKindName)

/-- Members with the names added that are admitted and not among them yet. -/
def addAdmitted (admits : Value → Except Fault Bool) (members : List Value) :
    List Value → Except Fault (List Value)
  | [] => .ok members
  | name :: names => do
    if members.any (Value.same · name) then addAdmitted admits members names
    else
      let more := if ← admits name then [name] else []
      addAdmitted admits (members ++ more) names

/-- The members of a group that goes by some filter, given the names of all nodes. -/
def membersBy (g : ProxyGroup) (admits : Value → Except Fault Bool) (names : List Value) :
    Except Fault (List Value) :=
  let fixed := g.fixedMembers.map Value.str
  if g.includeAll then addAdmitted admits fixed names else .ok fixed

/-- **The members of a group**, given the names of all nodes. -/
def members (g : ProxyGroup) (names : List Value) : Except Fault (List Value) :=
  g.membersBy g.admits names

end ProxyGroup

/-- **A filter in bytes.** -/
structure BytesFilter where
  source : List UInt8
  pattern : Pattern
  reads : readBytesPattern source = .ok pattern

/-- The filter of bytes. -/
def BytesFilter.ofBytes (source : List UInt8) : Except Fault BytesFilter :=
  match h : readBytesPattern source with
  | .ok pattern => .ok ⟨source, pattern, h⟩
  | .error f => .error f

/-- **A proxy group as a template may list it**: its filter may be in bytes. -/
structure TemplateGroup extends ProxyGroup where
  bytesFilter : Option BytesFilter := none

namespace TemplateGroup

/-- Whether a name passes the filter. -/
def admits (g : TemplateGroup) (name : Value) : Except Fault Bool :=
  match g.bytesFilter with
  | none => g.toProxyGroup.admits name
  | some f =>
    match name with
    | .bytes bs => .ok (f.pattern.foundIn (Text.ofLatin bs))
    | .str _ => .error .bytesPatternOnText
    | v => .error (.notSearchable v.fullKindName)

/-- **The members of a group**, given the names of all nodes. -/
def members (g : TemplateGroup) (names : List Value) : Except Fault (List Value) :=
  g.membersBy g.admits names

/-- The filter of a group as data. -/
def filterValue (g : TemplateGroup) : Value :=
  match g.bytesFilter, g.filter with
  | some f, _ => .bytes f.source
  | none, some f => .str f.source
  | none, none => .null

end TemplateGroup

namespace ProxyGroup

/-! ## Reading -/

/-- The value under a key, if it counts as true. -/
def present? (entries : Entries) (key : String) : Option Value :=
  (entries.get? key).filter Value.truthy

/-- The texts of the items of a value; nothing has none. -/
def textsOf (v : Option Value) : Except Fault (List String) :=
  match v with
  | none => .ok []
  | some v => do Value.asTexts (← Node.itemsOf v)

/-- A filter that was read, or what is wrong with it: a pattern that has a mistake is refused, in a
message that tells the name of its group. -/
def refuseBadPattern {α : Type} (name filter : Value) (read : Except Fault α) : Outcome α :=
  match read with
  | .ok a => .ok a
  | .error (.badPattern e) =>
    if Fault.kind (.badPattern e) = .pattern then do
      Outcome.ofFault name.requirePrintable
      Outcome.refuse (.invalidFilter name filter e)
    else .error (.fault (.badPattern e))
  | .error f => .error (.fault f)

/-- **The filter of a value**: a text or bytes. -/
def readFilter (name filter : Value) : Outcome (NameFilter ⊕ BytesFilter) :=
  match filter with
  | .str s => .inl <$> refuseBadPattern name filter (NameFilter.ofText s)
  | .bytes bs => .inr <$> refuseBadPattern name filter (BytesFilter.ofBytes bs)
  | v =>
    match v.unhashablePart? with
    | some part => .error (.fault (.unhashable part.kindName))
    | none => .error (.fault .notAPattern)

/-- The group of an entry. -/
def ofEntries (index : Nat) (entries : Entries) : Outcome TemplateGroup := do
  match present? entries "name" with
  | none => Outcome.refuse (.unnamedGroup index)
  | some name => do
    let filter ← match present? entries "filter" with
      | some f => some <$> readFilter name f
      | none => .ok none
    let name ← Outcome.ofFault name.asText
    let type ← Outcome.ofFault ((present? entries "type").getD (.str "select")).asText
    let proxies ← Outcome.ofFault (textsOf (present? entries "proxies"))
    let use ← Outcome.ofFault (textsOf (present? entries "use"))
    .ok
      { name, type, proxies, use
        includeAll :=
          ((present? entries "include-all").or (present? entries "include-all-proxies")).isSome
        filter := filter.bind Sum.getLeft?
        bytesFilter := filter.bind Sum.getRight? }

/-- The groups of the items from an index on. -/
def readItems : Nat → List Value → Outcome (List TemplateGroup)
  | _, [] => .ok []
  | i, .dict entries :: vs => do .ok ((← ofEntries i entries) :: (← readItems (i + 1) vs))
  | i, _ :: _ => Outcome.refuse (.unnamedGroup i)

/-- **The groups of template data.** -/
def readAll (v : Value) : Outcome (List TemplateGroup) :=
  match v with
  | .null => .ok []
  | .dict entries =>
    match present? entries "proxy-groups" with
    | none => .ok []
    | some listed => do readItems 0 (← Outcome.ofFault (Node.itemsOf listed))
  | _ => Outcome.refuse .templateNotAMapping

/-- **The groups of template text.** -/
def ofText (s : String) : Outcome (List TemplateGroup) :=
  match Yaml.read s with
  | .ok v => readAll v
  | .error .malformed => Outcome.refuse .unreadableTemplate
  | .error (.unusable f) => .error (.fault f)

/-- **The templates that groups make**: every name stands for the group of that name. -/
def templates (groups : List TemplateGroup) : Table Hop :=
  Table.ofList (groups.map fun g => (g.name, .ofGroup g.name))

end ProxyGroup

end DialPlan
