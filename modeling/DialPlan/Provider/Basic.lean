import DialPlan.Node.Basic
import DialPlan.Rule.Basic

/-!
# Providers

Chains are resolved against a provider: the nodes there are, the members of named groups and the
expansions of named templates.  A provider is asked, never changed; `NodeSnapshot` is the one that
this library makes, and a provider of another make may answer anything (`Slot.foreign`, a group that
is no list).
-/

namespace DialPlan

/-- **What chains are resolved against.** -/
structure Provider where
  /-- All nodes, in order. -/
  nodes : List NodeView
  /-- The node of an id. -/
  node? : String → Option NodeView
  /-- The members of a group, null when there is no such group. -/
  group : String → Value
  /-- The expansion of a template. -/
  template? : String → Option (Slot Hop)

/-- **The nodes, groups and templates of one moment.** -/
structure NodeSnapshot where
  nodes : List Node
  groups : Table (List String)
  templates : Table (Slot Hop)
  deriving Inhabited

namespace NodeSnapshot

/-- The groups after a node was met: a node with a group joins it.  A group name that is no text is
never asked for, and one that cannot be a key is a fault. -/
def joinGroup (groups : Table (List String)) (n : Node) : Except Fault (Table (List String)) :=
  if !n.group.truthy then .ok groups
  else
    match n.group, n.group.unhashablePart? with
    | _, some part => .error (.unhashable part.kindName)
    | .str name, none => .ok (groups.put name ((groups.get? name).getD [] ++ [n.id]))
    | _, none => .ok groups

/-- The groups that the nodes form; ids have to be unique. -/
def deriveGroups : List Node → List String → Table (List String) → Outcome (Table (List String))
  | [], _, groups => .ok groups
  | n :: ns, seen, groups => do
    if seen.contains n.id then Outcome.refuse (.repeatedNode n.id)
    else deriveGroups ns (n.id :: seen) (← Outcome.ofFault (joinGroup groups n))

/-- The groups with the given ones added, which win over derived ones of the same name; members are
known by their texts. -/
def addGroups : Table Value → Table (List String) → Except Fault (Table (List String))
  | [], groups => .ok groups
  | (name, members) :: more, groups => do
    let ids ← Value.asTexts (← Node.itemsOf members)
    addGroups more (groups.put name ids)

/-- **A snapshot of nodes**, with given groups and templates. -/
def build (nodes : List Node) (groups : Table Value) (templates : Table (Slot Hop)) :
    Outcome NodeSnapshot := do
  let derived ← deriveGroups nodes [] []
  let groups ← Outcome.ofFault (addGroups groups derived)
  .ok { nodes, groups, templates }

/-- The node of an id. -/
def node? (s : NodeSnapshot) (id : String) : Option Node :=
  s.nodes.find? (·.id = id)

/-- **A snapshot as a provider.** -/
def provider (s : NodeSnapshot) : Provider where
  nodes := s.nodes.map .record
  node? id := (s.node? id).map .record
  group name :=
    match s.groups.get? name with
    | some ids => .tuple (ids.map .str)
    | none => .null
  template? := s.templates.get?

end NodeSnapshot

end DialPlan
