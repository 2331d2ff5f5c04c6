import DialPlan.Decision.FirstMatch

/-!
# Passes

The decisions on all nodes of a subscription, made one by one.  Two things are collected from them
on the way: the failures that were met, and the groups that the chains need.  A group that several
chains need is kept once per name, the first definition winning.
-/

namespace DialPlan

/-- **The outcome of a pass.** -/
structure Pass where
  /-- The decisions, in the order of the nodes. -/
  decisions : List Decision := []
  /-- The groups to be generated. -/
  groups : List CustomGroup := []
  /-- All failures. -/
  errors : List Unresolved := []
  deriving Inhabited

namespace Pass

/-- Groups with one more behind them, unless one of its name is there. -/
def addGroup (groups : List CustomGroup) (g : CustomGroup) : List CustomGroup :=
  if groups.any (·.name == g.name) then groups else groups ++ [g]

/-- **A pass with one more decision.** -/
def add (p : Pass) (d : Decision) : Pass where
  decisions := p.decisions ++ [d]
  groups := d.groups.foldl addGroup p.groups
  errors := p.errors ++ d.errors

/-- The first decision on the node of an id. -/
def decision? (p : Pass) (id : String) : Option Decision :=
  p.decisions.find? (·.node = id)

/-- The proxy that a node dials, unless its name is empty. -/
def dialing? (d : Decision) : Option (String × String) :=
  match d.dialer? with
  | some name => if name.isEmpty then none else some (d.node, name)
  | none => none

/-- **Which proxy each node dials**, for the nodes that dial one. -/
def dialers (p : Pass) : Table String :=
  Table.ofList (p.decisions.filterMap dialing?)

/-- How many decisions end up with a proxy. -/
def dialCount (p : Pass) : Nat := (p.decisions.filterMap dialing?).length

/-- **A pass as data.** -/
def toValue (p : Pass) : Value :=
  .dict [
    (.str "decisions", .list (p.decisions.map (·.toValue))),
    (.str "customGroups", .list (p.groups.map (·.toValue))),
    (.str "errors", .list (p.errors.map (·.toValue)))]

end Pass

namespace Engine

/-- The dialer that a node has and keeps. -/
def keptDialer? (e : Engine) (n : NodeView) : Except Fault (Option String) :=
  if e.keepsDialers then
    match n.attribute? "dialer_proxy_name" with
    | some v => if v.truthy then some <$> v.asText else .ok none
    | none => .ok none
  else .ok none

/-- The decision on a node within a pass. -/
def decideInPass (e : Engine) (rules : List Rule) (n : NodeView) : Outcome Decision := do
  match ← Outcome.ofFault (e.keptDialer? n) with
  | some dialer => .ok { node := ← n.id, ruling := .preserved dialer }
  | none => e.decide n rules

/-- A pass that goes on with more nodes. -/
def passFrom (e : Engine) (rules : List Rule) (p : Pass) : List NodeView → Outcome Pass
  | [] => .ok p
  | n :: ns => do passFrom e rules (p.add (← e.decideInPass rules n)) ns

/-- **A pass over nodes.** -/
def pass (e : Engine) (rules : List Rule) (nodes : List NodeView) : Outcome Pass :=
  e.passFrom rules {} nodes

end Engine

end DialPlan
