import DialPlan.Clash
import DialPlan.Provider.Basic
import DialPlan.Record
import DialPlan.Schema.Pack

/-!
# Packs

A pack is what is known about one subscription: its rules in order, the vocabulary and the templates
they are judged by, and the groups that nodes may be dialled through.
-/

namespace DialPlan

/-- **A rule pack.** -/
structure Pack where
  subscription : String
  rules : List Rule := []
  vocabulary : Vocabulary := .standard
  groups : Table (List String) := []
  clashGroups : List TemplateGroup := []
  name : Option String := none
  description : Option String := none
  /-- The path the pack was read from. -/
  source : Option String := none

namespace Pack

/-- The enabled rules. -/
def enabledRules (p : Pack) : List Rule := p.rules.filter Rule.isEnabled

/-- **The records of a pack.** -/
def records (p : Pack) : Except Fault (List Record) := recordsOf p.rules

/-- The members of the Clash groups, given the names of all nodes. -/
def clashMembers (names : List Value) : List TemplateGroup → Except Fault (Table Value)
  | [] => .ok []
  | g :: gs => do .ok ((g.name, .tuple (← g.members names)) :: (← clashMembers names gs))

/-- **The provider of a pack over nodes.**  The groups of the pack win over Clash groups of the same
name. -/
def snapshot (p : Pack) (nodes : List Node) : Outcome NodeSnapshot := do
  let clash ← Outcome.ofFault (clashMembers (nodes.map Node.proxyName) p.clashGroups)
  let own := p.groups.map fun (name, ids) => (name, Value.tuple (ids.map .str))
  NodeSnapshot.build nodes (Table.ofList (clash ++ own)) p.vocabulary.templates

end Pack

end DialPlan
