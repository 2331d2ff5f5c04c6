import DialPlan.Condition.Evaluation
import DialPlan.Rule.Basic

/-!
# Matching

Whether the target of a rule selects a node: every node, the node of one id, or the nodes that
satisfy a condition.
-/

namespace DialPlan

/-- **Whether a target selects a node.**  A target without an id selects none; one without a
condition selects all. -/
def Target.selects (v : Vocabulary) (t : Target) (n : NodeView) : Outcome Bool :=
  match t with
  | .all => .ok true
  | .node none => .ok false
  | .node (some id) => do .ok ((← n.id) = id)
  | .conditions root => Outcome.ofFault (satisfies v n root)

/-- Whether what stands in the place of a target selects a node. -/
def Slot.selects (v : Vocabulary) (t : Slot Target) (n : NodeView) : Outcome Bool :=
  match t with
  | .holds t => t.selects v n
  | .foreign w => .error (.fault (.unknownTarget w.kindName))

@[simp] theorem Target.selects_all (v : Vocabulary) (n : NodeView) :
    Target.all.selects v n = .ok true := rfl

@[simp] theorem Target.selects_node_none (v : Vocabulary) (n : NodeView) :
    (Target.node none).selects v n = .ok false := rfl

end DialPlan
