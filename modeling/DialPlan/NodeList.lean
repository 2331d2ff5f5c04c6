import DialPlan.Files
import DialPlan.Node.Basic

/-!
# Node lists

The nodes of a file or of data: a list of mappings, or a mapping that has one under `nodes`.
-/

namespace DialPlan.NodeList

/-- What a mapping that makes no node is refused with; faults that are not of type go through. -/
def explain (index : Nat) (f : Failure) : Failure :=
  match f with
  | .refused r => .refused (.nodeInvalid index r.report.text)
  | .fault f => if f.kind = .type then .refused (.nodeInvalid index f.message) else .fault f
  | f => f

/-- The node of an item. -/
def readItem (index : Nat) (v : Value) : Outcome Node :=
  match v with
  | .dict entries => (Node.ofEntries entries).mapError (explain index)
  | _ => Outcome.refuse (.nodeNotAMapping index)

/-- The nodes of the items from an index on. -/
def readItems : Nat → List Value → Outcome (List Node)
  | _, [] => .ok []
  | i, v :: vs => do .ok ((← readItem i v) :: (← readItems (i + 1) vs))

/-- **The nodes of data.** -/
def ofValue (v : Value) : Outcome (List Node) :=
  let listed := match v with
    | .dict entries => (Entries.get? entries "nodes").getD .null
    | v => v
  match listed with
  | .list items => readItems 0 items
  | _ => Outcome.refuse .nodesNotAList

/-- **The nodes of a file.** -/
def ofFile (files : Files) (p : Path) : Outcome (List Node) :=
  match files.value p with
  | .ok v => ofValue v
  | .error .unreadable => Outcome.refuse .nodesUnreadable
  | .error (.broken f) => .error (.fault f)

end DialPlan.NodeList
