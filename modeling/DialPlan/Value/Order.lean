import DialPlan.Fault

/-!
# Order of values

Values of one kind are ordered: texts by their characters, numbers by size, dates and times by when
they are, sequences item by item.  Comparing values that have no common order is a fault, and so is
sorting a list that holds two such values.
-/

namespace DialPlan.Value

mutual

/-- **Strict order of two values**, where one exists. -/
def precedes : Value → Value → Except Fault Bool
  | str a, str b => .ok (a < b)
  | list a, list b => precedesItems a b
  | tuple a, tuple b => precedesItems a b
  | bytes a, bytes b => .ok (a < b)
  | date a, date b => .ok (a.ordinal < b.ordinal)
  | time a, time b =>
    if a.offset.isSome == b.offset.isSome then .ok (a.instant < b.instant)
    else .error .offsetMissing
  | date _, time _ | time _, date _ => .error .timeWithDate
  | v, w =>
    match quantity? v, quantity? w with
    | some a, some b => .ok (a.lt b)
    | _, _ => .error (.notOrdered "<" v.fullKindName w.fullKindName)

/-- Sequences by their first difference, the shorter one first. -/
def precedesItems : List Value → List Value → Except Fault Bool
  | [], ws => .ok (!ws.isEmpty)
  | _ :: _, [] => .ok false
  | v :: vs, w :: ws => if same v w then precedesItems vs ws else precedes v w

end

/-- Insert a value into a sorted list, given from its end, behind its equals. -/
def insertBehind (v : Value) : List Value → Except Fault (List Value)
  | [] => .ok [v]
  | w :: ws => do
    if ← precedes v w then (w :: ·) <$> insertBehind v ws else .ok (v :: w :: ws)

/-- **Stable sorting**, where an order exists. -/
def sorted (vs : List Value) : Except Fault (List Value) := do
  let backwards ← vs.foldlM (fun acc v => insertBehind v acc) []
  .ok backwards.reverse

end DialPlan.Value
