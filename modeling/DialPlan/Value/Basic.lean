import DialPlan.Number.Decimal
import DialPlan.Timestamp

/-!
# Values

Rule data, node attributes and files hold values of any kind.  `Value` is the one dynamic type of
the library; everything that the library itself decides has a type of its own.

Design decisions:

* A dictionary is a list of entries in insertion order, with keys that are pairwise not the same;
  order is visible in messages and in written JSON.
* `Value.same` is equality as the data formats understand it: numbers of different kinds are equal
  when they stand for the same number, so `1`, `1.0` and `true` are one key.  Structural equality is
  `=`, and it is decidable.
* A value that cannot be a dictionary key (`Value.unhashablePart?`) is a list, a set or a
  dictionary, or a tuple that holds one.
* A value that is no data, such as an operation of a record, is an `object`: it counts as true, it
  is the same as nothing, and only its kind can be seen.
-/

namespace DialPlan

/-- **A value of any kind.** -/
inductive Value
  | null
  | bool (b : Bool)
  | int (n : Int)
  | float (x : Binary64)
  | decimal (d : Decimal)
  | str (s : String)
  | bytes (bs : List UInt8)
  | date (d : CivilDate)
  | time (t : DateTime)
  | list (items : List Value)
  | tuple (items : List Value)
  | set (items : List Value)
  | dict (entries : List (Value × Value))
  | object (kind : String)
  deriving Inhabited

/-- The entries of a dictionary, in insertion order. -/
abbrev Entries := List (Value × Value)

namespace Value

/-! ## Structural equality -/

mutual

/-- Structural equality, as a test. -/
def beq : Value → Value → Bool
  | null, null => true
  | bool a, bool b => a == b
  | int a, int b => a == b
  | float a, float b => a == b
  | decimal a, decimal b => a == b
  | str a, str b => a == b
  | bytes a, bytes b => a == b
  | date a, date b => a == b
  | time a, time b => a == b
  | list a, list b => beqItems a b
  | tuple a, tuple b => beqItems a b
  | set a, set b => beqItems a b
  | dict a, dict b => beqEntries a b
  | object a, object b => a == b
  | _, _ => false

/-- Structural equality of lists of values. -/
def beqItems : List Value → List Value → Bool
  | [], [] => true
  | v :: vs, w :: ws => beq v w && beqItems vs ws
  | _, _ => false

/-- Structural equality of lists of entries. -/
def beqEntries : List (Value × Value) → List (Value × Value) → Bool
  | [], [] => true
  | (k, v) :: es, (l, w) :: fs => beq k l && beq v w && beqEntries es fs
  | _, _ => false

end

mutual

theorem beq_iff_eq : ∀ v w : Value, beq v w = true ↔ v = w
  | null, w | bool _, w | int _, w | float _, w | decimal _, w | str _, w | bytes _, w
  | date _, w | time _, w | object _, w => by cases w <;> simp [beq]
  | list a, w | tuple a, w | set a, w => by cases w <;> simp [beq, beqItems_iff_eq a]
  | dict a, w => by cases w <;> simp [beq, beqEntries_iff_eq a]

theorem beqItems_iff_eq : ∀ vs ws : List Value, beqItems vs ws = true ↔ vs = ws
  | [], ws => by cases ws <;> simp [beqItems]
  | v :: vs, ws => by cases ws <;> simp [beqItems, beq_iff_eq v, beqItems_iff_eq vs]

theorem beqEntries_iff_eq : ∀ es fs : List (Value × Value), beqEntries es fs = true ↔ es = fs
  | [], fs => by cases fs <;> simp [beqEntries]
  | (k, v) :: es, fs => by
    cases fs with
    | nil => simp [beqEntries]
    | cons f fs =>
      obtain ⟨l, w⟩ := f
      simp [beqEntries, beq_iff_eq k, beq_iff_eq v, beqEntries_iff_eq es]

end

instance : DecidableEq Value := fun v w =>
  decidable_of_iff (beq v w = true) (beq_iff_eq v w)

/-! ## Classification -/

/-- **The name of a value's kind**, as messages give it. -/
def kindName : Value → String
  | null => "NoneType"
  | bool _ => "bool"
  | int _ => "int"
  | float _ => "float"
  | decimal _ => "Decimal"
  | str _ => "str"
  | bytes _ => "bytes"
  | date _ => "date"
  | time _ => "datetime"
  | list _ => "list"
  | tuple _ => "tuple"
  | set _ => "set"
  | dict _ => "dict"
  | object kind => kind

/-- The name of a value's kind where messages give it in full. -/
def fullKindName : Value → String
  | decimal _ => "decimal.Decimal"
  | date _ => "datetime.date"
  | time _ => "datetime.datetime"
  | v => v.kindName

/-- **Whether a value counts as true**: null, false, zero and everything empty do not. -/
def truthy : Value → Bool
  | null => false
  | bool b => b
  | int n => n != 0
  | float x => !x.isZero
  | decimal d => !d.isZero
  | str s => !s.isEmpty
  | bytes bs => !bs.isEmpty
  | date _ | time _ | object _ => true
  | list items | tuple items | set items => !items.isEmpty
  | dict entries => !entries.isEmpty

@[simp] theorem truthy_null : truthy null = false := rfl
@[simp] theorem truthy_bool (b : Bool) : truthy (bool b) = b := rfl
@[simp] theorem truthy_str (s : String) : truthy (str s) = !s.isEmpty := rfl

/-- The text inside a text value. -/
def str? : Value → Option String
  | str s => some s
  | _ => none

/-- The items of a list or tuple. -/
def sequence? : Value → Option (List Value)
  | list items | tuple items => some items
  | _ => none

/-- The items of a list, tuple or set. -/
def collection? : Value → Option (List Value)
  | list items | tuple items | set items => some items
  | _ => none

/-- The entries of a dictionary. -/
def entries? : Value → Option Entries
  | dict entries => some entries
  | _ => none

mutual

/-- Whether a value can be a key; when it cannot, the value that stands in the way. -/
def unhashablePart? : Value → Option Value
  | list items => some (list items)
  | set items => some (set items)
  | dict entries => some (dict entries)
  | tuple items => unhashableItem? items
  | _ => none

/-- The first item that stands in the way of a tuple's being a key. -/
def unhashableItem? : List Value → Option Value
  | [] => none
  | v :: vs => (unhashablePart? v).or (unhashableItem? vs)

end

/-! ## Equality of data -/

/-- A number in comparisons across kinds: an exact quotient, an infinity or not-a-number. -/
inductive Quantity
  | exact (num : Int) (den : Nat)
  | infinite (negative : Bool)
  | nan

/-- The exact number that a value stands for. -/
def quantity? : Value → Option Quantity
  | bool b => some (.exact (if b then 1 else 0) 1)
  | int n => some (.exact n 1)
  | float .nan => some .nan
  | float (.infinite negative) => some (.infinite negative)
  | float (.finite negative units _) =>
    some (.exact (if negative then -Int.ofNat units else Int.ofNat units) unitsPerOne)
  | decimal (.finite negative digits exponent) =>
    let n := if negative then -Int.ofNat digits else Int.ofNat digits
    match exponent with
    | .ofNat e => some (.exact (n * Int.ofNat (tenTo e)) 1)
    | .negSucc e => some (.exact n (tenTo (e + 1)))
  | decimal (.infinite negative) => some (.infinite negative)
  | decimal (.nan ..) => some .nan
  | _ => none

/-- Equality of quantities; not-a-number equals nothing. -/
def Quantity.same : Quantity → Quantity → Bool
  | exact a b, exact c d => a * Int.ofNat d == c * Int.ofNat b
  | infinite a, infinite b => a == b
  | _, _ => false

/-- Strict order of quantities; not-a-number is below nothing. -/
def Quantity.lt : Quantity → Quantity → Bool
  | exact a b, exact c d => a * Int.ofNat d < c * Int.ofNat b
  | infinite a, infinite b => a && !b
  | infinite a, exact _ _ => a
  | exact _ _, infinite b => !b
  | _, _ => false

mutual

/-- **Equality of data**: numbers by quantity, texts by their characters, times by the instant,
sequences item by item, sets and dictionaries whatever their order. -/
def same : Value → Value → Bool
  | null, null => true
  | str a, str b => a == b
  | bytes a, bytes b => a == b
  | date a, date b => a == b
  | time a, time b => a.offset.isSome == b.offset.isSome && a.instant == b.instant
  | list a, list b => sameItems a b
  | tuple a, tuple b => sameItems a b
  | set a, set b => a.length == b.length && sameMembers a b
  | dict a, dict b => a.length == b.length && sameEntries a b
  | v, w =>
    match quantity? v, quantity? w with
    | some a, some b => a.same b
    | _, _ => false

/-- Item by item. -/
def sameItems : List Value → List Value → Bool
  | [], [] => true
  | v :: vs, w :: ws => same v w && sameItems vs ws
  | _, _ => false

/-- Every member on the left is the same as one on the right. -/
def sameMembers : List Value → List Value → Bool
  | [], _ => true
  | v :: vs, ws => (ws.any fun w => same v w) && sameMembers vs ws

/-- Every entry on the left has its counterpart on the right. -/
def sameEntries : List (Value × Value) → List (Value × Value) → Bool
  | [], _ => true
  | (k, v) :: es, fs => (fs.any fun f => same k f.1 && same v f.2) && sameEntries es fs

end

/-- A list without repetitions of the same value; the first of each stays. -/
def dedup : List Value → List Value
  | [] => []
  | v :: vs => v :: (dedup vs).filter fun w => !same v w

end Value

/-! ## Dictionaries -/

namespace Entries

/-- The value under a text key. -/
def get? : Entries → String → Option Value
  | [], _ => none
  | (k, v) :: rest, key => if k = .str key then some v else get? rest key

/-- Whether a text key occurs. -/
def has (entries : Entries) (key : String) : Bool :=
  (entries.get? key).isSome

/-- Set the value under a key: in place when the key occurs, else at the end. -/
def put : Entries → Value → Value → Entries
  | [], key, value => [(key, value)]
  | (k, v) :: rest, key, value =>
    if Value.same k key then (k, value) :: rest else (k, v) :: put rest key value

/-- Set the values of all entries of a second dictionary. -/
def merge (entries more : Entries) : Entries :=
  more.foldl (fun acc e => acc.put e.1 e.2) entries

@[simp] theorem get?_nil (key : String) : get? [] key = none := rfl

theorem get?_cons (k v : Value) (rest : Entries) (key : String) :
    get? ((k, v) :: rest) key = if k = .str key then some v else get? rest key := rfl

@[simp] theorem merge_nil (entries : Entries) : merge entries [] = entries := rfl

end Entries

end DialPlan
