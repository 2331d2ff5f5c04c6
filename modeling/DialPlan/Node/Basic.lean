import DialPlan.Failure
import DialPlan.Node.Tags
import DialPlan.Value.Order

/-!
# Nodes

A node is a proxy that rules are judged against.  It is either a record with the known attributes
(`Node`) or a plain mapping, and conditions read both by attribute name (`NodeView.attribute?`).
Of a record the fields come first, then the published name and everything else that a record has of
itself, then the entries of `extra`.

Attributes hold values of any kind; a record only makes its id a text and its tags a tuple.
-/

namespace DialPlan

/-- **A node record.** -/
structure Node where
  id : String
  name : Value := .str ""
  linkName : Value := .str ""
  linkAddress : Value := .str ""
  linkHost : Value := .str ""
  linkPort : Value := .null
  linkCountry : Value := .str ""
  protocol : Value := .str ""
  group : Value := .str ""
  source : Value := .str "manual"
  speed : Value := .null
  delayTime : Value := .null
  speedStatus : Value := .str ""
  delayStatus : Value := .str ""
  tags : List Value := []
  dialer : Value := .str ""
  extra : Entries := []
  deriving DecidableEq, Inhabited

namespace Node

/-- The attribute names of a record, other than `extra`. -/
def knownNames : List String :=
  ["id", "name", "link_name", "link_address", "link_host", "link_port", "link_country",
    "protocol", "group", "source", "speed", "delay_time", "speed_status", "delay_status", "tags",
    "dialer_proxy_name"]

/-- **The name a node is published under**: its name, or its id when it has none. -/
def proxyName (n : Node) : Value :=
  if n.name.truthy then n.name else .str n.id

/-- The fields of a record with their names, in the order of their declaration. -/
def fields (n : Node) : Table Value :=
  [("id", .str n.id), ("name", n.name), ("link_name", n.linkName),
    ("link_address", n.linkAddress), ("link_host", n.linkHost), ("link_port", n.linkPort),
    ("link_country", n.linkCountry), ("protocol", n.protocol), ("group", n.group),
    ("source", n.source), ("speed", n.speed), ("delay_time", n.delayTime),
    ("speed_status", n.speedStatus), ("delay_status", n.delayStatus), ("tags", .tuple n.tags),
    ("dialer_proxy_name", n.dialer), ("extra", .dict n.extra)]

/-- The declared types of the fields. -/
def declaredTypes : Table String :=
  [("id", "str"), ("name", "str"), ("link_name", "str"), ("link_address", "str"),
    ("link_host", "str"), ("link_port", "Optional[int]"), ("link_country", "str"),
    ("protocol", "str"), ("group", "str"), ("source", "str"), ("speed", "Optional[float]"),
    ("delay_time", "Optional[int]"), ("speed_status", "str"), ("delay_status", "str"),
    ("tags", "tuple[str, ...]"), ("dialer_proxy_name", "str"), ("extra", "Mapping[str, Any]")]

/-- The description of what a record is. -/
def description : String :=
  "\n    Read-only view of a proxy node.\n\n    Attribute names match the default vocabulary's " ++
    "field names. Fields not\n    modelled here can be supplied through `extra`.\n    "

/-- The operations of a record, with the kinds that they are of. -/
def operations : Table String :=
  [("from_mapping", "method"), ("__init__", "method"), ("__post_init__", "method"),
    ("__eq__", "method"), ("__hash__", "method"), ("__repr__", "method"),
    ("__setattr__", "method"), ("__delattr__", "method"),
    ("__ge__", "method-wrapper"), ("__gt__", "method-wrapper"), ("__le__", "method-wrapper"),
    ("__lt__", "method-wrapper"), ("__ne__", "method-wrapper"), ("__str__", "method-wrapper"),
    ("__getattribute__", "method-wrapper"),
    ("__dir__", "builtin_function_or_method"), ("__format__", "builtin_function_or_method"),
    ("__getstate__", "builtin_function_or_method"),
    ("__init_subclass__", "builtin_function_or_method"),
    ("__new__", "builtin_function_or_method"), ("__reduce__", "builtin_function_or_method"),
    ("__reduce_ex__", "builtin_function_or_method"),
    ("__sizeof__", "builtin_function_or_method"),
    ("__subclasshook__", "builtin_function_or_method"),
    ("__class__", "type"), ("__dataclass_params__", "_DataclassParams")]

/-- **What a record has besides its fields**: its published name, its operations, and what tells
about its fields. -/
def inherited? (n : Node) (name : String) : Option Value :=
  match name with
  | "proxy_name" => some n.proxyName
  | "__dict__" => some (.dict (n.fields.map fun e => (.str e.1, e.2)))
  | "__annotations__" => some (.dict (declaredTypes.map fun e => (.str e.1, .str e.2)))
  | "__dataclass_fields__" =>
    some (.dict (declaredTypes.map fun e => (.str e.1, .object "Field")))
  | "__match_args__" => some (.tuple (declaredTypes.map fun e => .str e.1))
  | "__doc__" => some (.str description)
  | "__module__" => some (.str "chainrules.models.node")
  | "__weakref__" => some .null
  | name => (operations.get? name).map .object

/-- **An attribute that a record has of itself**, whatever its extra attributes are. -/
def known? (n : Node) (name : String) : Option Value :=
  (n.fields.get? name).or (n.inherited? name)

/-- The values of a collection, item by item; a text gives its characters and a dictionary its
keys. -/
def itemsOf (v : Value) : Except Fault (List Value) :=
  match v with
  | .list items | .tuple items | .set items => .ok items
  | .str s => .ok (s.toList.map fun c => .str (String.ofList [c]))
  | .dict entries => .ok (entries.map (·.1))
  | .bytes bs => .ok (bs.map fun b => .int b.toNat)
  | v => .error (.notIterable v.fullKindName)

/-- The two halves of an entry that is given as a sequence. -/
def pairOf (index : Nat) (v : Value) : Except Fault (Value × Value) :=
  match itemsOf v with
  | .error _ => .error (.entryNotSequence index)
  | .ok [k, w] =>
    match k.unhashablePart? with
    | some part => .error (.unhashable part.kindName)
    | none => .ok (k, w)
  | .ok items => .error (.entryLength index items.length)

/-- The entries that a value adds to a dictionary: its own, or those it lists as pairs. -/
def entriesOf (v : Value) : Except Fault Entries :=
  match v with
  | .dict entries => .ok entries
  | v => do
    let items ← itemsOf v
    let pairs ← items.zipIdx.mapM fun (item, i) => pairOf i item
    .ok (Entries.merge [] pairs)

/-- The tags of an attribute value. -/
def tagsOf (v : Value) : Except Fault (List Value) :=
  match v with
  | .str s => .ok ((splitTags s).map .str)
  | v => itemsOf v

/-- Whether an entry is a known attribute. -/
def isKnownKey (k : Value) : Bool :=
  match k with
  | .str s => knownNames.contains s
  | _ => false

/-- **A record from a mapping**; entries that are no known attribute go to `extra`, followed by the
entries of the mapping's own `extra`. -/
def ofEntries (data : Entries) : Outcome Node := do
  let own := data.filter fun e => !isKnownKey e.1 && e.1 != .str "extra"
  let nested := (data.get? "extra").getD .null
  let more ← Outcome.ofFault (if nested.truthy then entriesOf nested else .ok [])
  let extra := Entries.merge own more
  match data.get? "id" with
  | none =>
    let keys ← Outcome.ofFault (Value.sorted (data.map (·.1)))
    Outcome.refuse (.recordWithoutId keys)
  | some id =>
    let text (key : String) : Value := (data.get? key).getD (.str "")
    let number (key : String) : Value := (data.get? key).getD .null
    let id ← Outcome.ofFault id.asText
    let tags ← Outcome.ofFault (tagsOf ((data.get? "tags").getD (.tuple [])))
    .ok
      { id
        name := text "name"
        linkName := text "link_name"
        linkAddress := text "link_address"
        linkHost := text "link_host"
        linkPort := number "link_port"
        linkCountry := text "link_country"
        protocol := text "protocol"
        group := text "group"
        source := (data.get? "source").getD (.str "manual")
        speed := number "speed"
        delayTime := number "delay_time"
        speedStatus := text "speed_status"
        delayStatus := text "delay_status"
        tags
        dialer := text "dialer_proxy_name"
        extra }

end Node

/-- **A node as conditions see it.** -/
inductive NodeView
  | record (node : Node)
  | mapping (entries : Entries)
  | other (value : Value)
  deriving DecidableEq, Inhabited

namespace NodeView

/-- The kind of a node in messages. -/
def kindName : NodeView → String
  | record _ => "Node"
  | mapping _ => "dict"
  | other v => v.kindName

/-- **An attribute by name**; none when the node does not have it. -/
def attribute? (n : NodeView) (name : String) : Option Value :=
  match n with
  | record node => (node.known? name).or (node.extra.get? name)
  | mapping entries =>
    (entries.get? name).or ((entries.get? "extra").bind fun e => e.entries?.bind (·.get? name))
  | other _ => none

/-- An attribute that is there and not null. -/
def present? (n : NodeView) (name : String) : Option Value :=
  (n.attribute? name).filter (· != .null)

/-- **The id of a node.** -/
def id (n : NodeView) : Outcome String :=
  match n.present? "id" with
  | some v => Outcome.ofFault v.asText
  | none => Outcome.refuse (.nodeWithoutId n.kindName)

/-- **The name a node is published under.** -/
def proxyName (n : NodeView) : Outcome String :=
  match n.attribute? "name" with
  | some v => if v.truthy then Outcome.ofFault v.asText else n.id
  | none => n.id

end NodeView

end DialPlan
