import DialPlan.Json.Reader
import DialPlan.Table
import DialPlan.Text.Letters
import DialPlan.Yaml.Reader

/-!
# Files

Paths, and the files that operations read.  Files are given as a table of what they hold, so that an
operation is a function of it.

The ending of a file's name tells its format; a file with any other ending is read as YAML and, when
that has a mistake, as JSON.
-/

namespace DialPlan

/-- **A path**: the names along it. -/
structure Path where
  absolute : Bool := false
  parts : List String := []
  deriving DecidableEq, Repr, Inhabited

namespace Path

/-- The path of a text; empty names and single points count for nothing. -/
def ofText (s : String) : Path where
  absolute := s.toList.head? = some '/'
  parts := ((s.toList.splitOn '/').map String.ofList).filter fun part => part != "" && part != "."

/-- **The text of a path.** -/
def text (p : Path) : String :=
  let body := "/".intercalate p.parts
  if p.absolute then "/" ++ body else if body.isEmpty then "." else body

/-- The path without its last name. -/
def parent (p : Path) : Path := { p with parts := p.parts.dropLast }

/-- A path seen from another one. -/
def join (p q : Path) : Path :=
  if q.absolute then q else { p with parts := p.parts ++ q.parts }

/-- The names along a path, going back where it says so; `exists_` tells which places there are to
go back from. -/
def settle (exists_ : List String → Bool) (back : List String) :
    List String → Option (List String)
  | [] => some back.reverse
  | part :: rest =>
    match part, back with
    | "..", name :: before =>
      if name = ".." then settle exists_ (part :: name :: before) rest
      else if exists_ back.reverse then settle exists_ before rest
      else none
    | part, back => settle exists_ (part :: back) rest

/-- The place that a path comes to, if all directories on the way exist. -/
def place? (exists_ : List String → Bool) (p : Path) : Option (List String) :=
  settle exists_ [] p.parts

/-- **The ending of a file's name**, with its point; a point at either end of the name starts
none. -/
def ending (p : Path) : String :=
  let name := (p.parts.getLast?.getD "").toList
  let after := (name.reverse.takeWhile (· != '.')).reverse
  let before := name.length - after.length - 1
  if after.isEmpty || after.length = name.length || before = 0 then ""
  else String.ofList ('.' :: after)

end Path

/-- **What a file holds**: a text, or bytes that are none, with the complaint of decoding them. -/
inductive FileContent
  | text (s : String)
  | undecodable (complaint : String)
  deriving DecidableEq, Repr, Inhabited

instance : Coe String FileContent := ⟨.text⟩

/-- **Why data cannot be had**: it cannot be read, or reading it breaks off. -/
inductive Unread
  | unreadable
  | broken (f : Fault)
  deriving DecidableEq

/-- **What files hold**, by their paths. -/
abbrev Files := Table FileContent

namespace Files

/-- Whether a place is a directory: there is a file below it. -/
def isDirectory (files : Files) (place : List String) : Bool :=
  files.any fun e =>
    let parts := (Path.ofText e.1).parts
    place.isPrefixOf parts && place.length < parts.length

/-- What a file holds. -/
def read? (files : Files) (p : Path) : Option FileContent := do
  let place ← p.place? files.isDirectory
  let e ← files.find? fun e =>
    let q := Path.ofText e.1
    q.place? (fun _ => true) = some place && q.absolute = p.absolute
  some e.2

/-- The value of JSON text. -/
def json (text : String) : Except Unread Value :=
  match Json.read text with
  | .ok v => .ok v
  | .error _ => .error .unreadable

theorem json_eq_ok_iff {text : String} {v : Value} :
    json text = .ok v ↔ Json.read text = .ok v := by
  unfold json
  cases Json.read text <;> simp

/-- The value of YAML text; a fault of value in it counts as a mistake. -/
def yaml (text : String) : Except Unread Value :=
  match Yaml.read text with
  | .ok v => .ok v
  | .error .malformed => .error .unreadable
  | .error (.unusable f) => .error (if f.kind = .value then .unreadable else .broken f)

theorem yaml_eq_ok_iff {text : String} {v : Value} :
    yaml text = .ok v ↔ Yaml.read text = .ok v := by
  unfold yaml
  cases Yaml.read text with
  | ok w => simp
  | error flaw => cases flaw <;> simp

/-- The value of text of a format that has to be found out: YAML unless it has a mistake, else
JSON. -/
def either (text : String) : Except Unread Value :=
  match Yaml.read text with
  | .error .malformed => json text
  | _ => yaml text

/-- **The value that a file holds.** -/
def value (files : Files) (p : Path) : Except Unread Value :=
  match files.read? p with
  | some (.text text) =>
    let ending := Text.lower p.ending
    if ending = ".yaml" || ending = ".yml" then yaml text
    else if ending = ".json" then json text
    else either text
  | some (.undecodable _) | none => .error .unreadable

end Files

end DialPlan
