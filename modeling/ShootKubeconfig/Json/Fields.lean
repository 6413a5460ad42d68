import ShootKubeconfig.Json.Value

namespace ShootKubeconfig

namespace Json

def boolean? : Json → Option Bool
  | .boolean value => some value
  | _ => none

def text? : Json → Option String
  | .text value => some value
  | _ => none

def list? : Json → Option (List Json)
  | .list items => some items
  | _ => none

def fields? : Json → Option (List (String × Json))
  | .object fields => some fields
  | _ => none

def integerWithin? (lowest highest : Int) : Json → Option Int
  | .integer value => if lowest ≤ value ∧ value ≤ highest then some value else none
  | _ => none

def integer64? : Json → Option Int :=
  integerWithin? (-2 ^ 63) (2 ^ 63 - 1)

def naturalBelow? (bound : Nat) : Json → Option Nat
  | .integer (.ofNat value) => if value < bound then some value else none
  | _ => none

def natural64? : Json → Option Nat :=
  naturalBelow? (2 ^ 64)

/-- Where null stands for no value. -/
def nullable? (read : Json → Option α) : Json → Option (Option α)
  | .null => some none
  | value => (read value).map some

def optional? (read : Json → Option α) (value : Json) (name : String) : Option (Option α) :=
  nullable? read (value.field name)

/-- A field that, where it is missing or null, reads as a default. -/
def orDefault? [Inhabited α] (read : Json → Option α) (value : Json) (name : String) :
    Option α :=
  (optional? read value name).map (·.getD default)

def listOf? (read : Json → Option α) (value : Json) : Option (List α) := do
  (← value.list?).mapM read

def dictionaryOf? (read : Json → Option α) (value : Json) : Option (Dictionary α) := do
  let entries ← (← value.fields?).mapM fun field => do return (field.1, ← read field.2)
  return Table.ofList entries

/-- The named parts of a record, which may also be listed in their order from the first on. -/
def record? (names : List String) : Json → Option (List (Option Json))
  | .object fields => some (names.map fun name => Table.lookup name fields)
  | .list items =>
      if items.length ≤ names.length then
        some (items.map some ++ List.replicate (names.length - items.length) none)
      else none
  | _ => none

/-- An object that leaves out the fields without a value. -/
def ofPresent (fields : List (String × Option Json)) : Json :=
  ofFields (fields.filterMap fun field => field.2.map fun value => (field.1, value))

def ofDictionary (write : α → Json) (dictionary : Dictionary α) : Json :=
  .object (dictionary.entries.map fun entry => (entry.1, write entry.2))

def ofTexts (texts : Dictionary String) : Json :=
  ofDictionary .text texts

end Json

end ShootKubeconfig
