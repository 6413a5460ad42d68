import ShootKubeconfig.Yaml.Event

namespace ShootKubeconfig.Yaml

inductive Node where
  | alias (number : Nat)
  | scalar (anchor : Option Nat) (tag : Option String) (text : String) (form : Form)
  | sequence (anchor : Option Nat) (items : List Node)
  | mapping (anchor : Option Nat) (entries : List (Node × Node))
  deriving Inhabited

namespace Node

abbrev Anchors := List (String × Nat)

/-- An anchor is numbered by how many other names there are. -/
def declare (anchors : Anchors) : Option String → Option Nat × Anchors
  | none => (none, anchors)
  | some name =>
      let number := anchors.length
      (some number, (anchors.filter fun anchor => anchor.1 ≠ name) ++ [(name, number)])

mutual

def read? : Nat → Anchors → List Event → Option (Node × Anchors × List Event)
  | 0, _, _ => none
  | fuel + 1, anchors, events =>
      match events with
      | .alias name :: rest => do
          return (.alias (← anchors.lookup name), anchors, rest)
      | .scalar anchor tag text form :: rest =>
          let (number, anchors) := declare anchors anchor
          some (.scalar number tag text form, anchors, rest)
      | .sequenceStart anchor :: rest => do
          let (number, anchors) := declare anchors anchor
          let (items, anchors, rest) ← readItems? fuel anchors rest
          return (.sequence number items, anchors, rest)
      | .mappingStart anchor :: rest => do
          let (number, anchors) := declare anchors anchor
          let (entries, anchors, rest) ← readEntries? fuel anchors rest
          return (.mapping number entries, anchors, rest)
      | _ => none

def readItems? : Nat → Anchors → List Event → Option (List Node × Anchors × List Event)
  | 0, _, _ => none
  | fuel + 1, anchors, events =>
      match events with
      | .sequenceEnd :: rest => some ([], anchors, rest)
      | events => do
          let (item, anchors, rest) ← read? fuel anchors events
          let (items, anchors, rest) ← readItems? fuel anchors rest
          return (item :: items, anchors, rest)

def readEntries? :
    Nat → Anchors → List Event → Option (List (Node × Node) × Anchors × List Event)
  | 0, _, _ => none
  | fuel + 1, anchors, events =>
      match events with
      | .mappingEnd :: rest => some ([], anchors, rest)
      | events => do
          let (key, anchors, rest) ← read? fuel anchors events
          let (value, anchors, rest) ← read? fuel anchors rest
          let (entries, anchors, rest) ← readEntries? fuel anchors rest
          return ((key, value) :: entries, anchors, rest)

end

def absent : Node :=
  .scalar none none "" .plain

def ofEvents? : List Event → Option Node
  | [] => some absent
  | .documentStart :: events => do
      match ← read? (2 * events.length + 2) [] events with
      | (node, _, [.documentEnd]) => some node
      | _ => none
  | _ => none

def ofText? (text : String) : Option Node := do
  ofEvents? (← Event.ofTokens? (← tokensOf? text))

mutual

def find? (number : Nat) : Node → Option Node
  | .alias _ => none
  | .scalar anchor tag text form =>
      if anchor = some number then some (.scalar anchor tag text form) else none
  | .sequence anchor items =>
      match findAmong? number items with
      | some node => some node
      | none => if anchor = some number then some (.sequence anchor items) else none
  | .mapping anchor entries =>
      match findWithin? number entries with
      | some node => some node
      | none => if anchor = some number then some (.mapping anchor entries) else none

def findAmong? (number : Nat) : List Node → Option Node
  | [] => none
  | item :: items =>
      match findAmong? number items with
      | some node => some node
      | none => find? number item

def findWithin? (number : Nat) : List (Node × Node) → Option Node
  | [] => none
  | (key, value) :: entries =>
      match findWithin? number entries with
      | some node => some node
      | none =>
          match find? number value with
          | some node => some node
          | none => find? number key

end

def resolve (root : Node) : Node → Option Node
  | .alias number => root.find? number
  | node => some node

end Node

end ShootKubeconfig.Yaml
