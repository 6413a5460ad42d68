import ShootKubeconfig.Yaml.Layout

namespace ShootKubeconfig.Yaml

inductive Event where
  | documentStart
  | documentEnd
  | alias (name : String)
  | scalar (anchor tag : Option String) (text : String) (form : Form)
  | sequenceStart (anchor : Option String)
  | sequenceEnd
  | mappingStart (anchor : Option String)
  | mappingEnd
  deriving DecidableEq, Repr, Inhabited

namespace Event

inductive Place where
  | documentStart
  | documentContent
  | documentEnd
  | blockNode
  | blockEntry
  | indentlessEntry
  | blockKey
  | blockValue
  | flowEntry (first : Bool)
  | flowEntryKey
  | flowEntryValue
  | flowEntryEnd
  | flowKey (first : Bool)
  | flowValue
  | flowEmptyValue
  deriving DecidableEq, Repr

abbrev Handles := List (String × String)

structure Reader where
  tokens : List Token
  places : List Place
  handles : Handles := []

def emptyScalar : Event :=
  .scalar none none "" .plain

namespace Reader

def next (reader : Reader) : Token :=
  reader.tokens.headD .streamEnd

def skip (reader : Reader) : Reader :=
  { reader with tokens := reader.tokens.drop 1 }

def goTo (reader : Reader) (places : List Place) : Reader :=
  { reader with places := places ++ reader.places }

structure Properties where
  anchor : Option String := none
  tag : Option (String × String) := none

def properties (reader : Reader) : Properties × Reader :=
  match reader.tokens with
  | .anchor name :: .tag handle suffix :: rest =>
      (⟨some name, some (handle, suffix)⟩, { reader with tokens := rest })
  | .tag handle suffix :: .anchor name :: rest =>
      (⟨some name, some (handle, suffix)⟩, { reader with tokens := rest })
  | .anchor name :: rest => (⟨some name, none⟩, { reader with tokens := rest })
  | .tag handle suffix :: rest => (⟨none, some (handle, suffix)⟩, { reader with tokens := rest })
  | _ => ({}, reader)

/-- The whole tag; a handle has to have been declared. -/
def tag? (handles : Handles) : Option (String × String) → Option (Option String)
  | none => some none
  | some (handle, suffix) =>
      if handle = "" then some (some suffix)
      else (handles.lookup handle).map fun stem => some (stem ++ suffix)

/-- A node, where a sequence may stand at the indentation of its key. -/
def node? (block indentless : Bool) (reader : Reader) : Option (Event × Reader) :=
  match reader.next with
  | .alias name => some (.alias name, reader.skip)
  | _ => do
      let (properties, reader) := reader.properties
      let anchor := properties.anchor
      let tag ← tag? reader.handles properties.tag
      match reader.next with
      | .scalar text form => return (.scalar anchor tag text form, reader.skip)
      | .flowSequenceStart =>
          return (.sequenceStart anchor, reader.skip.goTo [.flowEntry true])
      | .flowMappingStart => return (.mappingStart anchor, reader.skip.goTo [.flowKey true])
      | .blockEntry =>
          if indentless then return (.sequenceStart anchor, reader.goTo [.indentlessEntry])
          else if anchor.isSome ∨ tag.isSome then return (.scalar anchor tag "" .plain, reader)
          else none
      | .blockSequenceStart =>
          if block then return (.sequenceStart anchor, reader.skip.goTo [.blockEntry])
          else if anchor.isSome ∨ tag.isSome then return (.scalar anchor tag "" .plain, reader)
          else none
      | .blockMappingStart =>
          if block then return (.mappingStart anchor, reader.skip.goTo [.blockKey])
          else if anchor.isSome ∨ tag.isSome then return (.scalar anchor tag "" .plain, reader)
          else none
      | _ =>
          if anchor.isSome ∨ tag.isSome then return (.scalar anchor tag "" .plain, reader)
          else none

/-- A node, or an empty scalar before a token that ends it. -/
def nodeUnless? (block indentless : Bool) (ends : List Token) (then_ : List Place)
    (reader : Reader) : Option (Event × Reader) :=
  let reader := reader.goTo then_
  if reader.next ∈ ends then some (emptyScalar, reader) else reader.node? block indentless

/-- Directives before a document: one version at most, and no handle twice. -/
def directives? : Bool → Handles → List Token → Option (Handles × List Token)
  | versioned, handles, .versionDirective major minor :: rest =>
      if versioned ∨ major ≠ 1 ∨ (minor ≠ 1 ∧ minor ≠ 2) then none
      else directives? true handles rest
  | versioned, handles, .tagDirective handle stem :: rest =>
      if (handles.lookup handle).isSome then none
      else directives? versioned (handles ++ [(handle, stem)]) rest
  | _, handles, tokens => some (handles, tokens)

def knownHandles : Handles :=
  [("!", "!"), ("!!", "tag:yaml.org,2002:")]

def isDirective : Token → Bool
  | .versionDirective _ _ | .tagDirective _ _ => true
  | _ => false

def startDocument? (implicit : Bool) (reader : Reader) : Option (Option (Event × Reader)) :=
  let reader :=
    if implicit then reader
    else { reader with tokens := reader.tokens.dropWhile (· == .documentEnd) }
  if reader.next = .streamEnd then some none
  else if implicit ∧ !isDirective reader.next ∧ reader.next ≠ .documentStart then
    some (some (.documentStart,
      { reader with handles := knownHandles }.goTo [.blockNode, .documentEnd]))
  else do
    let (handles, tokens) ← directives? false [] reader.tokens
    match tokens with
    | .documentStart :: tokens =>
        return some (.documentStart,
          { reader with tokens, handles := handles ++ knownHandles }.goTo
            [.documentContent, .documentEnd])
    | _ => none

def step? (reader : Reader) : Place → Option (Option (Event × Reader))
  | .documentStart => reader.startDocument? false
  | .documentContent =>
      if isDirective reader.next ∨ reader.next ∈ [.documentStart, .documentEnd, .streamEnd] then
        some (some (emptyScalar, reader))
      else (reader.node? true false).map some
  | .documentEnd =>
      let reader := if reader.next = .documentEnd then reader.skip else reader
      some (some (.documentEnd, reader.goTo [.documentStart]))
  | .blockNode => (reader.node? true false).map some
  | .blockEntry =>
      match reader.next with
      | .blockEntry =>
          (reader.skip.nodeUnless? true false [.blockEntry, .blockEnd] [.blockEntry]).map some
      | .blockEnd => some (some (.sequenceEnd, reader.skip))
      | _ => none
  | .indentlessEntry =>
      match reader.next with
      | .blockEntry =>
          (reader.skip.nodeUnless? true false [.blockEntry, .key, .value, .blockEnd]
            [.indentlessEntry]).map some
      | _ => some (some (.sequenceEnd, reader))
  | .blockKey =>
      match reader.next with
      | .key =>
          (reader.skip.nodeUnless? true true [.key, .value, .blockEnd] [.blockValue]).map some
      | .blockEnd => some (some (.mappingEnd, reader.skip))
      | _ => none
  | .blockValue =>
      match reader.next with
      | .value =>
          (reader.skip.nodeUnless? true true [.key, .value, .blockEnd] [.blockKey]).map some
      | _ => some (some (emptyScalar, reader.goTo [.blockKey]))
  | .flowEntry first =>
      if reader.next = .flowSequenceEnd then some (some (.sequenceEnd, reader.skip))
      else if !first ∧ reader.next ≠ .flowEntry then none
      else
        let reader := if first then reader else reader.skip
        match reader.next with
        | .key => some (some (.mappingStart none, reader.skip.goTo [.flowEntryKey]))
        | .flowSequenceEnd => some (some (.sequenceEnd, reader.skip))
        | _ => ((reader.goTo [.flowEntry false]).node? false false).map some
  | .flowEntryKey =>
      if reader.next ∈ [.value, .flowEntry, .flowSequenceEnd] then
        some (some (emptyScalar, reader.skip.goTo [.flowEntryValue]))
      else ((reader.goTo [.flowEntryValue]).node? false false).map some
  | .flowEntryValue =>
      match reader.next with
      | .value =>
          (reader.skip.nodeUnless? false false [.flowEntry, .flowSequenceEnd]
            [.flowEntryEnd]).map some
      | _ => some (some (emptyScalar, reader.goTo [.flowEntryEnd]))
  | .flowEntryEnd => some (some (.mappingEnd, reader.goTo [.flowEntry false]))
  | .flowKey first =>
      if reader.next = .flowMappingEnd then some (some (.mappingEnd, reader.skip))
      else if !first ∧ reader.next ≠ .flowEntry then none
      else
        let reader := if first then reader else reader.skip
        match reader.next with
        | .key =>
            (reader.skip.nodeUnless? false false [.value, .flowEntry, .flowMappingEnd]
              [.flowValue]).map some
        | .flowMappingEnd => some (some (.mappingEnd, reader.skip))
        | _ => ((reader.goTo [.flowEmptyValue]).node? false false).map some
  | .flowValue =>
      match reader.next with
      | .value =>
          (reader.skip.nodeUnless? false false [.flowEntry, .flowMappingEnd]
            [.flowKey false]).map some
      | _ => some (some (emptyScalar, reader.goTo [.flowKey false]))
  | .flowEmptyValue => some (some (emptyScalar, reader.goTo [.flowKey false]))

def events? : Nat → Reader → Option (List Event)
  | 0, _ => none
  | fuel + 1, reader =>
      match reader.places with
      | [] => none
      | place :: places => do
          match ← { reader with places }.step? place with
          | none => return []
          | some (event, reader) => return event :: (← events? fuel reader)

end Reader

/-- The events of all documents among the tokens. A first document needs no mark. -/
def ofTokens? (tokens : Array Token) : Option (List Event) := do
  let reader : Reader := { tokens := tokens.toList, places := [] }
  match ← reader.startDocument? true with
  | none => return []
  | some (event, reader) =>
      return event :: (← reader.events? (4 * tokens.size + 16))

end Event

end ShootKubeconfig.Yaml
