import ShootKubeconfig.Yaml.Token

/-!
The tokens of a text. Indentation opens and closes block collections, and what stands before a
colon on one line becomes a key after it has been read.
-/

namespace ShootKubeconfig.Yaml

/-- A place where a key may have begun: before which token, and where in the text. A required one
has to turn out to be a key. -/
structure PossibleKey where
  required : Bool
  before : Nat
  index : Nat
  line : Nat
  column : Nat
  deriving DecidableEq

/-- The innermost flow collection comes first among `keys`, the block context last. -/
structure Layout where
  cursor : Cursor
  tokens : Array Token := #[]
  indent : Int := -1
  outerIndents : List Int := []
  keyAllowed : Bool := true
  key : Option PossibleKey := none
  outerKeys : List (Option PossibleKey) := []
  deriving Inhabited

namespace Layout

def inFlow (layout : Layout) : Bool :=
  !layout.outerKeys.isEmpty

def push (layout : Layout) (token : Token) : Layout :=
  { layout with tokens := layout.tokens.push token }

def advance (layout : Layout) (cursor : Cursor) : Layout :=
  { layout with cursor }

def insertBefore (layout : Layout) (position : Nat) (token : Token) : Layout :=
  { layout with
    tokens := layout.tokens.extract 0 position ++ #[token] ++
      layout.tokens.extract position layout.tokens.size }

/-- Blanks, comments and breaks before the next token. A tab does not stand where a key may. -/
def skipToToken : Nat → Layout → Layout
  | 0, layout => layout
  | fuel + 1, layout =>
      let cursor :=
        if layout.cursor.index = 0 ∧ layout.cursor.startsWith '\uFEFF' then layout.cursor.skip 1
        else layout.cursor
      let tabs := layout.inFlow || !layout.keyAllowed
      let cursor := (cursor.skipWhile fun c => c == ' ' || (tabs && c == '\t')).skipComment
      if cursor.atBreak then
        skipToToken fuel
          { layout with
            cursor := cursor.skipBreak
            keyAllowed := layout.keyAllowed || !layout.inFlow }
      else layout.advance cursor

/-- A key is on one line and shorter than 1024 characters. -/
def dropStale? (cursor : Cursor) : Option PossibleKey → Option (Option PossibleKey)
  | none => some none
  | some key =>
      if key.line < cursor.line ∨ key.index + 1024 < cursor.index then
        if key.required then none else some none
      else some (some key)

def dropStaleKeys? (layout : Layout) : Option Layout := do
  let outerKeys ← layout.outerKeys.mapM (dropStale? layout.cursor)
  let key ← dropStale? layout.cursor layout.key
  return { layout with key, outerKeys }

def forgetKey? (layout : Layout) : Option Layout :=
  if layout.key.any (·.required) then none else some { layout with key := none }

def rememberKey? (layout : Layout) : Option Layout :=
  if layout.keyAllowed then do
    let layout ← layout.forgetKey?
    let cursor := layout.cursor
    return { layout with
      key := some {
        required := !layout.inFlow && layout.indent == cursor.column
        before := layout.tokens.size
        index := cursor.index
        line := cursor.line
        column := cursor.column } }
  else some layout

def closeBlocks (column : Int) : Int → List Int → Array Token → Int × List Int × Array Token
  | indent, [], tokens => (indent, [], tokens)
  | indent, outer :: rest, tokens =>
      if column < indent then closeBlocks column outer rest (tokens.push .blockEnd)
      else (indent, outer :: rest, tokens)

/-- Closes the block collections that are indented further than a column. -/
def unindent (layout : Layout) (column : Int) : Layout :=
  if layout.inFlow then layout
  else
    let (indent, outerIndents, tokens) :=
      closeBlocks column layout.indent layout.outerIndents layout.tokens
    { layout with indent, outerIndents, tokens }

/-- Opens a block collection before the token at a position if a column is indented further. -/
def indentTo (layout : Layout) (column position : Nat) (token : Token) : Layout :=
  if layout.inFlow ∨ (column : Int) ≤ layout.indent then layout
  else
    let layout := layout.insertBefore position token
    { layout with indent := column, outerIndents := layout.indent :: layout.outerIndents }

def pushSkipping (layout : Layout) (count : Nat) (token : Token) : Layout :=
  (layout.push token).advance (layout.cursor.skip count)

def documentMark? (token : Token) (layout : Layout) : Option Layout := do
  let layout ← (layout.unindent (-1)).forgetKey?
  return { layout with keyAllowed := false }.pushSkipping 3 token

def directive? (layout : Layout) : Option Layout := do
  let layout ← (layout.unindent (-1)).forgetKey?
  let (token, cursor) ← Token.readDirective? layout.cursor
  return ({ layout with keyAllowed := false }.push token).advance cursor

def openFlow? (token : Token) (layout : Layout) : Option Layout := do
  let layout ← layout.rememberKey?
  return { layout with
    key := none
    outerKeys := layout.key :: layout.outerKeys
    keyAllowed := true }.pushSkipping 1 token

def closeFlow? (token : Token) (layout : Layout) : Option Layout := do
  let layout ← layout.forgetKey?
  let layout :=
    match layout.outerKeys with
    | key :: outerKeys => { layout with key, outerKeys }
    | [] => layout
  return { layout with keyAllowed := false }.pushSkipping 1 token

def flowEntry? (layout : Layout) : Option Layout := do
  let layout ← layout.forgetKey?
  return { layout with keyAllowed := true }.pushSkipping 1 .flowEntry

def indicated? (token : Token) (layout : Layout) : Option Layout :=
  if layout.inFlow then some layout
  else if layout.keyAllowed then
    some (layout.indentTo layout.cursor.column layout.tokens.size token)
  else none

def blockEntry? (layout : Layout) : Option Layout := do
  let layout ← (← layout.indicated? .blockSequenceStart).forgetKey?
  return { layout with keyAllowed := true }.pushSkipping 1 .blockEntry

def key? (layout : Layout) : Option Layout := do
  let layout ← (← layout.indicated? .blockMappingStart).forgetKey?
  return { layout with keyAllowed := !layout.inFlow }.pushSkipping 1 .key

def value? (layout : Layout) : Option Layout :=
  match layout.key with
  | some key =>
      let layout := (layout.insertBefore key.before .key).indentTo key.column key.before
        .blockMappingStart
      some ({ layout with key := none, keyAllowed := false }.pushSkipping 1 .value)
  | none => do
      let layout ← layout.indicated? .blockMappingStart
      return { layout with keyAllowed := !layout.inFlow }.pushSkipping 1 .value

def keyToken? (read : Cursor → Option (Token × Cursor)) (layout : Layout) : Option Layout := do
  let layout ← layout.rememberKey?
  let (token, cursor) ← read layout.cursor
  return ({ layout with keyAllowed := false }.push token).advance cursor

def reference? (make : String → Token) (layout : Layout) : Option Layout :=
  layout.keyToken? fun cursor => do
    let (name, cursor) ← Token.readReference? cursor
    return (make name, cursor)

def blockScalar? (folded : Bool) (layout : Layout) : Option Layout := do
  let layout ← layout.forgetKey?
  let (token, cursor) ← Token.readBlock? folded layout.indent layout.cursor
  return ({ layout with keyAllowed := true }.push token).advance cursor

def plain? (layout : Layout) : Option Layout := do
  let layout ← layout.rememberKey?
  let (token, broken, cursor) ←
    Token.readPlain? layout.inFlow (layout.indent + 1) layout.cursor
  return ({ layout with keyAllowed := broken }.push token).advance cursor

/-- A dash, question mark or colon begins an unquoted scalar only before another character. -/
def startsPlain (layout : Layout) (c : Char) : Bool :=
  let cursor := layout.cursor
  if c = '-' then !(cursor.at? 1).any Cursor.isBlankChar
  else if c = '?' ∨ c = ':' then !layout.inFlow && !cursor.wordEndsAt 1
  else
    !endsWord (some c) &&
      c ∉ [',', '[', ']', '\x7b', '\x7d', '#', '&', '*', '!', '|', '>', '\'', '"', '%', '@', '\x60']

def tokenFrom? (layout : Layout) (c : Char) : Option Layout :=
  let cursor := layout.cursor
  if cursor.column = 0 ∧ c = '%' then layout.directive?
  else if cursor.atDocumentMark '-' then layout.documentMark? .documentStart
  else if cursor.atDocumentMark '.' then layout.documentMark? .documentEnd
  else if c = '[' then layout.openFlow? .flowSequenceStart
  else if c = '\x7b' then layout.openFlow? .flowMappingStart
  else if c = ']' then layout.closeFlow? .flowSequenceEnd
  else if c = '\x7d' then layout.closeFlow? .flowMappingEnd
  else if c = ',' then layout.flowEntry?
  else if c = '-' ∧ cursor.wordEndsAt 1 then layout.blockEntry?
  else if c = '?' ∧ (layout.inFlow ∨ cursor.wordEndsAt 1) then layout.key?
  else if c = ':' ∧ (layout.inFlow ∨ cursor.wordEndsAt 1) then layout.value?
  else if c = '*' then layout.reference? .alias
  else if c = '&' then layout.reference? .anchor
  else if c = '!' then layout.keyToken? (Token.readTag? layout.inFlow)
  else if c = '|' ∧ !layout.inFlow then layout.blockScalar? false
  else if c = '>' ∧ !layout.inFlow then layout.blockScalar? true
  else if c = '\'' ∨ c = '"' then layout.keyToken? (Token.readQuoted? c)
  else if layout.startsPlain c then layout.plain?
  else none

def finish? (layout : Layout) : Option (Array Token) := do
  let layout ← (layout.unindent (-1)).forgetKey?
  return layout.tokens.push .streamEnd

def tokens? : Nat → Layout → Option (Array Token)
  | 0, _ => none
  | fuel + 1, layout => do
      let layout ← (layout.skipToToken (layout.cursor.rest.length + 1)).dropStaleKeys?
      let layout := layout.unindent layout.cursor.column
      match layout.cursor.next? with
      | none => layout.finish?
      | some c => tokens? fuel (← layout.tokenFrom? c)

end Layout

def isAllowedCharacter (c : Char) : Bool :=
  let n := c.toNat
  n == 0x09 || n == 0x0A || n == 0x0D || (0x20 ≤ n && n ≤ 0x7E) || n == 0x85 ||
    (0xA0 ≤ n && n ≤ 0xFFFD) || 0x10000 ≤ n

/-- A byte order mark before the text does not belong to it. -/
def tokensOf? (text : String) : Option (Array Token) :=
  let chars :=
    match text.toList with
    | '\uFEFF' :: rest => rest
    | chars => chars
  if chars.all isAllowedCharacter then
    Layout.tokens? (chars.length + 1) { cursor := { rest := chars } }
  else none

end ShootKubeconfig.Yaml
