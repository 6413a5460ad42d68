import ShootKubeconfig.Yaml.Cursor

namespace ShootKubeconfig.Yaml

/-- How a scalar that was read had been written. -/
inductive Form where
  | plain
  | quoted
  | literal
  | folded
  deriving DecidableEq, Repr

inductive Token where
  | versionDirective (major minor : Nat)
  | tagDirective (handle stem : String)
  | documentStart
  | documentEnd
  | blockSequenceStart
  | blockMappingStart
  | blockEnd
  | flowSequenceStart
  | flowSequenceEnd
  | flowMappingStart
  | flowMappingEnd
  | blockEntry
  | flowEntry
  | key
  | value
  | alias (name : String)
  | anchor (name : String)
  | tag (handle suffix : String)
  | scalar (text : String) (form : Form)
  | streamEnd
  deriving DecidableEq, Repr, Inhabited

namespace Token

def isNameCharacter (c : Char) : Bool :=
  c.isAlphanum || c == '_' || c == '-'

def readName (cursor : Cursor) : List Char × Cursor :=
  let name := cursor.rest.takeWhile isNameCharacter
  (name, cursor.skip name.length)

/-- A name after its mark, followed by the end of a word or by certain indicators. -/
def readReference? (cursor : Cursor) : Option (String × Cursor) :=
  let (name, cursor) := readName (cursor.skip 1)
  let followed :=
    cursor.wordEndsAt 0 ||
      cursor.next?.any fun c => c ∈ ['?', ':', ',', ']', '\x7d', '%', '@', '\x60']
  if name = [] ∨ !followed then none else some (String.ofList name, cursor)

def hexValue? (digits : List Char) : Option Nat :=
  digits.foldlM (fun n c => (digitIn? 16 c).map (n * 16 + ·)) 0

def octetCount? (octet : Nat) : Option Nat :=
  if octet < 0x80 then some 1
  else if octet / 32 = 6 then some 2
  else if octet / 16 = 14 then some 3
  else if octet / 8 = 30 then some 4
  else none

def readEscapedOctet? (cursor : Cursor) : Option (Nat × Cursor) :=
  match cursor.rest with
  | '%' :: a :: b :: _ => do return (← hexValue? [a, b], cursor.skip 3)
  | _ => none

def readContinuation? : Nat → Cursor → Option (List Char × Cursor)
  | 0, cursor => some ([], cursor)
  | count + 1, cursor => do
      let (octet, cursor) ← readEscapedOctet? cursor
      if octet / 64 ≠ 2 then none
      let (octets, cursor) ← readContinuation? count cursor
      return (Char.ofNat octet :: octets, cursor)

/-- A character as escaped octets, each of which is kept as a character of its own. -/
def readEscaped? (cursor : Cursor) : Option (List Char × Cursor) := do
  let (octet, cursor) ← readEscapedOctet? cursor
  let (octets, cursor) ← readContinuation? ((← octetCount? octet) - 1) cursor
  return (Char.ofNat octet :: octets, cursor)

def isTagCharacter (verbatim : Bool) (c : Char) : Bool :=
  isNameCharacter c ||
    c ∈ [';', '/', '?', ':', '@', '&', '=', '+', '$', '.', '%', '!', '~', '*', '\'', '(', ')'] ||
    (verbatim && c ∈ [',', '[', ']'])

def readTagText? (verbatim : Bool) : Nat → Cursor → Option (List Char × Cursor)
  | 0, _ => none
  | fuel + 1, cursor =>
      match cursor.next? with
      | none => some ([], cursor)
      | some c =>
          if !isTagCharacter verbatim c then some ([], cursor)
          else do
            let (read, cursor) ←
              if c = '%' then readEscaped? cursor else some ([c], cursor.skip 1)
            let (text, cursor) ← readTagText? verbatim fuel cursor
            return (read ++ text, cursor)

def continueTag? (verbatim : Bool) (start : List Char) (cursor : Cursor) :
    Option (List Char × Cursor) := do
  let (text, cursor) ← readTagText? verbatim (cursor.rest.length + 1) cursor
  if start = [] ∧ text = [] then none else some (start.drop 1 ++ text, cursor)

/-- What stands before the suffix of a tag: a mark, or a name between two marks. -/
def readHandle? (cursor : Cursor) : Option (List Char × Cursor) :=
  if cursor.startsWith '!' then
    let (name, cursor) := readName (cursor.skip 1)
    if cursor.startsWith '!' then some ('!' :: name ++ ['!'], cursor.skip 1)
    else some ('!' :: name, cursor)
  else none

def isNamedHandle (handle : List Char) : Bool :=
  2 ≤ handle.length && handle.getLast? == some '!'

def readTagParts? (cursor : Cursor) : Option (Token × Cursor) :=
  if cursor.at? 1 = some '<' then do
    let (suffix, cursor) ← continueTag? true [] (cursor.skip 2)
    if cursor.startsWith '>' then
      return (.tag "" (String.ofList suffix), cursor.skip 1)
    else none
  else do
    let (handle, cursor) ← readHandle? cursor
    if isNamedHandle handle then
      let (suffix, cursor) ← continueTag? false [] cursor
      return (.tag (String.ofList handle) (String.ofList suffix), cursor)
    else
      let (suffix, cursor) ← continueTag? false handle cursor
      if suffix = [] then return (.tag "" "!", cursor)
      else return (.tag "!" (String.ofList suffix), cursor)

def readTag? (inFlow : Bool) (cursor : Cursor) : Option (Token × Cursor) := do
  let (token, cursor) ← readTagParts? cursor
  if cursor.wordEndsAt 0 ∨ (inFlow ∧ cursor.startsWith ',') then return (token, cursor) else none

def readVersionNumber? (cursor : Cursor) : Option (Nat × Cursor) :=
  let digits := cursor.rest.takeWhile Char.isDigit
  if digits = [] ∨ 9 < digits.length then none
  else (digitsIn? 10 digits).map fun n => (n, cursor.skip digits.length)

def readVersionDirective? (cursor : Cursor) : Option (Token × Cursor) := do
  let (major, cursor) ← readVersionNumber? cursor.skipBlanks
  if !cursor.startsWith '.' then none
  let (minor, cursor) ← readVersionNumber? (cursor.skip 1)
  return (.versionDirective major minor, cursor)

def readTagDirective? (cursor : Cursor) : Option (Token × Cursor) := do
  let (handle, cursor) ← readHandle? cursor.skipBlanks
  if handle ≠ ['!'] ∧ !isNamedHandle handle then none
  if !cursor.atBlank then none
  let (stem, cursor) ← continueTag? true [] cursor.skipBlanks
  if !cursor.wordEndsAt 0 then none
  return (.tagDirective (String.ofList handle) (String.ofList stem), cursor)

def readDirective? (cursor : Cursor) : Option (Token × Cursor) := do
  let (name, cursor) := readName (cursor.skip 1)
  if !cursor.wordEndsAt 0 then none
  let (directive, cursor) ←
    if name = "YAML".toList then readVersionDirective? cursor
    else if name = "TAG".toList then readTagDirective? cursor
    else none
  let cursor := cursor.skipBlanks.skipComment
  if cursor.atLineEnd then return (directive, cursor.skipBreak) else none

/-- What separates the words of a scalar: blanks, or breaks with blanks that do not count. -/
structure Gap where
  broken : Bool := false
  blanks : List Char := []
  firstBreak : Option Char := none
  moreBreaks : List Char := []

/-- A single line feed reads as a space; of several the first does not count. -/
def Gap.text (gap : Gap) : List Char :=
  if !gap.broken then gap.blanks.reverse
  else
    match gap.firstBreak, gap.moreBreaks with
    | some '\n', [] => [' ']
    | some '\n', more => more.reverse
    | some first, more => first :: more.reverse
    | none, more => more.reverse

/-- A tab may not stand where the indentation of a further line is expected. -/
def readGap? (indent : Int) : Nat → Gap → Cursor → Option (Gap × Cursor)
  | 0, gap, cursor => some (gap, cursor)
  | fuel + 1, gap, cursor =>
      match cursor.next? with
      | none => some (gap, cursor)
      | some c =>
          if Cursor.isBlankChar c then
            if gap.broken then
              if c = '\t' ∧ (cursor.column : Int) < indent then none
              else readGap? indent fuel gap (cursor.skip 1)
            else readGap? indent fuel { gap with blanks := c :: gap.blanks } (cursor.skip 1)
          else
            match cursor.readBreak? with
            | none => some (gap, cursor)
            | some (c, cursor) =>
                if gap.broken then
                  readGap? indent fuel { gap with moreBreaks := c :: gap.moreBreaks } cursor
                else
                  readGap? indent fuel { broken := true, firstBreak := some c } cursor

def escape? (c : Char) : Option (Char ⊕ Nat) :=
  match c with
  | '0' => some (.inl '\x00')
  | 'a' => some (.inl '\x07')
  | 'b' => some (.inl '\x08')
  | 't' | '\t' => some (.inl '\t')
  | 'n' => some (.inl '\n')
  | 'v' => some (.inl '\x0b')
  | 'f' => some (.inl '\x0c')
  | 'r' => some (.inl '\r')
  | 'e' => some (.inl '\x1b')
  | ' ' => some (.inl ' ')
  | '"' => some (.inl '"')
  | '/' => some (.inl '/')
  | '\\' => some (.inl '\\')
  | 'N' => some (.inl '\u0085')
  | '_' => some (.inl '\u00a0')
  | 'L' => some (.inl '\u2028')
  | 'P' => some (.inl '\u2029')
  | 'x' => some (.inr 2)
  | 'u' => some (.inr 4)
  | 'U' => some (.inr 8)
  | _ => none

def readEscape? (cursor : Cursor) : Option (Char × Cursor) := do
  match ← escape? (← cursor.at? 1) with
  | .inl c => return (c, cursor.skip 2)
  | .inr count =>
      let digits := (cursor.rest.drop 2).take count
      let point ← hexValue? digits
      if digits.length = count ∧ point.isValidChar then
        return (Char.ofNat point, cursor.skip (2 + count))
      else none

mutual

/-- Quoted text from the start of a word, gathered in reverse. -/
def readQuotedWord? (mark : Char) : Nat → List Char → Cursor → Option (List Char × Cursor)
  | 0, _, _ => none
  | fuel + 1, gathered, cursor =>
      if cursor.wordEndsAt 0 then readQuotedGap? mark fuel {} gathered cursor
      else if mark = '\'' ∧ cursor.rest.take 2 = ['\'', '\''] then
        readQuotedWord? mark fuel ('\'' :: gathered) (cursor.skip 2)
      else if cursor.startsWith mark then some (gathered.reverse, cursor.skip 1)
      else if mark = '"' ∧ cursor.startsWith '\\' then
        if (cursor.at? 1).any isBreak then
          readQuotedGap? mark fuel { broken := true } gathered (cursor.skip 1).skipBreak
        else
          match readEscape? cursor with
          | some (c, cursor) => readQuotedWord? mark fuel (c :: gathered) cursor
          | none => none
      else
        match cursor.next? with
        | some c => readQuotedWord? mark fuel (c :: gathered) (cursor.skip 1)
        | none => none

def readQuotedGap? (mark : Char) :
    Nat → Gap → List Char → Cursor → Option (List Char × Cursor)
  | 0, _, _, _ => none
  | fuel + 1, gap, gathered, cursor =>
      if cursor.startsWith mark then some (gathered.reverse, cursor.skip 1)
      else
        match readGap? 0 (cursor.rest.length + 1) gap cursor with
        | none => none
        | some (gap, cursor) =>
            if cursor.atEnd ∨ cursor.atDocumentMark '-' ∨ cursor.atDocumentMark '.' then none
            else readQuotedWord? mark fuel (gap.text.reverse ++ gathered) cursor

end

def readQuoted? (mark : Char) (cursor : Cursor) : Option (Token × Cursor) := do
  let (text, cursor) ←
    readQuotedWord? mark (2 * cursor.rest.length + 2) [] (cursor.skip 1)
  return (.scalar (String.ofList text) .quoted, cursor)

def isFlowIndicator (c : Char) : Bool :=
  c ∈ [',', '[', ']', '\x7b', '\x7d']

/-- Where an unquoted scalar ends within a word, if it is well-formed up to there. -/
def plainEnds? (inFlow : Bool) (cursor : Cursor) : Option Bool :=
  match cursor.next? with
  | none => some true
  | some c =>
      if inFlow && c == ':' && (cursor.at? 1).any fun c => isFlowIndicator c || c == '?' then none
      else
        some (cursor.wordEndsAt 0 || (c == ':' && cursor.wordEndsAt 1) ||
          (inFlow && isFlowIndicator c))

def readPlainWord? (inFlow : Bool) :
    Nat → List Char → Cursor → Option (List Char × Cursor)
  | 0, _, _ => none
  | fuel + 1, gathered, cursor => do
      if ← plainEnds? inFlow cursor then return (gathered, cursor)
      else
        match cursor.next? with
        | some c => readPlainWord? inFlow fuel (c :: gathered) (cursor.skip 1)
        | none => return (gathered, cursor)

/-- The words of an unquoted scalar, gathered in reverse, and whether it ends after a break. The
gap before the next word counts only if there is one. -/
def readPlainWords? (inFlow : Bool) (indent : Int) :
    Nat → Gap → List Char → Cursor → Option (List Char × Bool × Cursor)
  | 0, _, _, _ => none
  | fuel + 1, gap, gathered, cursor => do
      if cursor.atDocumentMark '-' ∨ cursor.atDocumentMark '.' ∨ cursor.startsWith '#' then
        return (gathered, gap.broken, cursor)
      let (word, cursor) ← readPlainWord? inFlow (cursor.rest.length + 1) [] cursor
      let gathered := if word = [] then gathered else word ++ gap.text.reverse ++ gathered
      let gap : Gap := if word = [] then gap else {}
      if !(cursor.atBlank || cursor.atBreak) then return (gathered, gap.broken, cursor)
      let (gap, cursor) ← readGap? indent (cursor.rest.length + 1) gap cursor
      if !inFlow ∧ (cursor.column : Int) < indent then return (gathered, gap.broken, cursor)
      readPlainWords? inFlow indent fuel gap gathered cursor

def readPlain? (inFlow : Bool) (indent : Int) (cursor : Cursor) :
    Option (Token × Bool × Cursor) := do
  let (text, broken, cursor) ←
    readPlainWords? inFlow indent (cursor.rest.length + 1) {} [] cursor
  return (.scalar (String.ofList text.reverse) .plain, broken, cursor)

inductive Ending where
  | strip
  | clip
  | keep
  deriving DecidableEq

def ending? (cursor : Cursor) : Option (Ending × Cursor) :=
  match cursor.next? with
  | some '+' => some (.keep, cursor.skip 1)
  | some '-' => some (.strip, cursor.skip 1)
  | _ => none

/-- The indentation that a block scalar asks for, zero if it does not. -/
def increment? (cursor : Cursor) : Option (Nat × Cursor) :=
  match cursor.next? with
  | none => some (0, cursor)
  | some c =>
      if c.isDigit then
        if c = '0' then none else some (c.toNat - '0'.toNat, cursor.skip 1)
      else some (0, cursor)

def readBlockHeader? (cursor : Cursor) : Option (Ending × Nat × Cursor) := do
  let (ending, increment, cursor) ←
    match ending? cursor with
    | some (ending, cursor) => do
        let (increment, cursor) ← increment? cursor
        pure (ending, increment, cursor)
    | none => do
        let (increment, cursor) ← increment? cursor
        if increment = 0 then pure (Ending.clip, 0, cursor)
        else
          let (ending, cursor) := (ending? cursor).getD (.clip, cursor)
          pure (ending, increment, cursor)
  let cursor := cursor.skipBlanks.skipComment
  if cursor.atLineEnd then return (ending, increment, cursor.skipBreak) else none

/-- Empty lines and indentation. While the indentation is open, `widest` is the greatest seen;
the breaks are gathered in reverse. -/
def readIndentation? (indent : Option Nat) :
    Nat → Nat → List Char → Cursor → Option (Nat × List Char × Cursor)
  | 0, _, _, _ => none
  | fuel + 1, widest, breaks, cursor =>
      let spaces := (cursor.rest.takeWhile (· == ' ')).length
      let cursor :=
        cursor.skip (match indent with
          | none => spaces
          | some indent => min spaces (indent - cursor.column))
      let widest := max widest cursor.column
      let within :=
        match indent with
        | none => true
        | some indent => cursor.column < indent
      if within && cursor.startsWith '\t' then none
      else
        match cursor.readBreak? with
        | none => some (widest, breaks, cursor)
        | some (c, cursor) => readIndentation? indent fuel widest (c :: breaks) cursor

structure BlockText where
  gathered : List Char := []
  lastBreak : Option Char := none
  breaks : List Char := []
  afterBlank : Bool := false

/-- The text before a further line, which is joined to the one before it if the scalar is folded
and neither of them begins with a blank. -/
def BlockText.beforeLine (text : BlockText) (folded startsBlank : Bool) : List Char :=
  if folded && text.lastBreak == some '\n' && !text.afterBlank && !startsBlank then
    (if text.breaks = [] then [' '] else text.breaks) ++ text.gathered
  else text.breaks ++ text.lastBreak.toList ++ text.gathered

def readBlockLines? (folded : Bool) (indent : Nat) :
    Nat → BlockText → Cursor → Option (BlockText × Cursor)
  | 0, _, _ => none
  | fuel + 1, text, cursor =>
      if cursor.column ≠ indent ∨ cursor.atEnd then some (text, cursor)
      else do
        let startsBlank := cursor.atBlank
        let before := text.beforeLine folded startsBlank
        let line := cursor.rest.takeWhile fun c => !isBreak c
        let cursor := cursor.skip line.length
        let (lastBreak, cursor) :=
          match cursor.readBreak? with
          | some (c, cursor) => (some c, cursor)
          | none => (none, cursor)
        let (_, breaks, cursor) ←
          readIndentation? (some indent) (cursor.rest.length + 1) 0 [] cursor
        readBlockLines? folded indent fuel
          { gathered := line.reverse ++ before, lastBreak, breaks, afterBlank := startsBlank }
          cursor

/-- A block scalar within the given indentation, which it has to exceed. -/
def readBlock? (folded : Bool) (indent : Int) (cursor : Cursor) : Option (Token × Cursor) := do
  let (ending, increment, cursor) ← readBlockHeader? (cursor.skip 1)
  let asked := if increment = 0 then none else some ((max indent 0).toNat + increment)
  let (widest, breaks, cursor) ←
    readIndentation? asked (cursor.rest.length + 1) 0 [] cursor
  let width := asked.getD (max widest (max (indent + 1) 1).toNat)
  let (text, cursor) ←
    readBlockLines? folded width (cursor.rest.length + 1) { breaks } cursor
  let text :=
    match ending with
    | .strip => text.gathered
    | .clip => text.lastBreak.toList ++ text.gathered
    | .keep => text.breaks ++ text.lastBreak.toList ++ text.gathered
  return (.scalar (String.ofList text.reverse) (if folded then .folded else .literal), cursor)

end Token

end ShootKubeconfig.Yaml
