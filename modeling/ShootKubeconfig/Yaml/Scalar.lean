import ShootKubeconfig.Yaml.Plain

namespace ShootKubeconfig.Yaml

inductive Style where
  | plain
  | singleQuoted
  | doubleQuoted
  | literal
  deriving DecidableEq, Repr

def isBreak (c : Char) : Bool :=
  c == '\n' || c == '\r' || c == '\u0085' || c == '\u2028' || c == '\u2029'

def endsWord : Option Char → Bool
  | none => true
  | some c => c == ' ' || c == '\t' || c == '\x00' || isBreak c

/-- The characters that stand for themselves in every form. -/
def isPrintable (c : Char) : Bool :=
  let n := c.toNat
  n == 0x0A || (0x20 ≤ n && n ≤ 0x7E) ||
    (0xA0 ≤ n && n != 0xFEFF && n != 0xFFFE && n != 0xFFFF)

def withNeighbours (previous : Option Char) :
    List Char → List (Option Char × Char × Option Char)
  | [] => []
  | c :: rest => (previous, c, rest.head?) :: withNeighbours (some c) rest

def isIndicatorAtStart (c : Char) (next : Option Char) : Bool :=
  c ∈ ['#', ',', '[', ']', '\x7b', '\x7d', '&', '*', '!', '|', '>', '\'', '"', '%', '@', '\x60'] ||
    ((c == '?' || c == ':' || c == '-') && endsWord next)

def isIndicatorWithin (previous : Option Char) (c : Char) (next : Option Char) : Bool :=
  (c == ':' && endsWord next) || (c == '#' && endsWord previous)

def hasIndicator (text : List Char) : Bool :=
  text.take 3 == ['-', '-', '-'] || text.take 3 == ['.', '.', '.'] ||
    (withNeighbours none text).any fun (previous, c, next) =>
      match previous with
      | none => isIndicatorAtStart c next
      | some before => isIndicatorWithin (some before) c next

def hasPair (first second : Char → Bool) (text : List Char) : Bool :=
  (withNeighbours none text).any fun (_, c, next) => first c && next.any second

def isSpace (c : Char) : Bool :=
  c == ' '

structure Allowed where
  plain : Bool
  singleQuoted : Bool
  literal : Bool
  deriving DecidableEq, Repr

/-- Spaces at an end or beside a break get lost in some forms, and characters that do not
stand for themselves need escapes. -/
def allowed (text : List Char) : Allowed :=
  if text = [] then ⟨true, true, false⟩
  else
    let outer := [text.head?, text.getLast?]
    let escapes := hasPair isSpace isBreak text || !text.all isPrintable
    let breakSpace := hasPair isBreak isSpace text
    let outerBlank := outer.any fun c => c.any fun c => isSpace c || isBreak c
    { plain := !(outerBlank || breakSpace || escapes || text.any isBreak || hasIndicator text)
      singleQuoted := !(breakSpace || escapes)
      literal := !(text.getLast?.any isSpace || escapes) }

/-- Text of several lines is written line by line, and text that could be taken for something
else is quoted, as far as the characters allow. -/
def styleOf (text : String) : Style :=
  let chars := text.toList
  let allowed := allowed chars
  let quoted := if allowed.singleQuoted then .singleQuoted else .doubleQuoted
  if chars.contains '\n' then
    if allowed.literal then .literal else .doubleQuoted
  else if looksOtherThanText text then quoted
  else if allowed.plain then .plain
  else quoted

def spaces (count : Nat) : List Char :=
  List.replicate count ' '

/-- A line feed among quoted text is doubled, and the text after a break is indented. -/
def singleQuotedBody (indent : Nat) (afterBreak : Bool) : List Char → List Char
  | [] => if afterBreak then spaces indent else []
  | c :: rest =>
      if isBreak c then
        (if !afterBreak && c == '\n' then ['\n', c] else [c]) ++
          singleQuotedBody indent true rest
      else if isSpace c then c :: singleQuotedBody indent afterBreak rest
      else
        (if afterBreak then spaces indent else []) ++
          (if c = '\'' then ['\'', '\''] else [c]) ++ singleQuotedBody indent false rest

def upperHexadecimal (width n : Nat) : List Char :=
  let digits := (Nat.toDigits 16 n).map Char.toUpper
  List.replicate (width - digits.length) '0' ++ digits

def doubleQuotedUnit (c : Char) : List Char :=
  if isPrintable c && !isBreak c && c != '"' && c != '\\' then [c]
  else
    '\\' ::
      match c.toNat with
      | 0x00 => ['0']
      | 0x07 => ['a']
      | 0x08 => ['b']
      | 0x09 => ['t']
      | 0x0A => ['n']
      | 0x0B => ['v']
      | 0x0C => ['f']
      | 0x0D => ['r']
      | 0x1B => ['e']
      | 0x22 => ['"']
      | 0x5C => ['\\']
      | 0x85 => ['N']
      | 0xA0 => ['_']
      | 0x2028 => ['L']
      | 0x2029 => ['P']
      | n =>
          if n ≤ 0xFF then 'x' :: upperHexadecimal 2 n
          else if n ≤ 0xFFFF then 'u' :: upperHexadecimal 4 n
          else 'U' :: upperHexadecimal 8 n

def chomping (text : List Char) : List Char :=
  match text.reverse with
  | last :: rest =>
      if !isBreak last then ['-']
      else
        match rest with
        | [] => ['+']
        | c :: _ => if isBreak c then ['+'] else []
  | [] => ['-']

def literalHeader (text : List Char) : List Char :=
  '|' :: (if text.head?.any fun c => isSpace c || isBreak c then ['2'] else []) ++ chomping text

def literalBody (indent : Nat) (afterBreak : Bool) : List Char → List Char
  | [] => if afterBreak then [] else ['\n']
  | c :: rest =>
      if isBreak c then c :: literalBody indent true rest
      else (if afterBreak then spaces indent else []) ++ c :: literalBody indent false rest

/-- A text up to the end of its line, where `indent` is the indentation of further lines. -/
def writeScalar (indent : Nat) (text : String) : List Char :=
  let chars := text.toList
  match styleOf text with
  | .plain => chars ++ ['\n']
  | .singleQuoted => '\'' :: singleQuotedBody indent false chars ++ ['\'', '\n']
  | .doubleQuoted => '"' :: chars.flatMap doubleQuotedUnit ++ ['"', '\n']
  | .literal => literalHeader chars ++ '\n' :: literalBody indent true chars

end ShootKubeconfig.Yaml
