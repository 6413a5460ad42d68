import ShootKubeconfig.Yaml.Scalar

namespace ShootKubeconfig.Yaml

structure Cursor where
  rest : List Char
  index : Nat := 0
  line : Nat := 0
  column : Nat := 0
  deriving Inhabited

namespace Cursor

def next? (cursor : Cursor) : Option Char :=
  cursor.rest.head?

def at? (cursor : Cursor) (distance : Nat) : Option Char :=
  cursor.rest[distance]?

def startsWith (cursor : Cursor) (c : Char) : Bool :=
  cursor.next? == some c

def skip (cursor : Cursor) (count : Nat) : Cursor :=
  { cursor with
    rest := cursor.rest.drop count
    index := cursor.index + count
    column := cursor.column + count }

def skipWhile (cursor : Cursor) (p : Char → Bool) : Cursor :=
  cursor.skip (cursor.rest.takeWhile p).length

def newLine (cursor : Cursor) (count : Nat) : Cursor :=
  { rest := cursor.rest.drop count
    index := cursor.index + count
    line := cursor.line + 1
    column := 0 }

/-- The break at the cursor, where every break within a line counts as a line feed. -/
def readBreak? (cursor : Cursor) : Option (Char × Cursor) :=
  match cursor.rest with
  | '\r' :: '\n' :: _ => some ('\n', cursor.newLine 2)
  | c :: _ =>
      if c = '\u2028' ∨ c = '\u2029' then some (c, cursor.newLine 1)
      else if isBreak c then some ('\n', cursor.newLine 1)
      else none
  | [] => none

def skipBreak (cursor : Cursor) : Cursor :=
  match cursor.readBreak? with
  | some (_, cursor) => cursor
  | none => cursor

def isBlankChar (c : Char) : Bool :=
  c == ' ' || c == '\t'

def skipBlanks (cursor : Cursor) : Cursor :=
  cursor.skipWhile isBlankChar

def atBlank (cursor : Cursor) : Bool :=
  cursor.next?.any isBlankChar

def atBreak (cursor : Cursor) : Bool :=
  cursor.next?.any isBreak

def atEnd (cursor : Cursor) : Bool :=
  cursor.rest.isEmpty

def atLineEnd (cursor : Cursor) : Bool :=
  cursor.atEnd || cursor.atBreak

/-- Whether a word ends before the character at some distance. -/
def wordEndsAt (cursor : Cursor) (distance : Nat) : Bool :=
  endsWord (cursor.at? distance)

def skipComment (cursor : Cursor) : Cursor :=
  if cursor.startsWith '#' then cursor.skipWhile fun c => !isBreak c else cursor

def atDocumentMark (cursor : Cursor) (c : Char) : Bool :=
  cursor.column == 0 && cursor.rest.take 3 == [c, c, c] && cursor.wordEndsAt 3

end Cursor

end ShootKubeconfig.Yaml
