import ShootKubeconfig.Yaml.Scalar

/-!
Values written as block mappings and block sequences. A level of mapping indents by two; a
sequence stands at the indentation of its key.
-/

namespace ShootKubeconfig.Yaml

/-- The keys of a mapping are plain words. -/
inductive Tree where
  | text (value : String)
  | boolean (value : Bool)
  | mapping (fields : List (String × Tree))
  | sequence (items : List Tree)
  deriving Inhabited

namespace Tree

def level : Nat := 2

mutual

/-- What follows the colon after a key in a mapping with the given indentation. -/
def writeValue (indent : Nat) : Tree → List Char
  | .text value => ' ' :: writeScalar (indent + level) value
  | .boolean value => ' ' :: (if value then "true" else "false").toList ++ ['\n']
  | .mapping [] => " \x7b\x7d\n".toList
  | .mapping (field :: fields) => '\n' :: writeFields (indent + level) (field :: fields)
  | .sequence [] => " []\n".toList
  | .sequence (item :: items) => '\n' :: writeItems indent (item :: items)

/-- What follows the dash before an item of a sequence with the given indentation. -/
def writeItem (indent : Nat) : Tree → List Char
  | .text value => writeScalar (indent + level) value
  | .boolean value => (if value then "true" else "false").toList ++ ['\n']
  | .mapping [] => "\x7b\x7d\n".toList
  | .mapping ((key, value) :: fields) =>
      key.toList ++ ':' :: writeValue (indent + level) value ++
        writeFields (indent + level) fields
  | .sequence [] => "[]\n".toList
  | .sequence (item :: items) =>
      ['-', ' '] ++ writeItem (indent + level) item ++ writeItems (indent + level) items

def writeFields (indent : Nat) : List (String × Tree) → List Char
  | [] => []
  | (key, value) :: fields =>
      spaces indent ++ key.toList ++ ':' :: writeValue indent value ++ writeFields indent fields

def writeItems (indent : Nat) : List Tree → List Char
  | [] => []
  | item :: items =>
      spaces indent ++ ['-', ' '] ++ writeItem indent item ++ writeItems indent items

end

def write (tree : Tree) : String :=
  String.ofList <|
    match tree with
    | .mapping (field :: fields) => writeFields 0 (field :: fields)
    | .sequence (item :: items) => writeItems 0 (item :: items)
    | tree => (writeValue 0 tree).drop 1

end Tree

end ShootKubeconfig.Yaml
