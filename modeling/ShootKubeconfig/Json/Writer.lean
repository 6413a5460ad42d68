import ShootKubeconfig.Json.Value
import ShootKubeconfig.Text.Utf8

namespace ShootKubeconfig

namespace Json

def lastDigits (count : Nat) (digits : List Char) : List Char :=
  List.replicate (count - digits.length) '0' ++ digits

def escaped (c : Char) : List Char :=
  if c = '"' then ['\\', '"']
  else if c = '\\' then ['\\', '\\']
  else if c = '\x08' then ['\\', 'b']
  else if c = '\x0c' then ['\\', 'f']
  else if c = '\n' then ['\\', 'n']
  else if c = '\r' then ['\\', 'r']
  else if c = '\t' then ['\\', 't']
  else if c.toNat < 0x20 then ['\\', 'u'] ++ lastDigits 4 (Nat.toDigits 16 c.toNat)
  else [c]

def writeText (text : String) : List Char :=
  '"' :: text.toList.flatMap escaped ++ ['"']

def writeInteger (value : Int) : List Char :=
  if value < 0 then '-' :: Nat.toDigits 10 value.natAbs else Nat.toDigits 10 value.natAbs

/-- A number with a fractional part is positional while it is below `10 ^ 16` and not below
`10 ^ -5`, and always shows that it is no integer. -/
def writeFraction (value : Binary64) : List Char :=
  let decimal := value.shortest
  let digits := Nat.toDigits 10 decimal.digits
  let count := digits.length
  let point : Int := count + decimal.exponent
  let sign := if value.negative then ['-'] else []
  let body :=
    if value.significand = 0 then ['0', '.', '0']
    else if 0 ≤ decimal.exponent ∧ point ≤ 16 then
      digits ++ List.replicate decimal.exponent.toNat '0' ++ ['.', '0']
    else if 0 < point ∧ point ≤ 16 then
      digits.take point.toNat ++ '.' :: digits.drop point.toNat
    else if -5 < point ∧ point ≤ 0 then
      ['0', '.'] ++ List.replicate (-point).toNat '0' ++ digits
    else
      let fractional := digits.drop 1
      digits.take 1 ++ (if fractional.isEmpty then [] else '.' :: fractional) ++
        'e' :: writeInteger (point - 1)
  sign ++ body

def separated : List (List Char) → List Char
  | [] => []
  | [item] => item
  | item :: rest => item ++ ',' :: separated rest

mutual

def writeChars : Json → List Char
  | .null => "null".toList
  | .boolean value => (if value then "true" else "false").toList
  | .integer value => writeInteger value
  | .fraction value => writeFraction value
  | .text value => writeText value
  | .list items => '[' :: separated (writeItems items) ++ [']']
  | .object fields => '\x7b' :: separated (writeFields fields) ++ ['\x7d']

def writeItems : List Json → List (List Char)
  | [] => []
  | item :: rest => writeChars item :: writeItems rest

def writeFields : List (String × Json) → List (List Char)
  | [] => []
  | (name, value) :: rest => (writeText name ++ ':' :: writeChars value) :: writeFields rest

end

def write (value : Json) : String :=
  String.ofList value.writeChars

def size (value : Json) : Nat :=
  (Utf8.encode value.write).length

end Json

end ShootKubeconfig
