import ShootKubeconfig.Text.Invisible

namespace ShootKubeconfig.Text

def hexadecimal (n : Nat) : List Char :=
  Nat.toDigits 16 n

/-- One character of quoted text, where `mark` is the quotation mark in use. -/
def quotedUnit (mark c : Char) : List Char :=
  if c = '\x00' then ['\\', '0']
  else if c = '\t' then ['\\', 't']
  else if c = '\r' then ['\\', 'r']
  else if c = '\n' then ['\\', 'n']
  else if c = '\\' ∨ c = mark then ['\\', c]
  else if isInvisible c then ['\\', 'u', '\x7b'] ++ hexadecimal c.toNat ++ ['\x7d']
  else [c]

def quoted (text : String) : String :=
  String.ofList ('"' :: text.toList.flatMap (quotedUnit '"') ++ ['"'])

def quotedChar (c : Char) : String :=
  String.ofList ('\'' :: quotedUnit '\'' c ++ ['\''])

end ShootKubeconfig.Text
