import ShootKubeconfig.Power
import ShootKubeconfig.Text.Utf8

namespace ShootKubeconfig.Certificate

structure Header where
  tagClass : Nat
  constructed : Bool
  number : Nat
  length : Nat
  deriving DecidableEq, Repr

structure Element where
  header : Header
  content : Octets
  deriving DecidableEq, Repr

namespace Header

def contextClass : Nat := 2

/-- A tag number of several octets, seven bits each, of which 32 bits in all are kept. -/
def longNumber? (number : Nat) : Nat → Octets → Option (Nat × Octets)
  | 0, _ => none
  | _ + 1, [] => none
  | count + 1, octet :: rest =>
      let number := (number * 128 + octet.toNat % 128) % 2 ^ 32
      if octet.toNat < 128 then some (number, rest) else longNumber? number count rest

def number? (octet : Nat) (rest : Octets) : Option (Nat × Octets) :=
  if octet % 32 = 31 then longNumber? 0 5 rest else some (octet % 32, rest)

/-- A length is one octet below 128, or the number of the octets that hold it. A length that is
left open is none. -/
def length? : Octets → Option (Nat × Octets)
  | [] => none
  | octet :: rest =>
      let count := octet.toNat % 128
      if octet.toNat < 128 then some (count, rest)
      else if count = 0 ∨ count = 127 ∨ rest.length < count then none
      else
        some ((rest.take count).foldl (fun n octet => n * 256 + octet.toNat) 0, rest.drop count)

def read? : Octets → Option (Header × Octets)
  | [] => none
  | octet :: rest => do
      let (number, rest) ← number? octet.toNat rest
      let (length, rest) ← length? rest
      return (⟨octet.toNat / 64, octet.toNat / 32 % 2 = 1, number, length⟩, rest)

end Header

namespace Element

def read? (octets : Octets) : Option (Element × Octets) := do
  let (header, rest) ← Header.read? octets
  if rest.length < header.length then none
  else return (⟨header, rest.take header.length⟩, rest.drop header.length)

def integer : Nat := 2

def boolean : Nat := 1

def bitString : Nat := 3

def octetString : Nat := 4

def sequence : Nat := 16

def utcTime : Nat := 23

def generalizedTime : Nat := 24

def readNumbered? (number : Nat) (octets : Octets) : Option (Element × Octets) := do
  let (element, rest) ← read? octets
  if element.header.number = number then some (element, rest) else none

end Element

end ShootKubeconfig.Certificate
