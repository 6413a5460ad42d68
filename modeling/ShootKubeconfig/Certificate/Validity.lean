import ShootKubeconfig.Certificate.Element
import ShootKubeconfig.Time.Calendar

namespace ShootKubeconfig.Certificate

open Calendar

def pairs? : Nat → List Char → Option (List Nat × List Char)
  | 0, rest => some ([], rest)
  | count + 1, a :: b :: rest =>
      if a.isDigit && b.isDigit then do
        let (numbers, rest) ← pairs? count rest
        return (((a.toNat - '0'.toNat) * 10 + (b.toNat - '0'.toNat)) :: numbers, rest)
      else none
  | _ + 1, _ => none

/-- The seconds may be missing, unless more than one character is left. -/
def seconds? : List Char → Option (Nat × List Char)
  | [] => none
  | [c] => some (0, [c])
  | text => do
      let (seconds, rest) ← pairs? 1 text
      return (seconds.headD 0, rest)

def clockValid (hour minute second : Nat) : Bool :=
  hour ≤ 23 ∧ minute ≤ 59 ∧ second ≤ 59

def isOffset (text : List Char) : Bool :=
  match text with
  | sign :: rest =>
      (sign == '+' || sign == '-') &&
        match pairs? 2 rest with
        | some ([hours, minutes], []) => hours ≤ 25 ∧ minutes ≤ 59
        | _ => false
  | [] => false

/-- A year of two digits from 50 on is one of the twentieth century. -/
def isUtcTime (text : List Char) : Bool :=
  match pairs? 5 text with
  | some ([year, month, day, hour, minute], rest) =>
      match seconds? rest with
      | some (second, rest) =>
          let year := if year < 50 then 2000 + year else 1900 + year
          Date.valid ⟨year, month, day⟩ && clockValid hour minute second &&
            (rest == ['Z'] || isOffset rest)
      | none => false
  | _ => false

def skipFraction : List Char → List Char
  | '.' :: rest => rest.drop (min 3 (rest.takeWhile Char.isDigit).length)
  | rest => rest

def isGeneralizedTime (text : List Char) : Bool :=
  match pairs? 6 text with
  | some ([century, year, month, day, hour, minute], rest) =>
      match seconds? rest with
      | some (second, rest) =>
          Date.valid ⟨(century * 100 + year : Nat), month, day⟩ && clockValid hour minute second &&
            skipFraction rest == ['Z']
      | none => false
  | _ => false

def isTime (element : Element) : Bool :=
  let text := element.content.map fun octet => Char.ofNat octet.toNat
  if element.header.number = Element.utcTime then
    (element.content.all fun octet => 0x20 ≤ octet ∧ octet ≤ 0x7F) && isUtcTime text
  else element.header.number == Element.generalizedTime && isGeneralizedTime text

def validity? (octets : Octets) : Option Octets := do
  let (period, rest) ← Element.readNumbered? Element.sequence octets
  let (start, times) ← Element.read? period.content
  let (finish, _) ← Element.read? times
  if isTime start && isTime finish then some rest else none

end ShootKubeconfig.Certificate
