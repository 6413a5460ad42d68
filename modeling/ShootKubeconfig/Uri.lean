import ShootKubeconfig.Text.Utf8

/-!
The parts of a URI as far as they lead to its authority, the part that names user, host and
port. The authority is kept as it is written.
-/

namespace ShootKubeconfig.Uri

inductive Malformed where
  | tooLong
  | empty
  | schemeTooLong
  | scheme
  | character
  | authority
  | format
  deriving DecidableEq, Repr

def Malformed.message : Malformed → String
  | .tooLong => "uri too long"
  | .empty => "empty string"
  | .schemeTooLong => "scheme too long"
  | .scheme => "invalid scheme"
  | .character => "invalid uri character"
  | .authority => "invalid authority"
  | .format => "invalid format"

def longest : Nat := 65534

def longestScheme : Nat := 64

def isLetterOrDigit (octet : UInt8) : Bool :=
  (0x30 ≤ octet && octet ≤ 0x39) || (0x41 ≤ octet && octet ≤ 0x5A) ||
    (0x61 ≤ octet && octet ≤ 0x7A)

def isAmong (characters : String) (octet : UInt8) : Bool :=
  characters.toList.any fun c => c.toNat == octet.toNat

def isSchemeOctet (octet : UInt8) : Bool :=
  isLetterOrDigit octet || isAmong "+-.~" octet

def isAuthorityOctet (octet : UInt8) : Bool :=
  isLetterOrDigit octet || isAmong "!#$&'()*+,-./:;=?@[]_~" octet

def isPathOctet (octet : UInt8) : Bool :=
  let n := octet.toNat
  n == 0x21 || (0x24 ≤ n && n ≤ 0x3B) || n == 0x3D || (0x40 ≤ n && n ≤ 0x5F) ||
    (0x61 ≤ n && n ≤ 0x7A) || n == 0x7C || n == 0x7E || 0x7F ≤ n || isAmong "\"\x7b\x7d" octet

def isQueryOctet (octet : UInt8) : Bool :=
  let n := octet.toNat
  n == 0x21 || (0x24 ≤ n && n ≤ 0x3B) || n == 0x3D || (0x3F ≤ n && n ≤ 0x7E) || 0x7F ≤ n

/-- A query may hold any of its octets and ends at a fragment, which is not looked at. -/
def isQuery : Octets → Bool
  | [] => true
  | octet :: rest => octet == 0x23 || (isQueryOctet octet && isQuery rest)

def isPathAndQuery : Octets → Bool
  | [] => true
  | octet :: rest =>
      if octet = 0x3F then isQuery rest
      else octet == 0x23 || (isPathOctet octet && isPathAndQuery rest)

def checkPath (octets : Octets) : Except Malformed Unit :=
  if isPathAndQuery octets then .ok () else .error .character

/-- The path of a request with its query, without a fragment. -/
def requestTarget? (text : String) : Option String :=
  let octets := Utf8.encode text
  if octets.length ≤ longest ∧ isPathAndQuery octets then
    some (String.ofList (text.toList.takeWhile (· != '#')))
  else none

/-- What has been seen of an authority: colons and a percent sign that may still belong to user
information, and the brackets of an address. -/
structure Seen where
  colons : Nat := 0
  opened : Bool := false
  closed : Bool := false
  percent : Bool := false
  endsAfterUser : Bool := false
  deriving DecidableEq, Repr

def Seen.wellFormed (seen : Seen) : Bool :=
  seen.opened == seen.closed && seen.colons ≤ 1 && !seen.endsAfterUser && !seen.percent

def Seen.next (seen : Seen) (octet : UInt8) : Except Malformed Seen :=
  let seen := { seen with endsAfterUser := false }
  if octet = 0x3A then
    if 8 ≤ seen.colons then .error .authority else .ok { seen with colons := seen.colons + 1 }
  else if octet = 0x5B then
    if seen.percent ∨ seen.opened then .error .authority else .ok { seen with opened := true }
  else if octet = 0x5D then
    if seen.opened ∧ !seen.closed then
      .ok { seen with closed := true, colons := 0, percent := false }
    else .error .authority
  else if octet = 0x40 then .ok { seen with colons := 0, percent := false, endsAfterUser := true }
  else if octet = 0x25 then .ok { seen with percent := true }
  else if isAuthorityOctet octet then .ok seen
  else .error .character

def endsAuthority (octet : UInt8) : Bool :=
  octet == 0x2F || octet == 0x3F || octet == 0x23

def readAuthority (seen : Seen) : Octets → Except Malformed (Octets × Octets)
  | [] => if seen.wellFormed then .ok ([], []) else .error .authority
  | octet :: rest =>
      if endsAuthority octet then
        if seen.wellFormed then .ok ([], octet :: rest) else .error .authority
      else do
        let (authority, rest) ← readAuthority (← seen.next octet) rest
        return (octet :: authority, rest)

def slashes : Octets := [0x3A, 0x2F, 0x2F]

def lowercase (octet : UInt8) : UInt8 :=
  if 0x41 ≤ octet && octet ≤ 0x5A then octet + 0x20 else octet

def afterKnownScheme? (octets : Octets) : Option Octets :=
  [Utf8.encode "http" ++ slashes, Utf8.encode "https" ++ slashes].findSome? fun start =>
    if start.isPrefixOf (octets.map lowercase) then some (octets.drop start.length) else none

def afterScheme (octets : Octets) : Except Malformed (Option Octets) :=
  match afterKnownScheme? octets with
  | some rest => .ok (some rest)
  | none =>
      let scheme := octets.takeWhile isSchemeOctet
      let rest := octets.drop scheme.length
      if 3 < octets.length ∧ slashes.isPrefixOf rest then
        if longestScheme < scheme.length then .error .schemeTooLong
        else .ok (some (rest.drop slashes.length))
      else .ok none

def present (authority : Octets) : Option Octets :=
  if authority = [] then none else some authority

def wholeAuthority (leftOver : Malformed) (octets : Octets) : Except Malformed (Option Octets) := do
  match ← readAuthority {} octets with
  | (authority, []) => return present authority
  | _ => .error leftOver

def authorityWithin (octets : Octets) : Except Malformed (Option Octets) :=
  match octets with
  | [] => .error .empty
  | [octet] =>
      if octet = 0x2F ∨ octet = 0x2A then .ok none else wholeAuthority .character octets
  | first :: _ =>
      if first = 0x2F then do
        checkPath octets
        return none
      else do
        match ← afterScheme octets with
        | none => wholeAuthority .format octets
        | some rest =>
            let (authority, rest) ← readAuthority {} rest
            if authority = [] then .error .format
            else do
              checkPath rest
              return some authority

def authority (text : String) : Except Malformed (Option Octets) :=
  let octets := Utf8.encode text
  if longest < octets.length then .error .tooLong else authorityWithin octets

end ShootKubeconfig.Uri
