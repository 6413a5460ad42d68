import ShootKubeconfig.Certificate.Validity

/-!
The structure of an X.509 certificate.

Each reader consumes one part and yields what follows it. Names, keys, signatures and the
content of extensions are not looked into.
-/

namespace ShootKubeconfig.Certificate

/-- The last octet of a bit string has at least as many zero bits as are unused. -/
def isBitString (element : Element) : Bool :=
  element.header.number == Element.bitString && !element.header.constructed &&
    match element.content with
    | [] => false
    | [unused] => unused == 0
    | unused :: bits =>
        let last := (bits.getLastD 0).toNat
        let zeros := ((List.range 8).takeWhile fun n => last / 2 ^ n % 2 == 0).length
        decide (unused.toNat ≤ zeros)

def bitString? (octets : Octets) : Option Octets := do
  let (element, rest) ← Element.read? octets
  if isBitString element then some rest else none

def algorithm? (octets : Octets) : Option Octets := do
  let (algorithm, rest) ← Element.readNumbered? Element.sequence octets
  let (identifier, parameters) ← Element.read? algorithm.content
  if identifier.header.constructed then none
  else if parameters = [] then some rest
  else do
    let _ ← Element.read? parameters
    return rest

/-- The version is a small natural number without superfluous octets. -/
def isVersionNumber (element : Element) : Bool :=
  element.header.number == Element.integer && !element.header.constructed &&
    match element.content with
    | [] => false
    | [octet] => octet.toNat < 128
    | first :: second :: rest =>
        first == 0 && decide (128 ≤ second.toNat) && decide (rest.length + 1 ≤ 4) ||
          decide (0 < first.toNat) && decide (first.toNat < 128) && decide (rest.length + 2 ≤ 4)

def version? (octets : Octets) : Option Octets :=
  match octets with
  | [] => some []
  | octets => do
      let (element, rest) ← Element.read? octets
      if element.header.number ≠ 0 then some octets
      else if element.header.tagClass ≠ Header.contextClass then none
      else do
        let (number, _) ← Element.read? element.content
        if isVersionNumber number then some rest else none

def serialNumber? (octets : Octets) : Option Octets :=
  (Element.readNumbered? Element.integer octets).map (·.2)

def name? (octets : Octets) : Option Octets :=
  (Element.readNumbered? Element.sequence octets).map (·.2)

def publicKey? (octets : Octets) : Option Octets := do
  let (key, rest) ← Element.readNumbered? Element.sequence octets
  let _ ← bitString? (← algorithm? key.content)
  return rest

def uniqueIdentifier? (number : Nat) (octets : Octets) : Option Octets :=
  match octets with
  | [] => some []
  | octets => do
      let (element, rest) ← Element.read? octets
      if element.header.number ≠ number then some octets
      else if element.header.tagClass ≠ Header.contextClass ∨ element.content = [] then none
      else some rest

def criticalFlag? (octets : Octets) : Option Octets := do
  let (element, rest) ← Element.read? octets
  if element.header.number ≠ Element.boolean then some octets
  else if element.content.length = 1 then some rest
  else none

def isExtension (element : Element) : Bool :=
  element.header.number == Element.sequence &&
    (do
      let (identifier, rest) ← Element.read? element.content
      if identifier.header.constructed then none
      let (value, _) ← Element.read? (← criticalFlag? rest)
      return value.header.number == Element.octetString && !value.header.constructed
      : Option Bool) == some true

def areExtensions : Nat → Octets → Bool
  | _, [] => true
  | 0, _ => false
  | fuel + 1, octets =>
      match Element.read? octets with
      | some (element, rest) => isExtension element && areExtensions fuel rest
      | none => false

/-- The extensions reach to the end, whatever length is given for what encloses them. -/
def endsInExtensions (octets : Octets) : Bool :=
  match octets with
  | [] => true
  | octets =>
      match Header.read? octets with
      | some (header, rest) =>
          header.number == 3 &&
            match Element.readNumbered? Element.sequence rest with
            | some (extensions, []) =>
                areExtensions extensions.content.length extensions.content
            | _ => false
      | none => false

def isContent (octets : Octets) : Bool :=
  (do
    let rest ← version? octets
    let rest ← serialNumber? rest
    let rest ← algorithm? rest
    let rest ← name? rest
    let rest ← validity? rest
    let rest ← name? rest
    let rest ← publicKey? rest
    let rest ← uniqueIdentifier? 1 rest
    let rest ← uniqueIdentifier? 2 rest
    return endsInExtensions rest
    : Option Bool) == some true

/-- Whether the octets begin with a certificate. What follows it does not count. -/
def isCertificate (octets : Octets) : Bool :=
  (do
    let (certificate, _) ← Element.readNumbered? Element.sequence octets
    let (content, rest) ← Element.readNumbered? Element.sequence certificate.content
    let _ ← bitString? (← algorithm? rest)
    return isContent content.content
    : Option Bool) == some true

end ShootKubeconfig.Certificate
