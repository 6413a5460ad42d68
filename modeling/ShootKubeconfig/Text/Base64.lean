import ShootKubeconfig.Text.Utf8

/-!
Base64 with the standard alphabet and padding.

Writing fills the last group with padding; reading accepts nothing else, so that the written
form of a sequence of octets is its only form.
-/

namespace ShootKubeconfig.Base64

def symbol (value : Nat) : UInt8 :=
  if value < 26 then .ofNat (0x41 + value)
  else if value < 52 then .ofNat (0x61 + (value - 26))
  else if value < 62 then .ofNat (0x30 + (value - 52))
  else if value = 62 then 0x2B
  else 0x2F

def value? (octet : UInt8) : Option Nat :=
  let n := octet.toNat
  if 0x41 ≤ n ∧ n ≤ 0x5A then some (n - 0x41)
  else if 0x61 ≤ n ∧ n ≤ 0x7A then some (n - 0x61 + 26)
  else if 0x30 ≤ n ∧ n ≤ 0x39 then some (n - 0x30 + 52)
  else if n = 0x2B then some 62
  else if n = 0x2F then some 63
  else none

def padding : UInt8 := 0x3D

def encode : Octets → Octets
  | [] => []
  | [a] =>
      [symbol (a.toNat / 4), symbol (a.toNat % 4 * 16), padding, padding]
  | [a, b] =>
      [symbol (a.toNat / 4), symbol (a.toNat % 4 * 16 + b.toNat / 16),
        symbol (b.toNat % 16 * 4), padding]
  | a :: b :: c :: rest =>
      symbol (a.toNat / 4) :: symbol (a.toNat % 4 * 16 + b.toNat / 16) ::
        symbol (b.toNat % 16 * 4 + c.toNat / 64) :: symbol (c.toNat % 64) :: encode rest

def encodeText (octets : Octets) : String :=
  String.ofList ((encode octets).map fun octet => Char.ofNat octet.toNat)

inductive Malformed where
  | symbol (offset : Nat) (octet : UInt8)
  | lastSymbol (offset : Nat) (octet : UInt8)
  | length (count : Nat)
  | padding
  deriving DecidableEq, Repr

def Malformed.message : Malformed → String
  | .symbol offset octet => s!"Invalid symbol {octet.toNat}, offset {offset}."
  | .lastSymbol offset octet => s!"Invalid last symbol {octet.toNat}, offset {offset}."
  | .length count => s!"Invalid input length: {count}"
  | .padding => "Invalid padding"

def valueAt (offset : Nat) (octet : UInt8) : Except Malformed Nat :=
  match value? octet with
  | some value => .ok value
  | none => .error (.symbol offset octet)

/-- The symbols of the last group, each with its octet, and the number of padding octets after
them. Padding has at least two symbols before it and nothing after it. -/
def lastSymbols (start index : Nat) : Octets → Except Malformed (List (UInt8 × Nat) × Nat)
  | [] => .ok ([], 0)
  | octet :: rest =>
      if octet = padding then
        if index < 2 then .error (.symbol (start + index) octet)
        else if rest.all (· == padding) then .ok ([], rest.length + 1)
        else .error (.symbol (start + index) octet)
      else do
        let value ← valueAt (start + index) octet
        let (symbols, pads) ← lastSymbols start (index + 1) rest
        return ((octet, value) :: symbols, pads)

/-- The octets of the last group, whose unused bits are zero. -/
def decodeLast (start : Nat) (group : Octets) : Except Malformed Octets := do
  let (symbols, pads) ← lastSymbols start 0 group
  if symbols.length < 2 then .error (.length (start + symbols.length))
  else if (symbols.length + pads) % 4 ≠ 0 then .error .padding
  else
    match symbols with
    | [(_, a), (octet, b)] =>
        if b % 16 = 0 then .ok [.ofNat (a * 4 + b / 16)]
        else .error (.lastSymbol (start + 1) octet)
    | [(_, a), (_, b), (octet, c)] =>
        if c % 4 = 0 then .ok [.ofNat (a * 4 + b / 16), .ofNat (b % 16 * 16 + c / 4)]
        else .error (.lastSymbol (start + 2) octet)
    | [(_, a), (_, b), (_, c), (_, d)] =>
        .ok [.ofNat (a * 4 + b / 16), .ofNat (b % 16 * 16 + c / 4), .ofNat (c % 4 * 64 + d)]
    | _ => .error .padding

/-- A group that others follow holds four symbols. -/
def decodeGroups (start : Nat) : Octets → Except Malformed Octets
  | a :: b :: c :: d :: e :: rest => do
      let p ← valueAt start a
      let q ← valueAt (start + 1) b
      let r ← valueAt (start + 2) c
      let s ← valueAt (start + 3) d
      let decoded ← decodeGroups (start + 4) (e :: rest)
      return .ofNat (p * 4 + q / 16) :: .ofNat (q % 16 * 16 + r / 4) ::
        .ofNat (r % 4 * 64 + s) :: decoded
  | [] => .ok []
  | group => decodeLast start group

/-- A lone octet after complete groups is looked at before all others. -/
def loneOctet? (octets : Octets) : Option UInt8 :=
  if octets.length % 4 = 1 then octets.getLast? else none

def decode (octets : Octets) : Except Malformed Octets :=
  match loneOctet? octets with
  | some octet =>
      if octet ≠ padding ∧ value? octet = none then
        .error (.symbol (octets.length - 1) octet)
      else decodeGroups 0 octets
  | none => decodeGroups 0 octets

def decodeText (text : String) : Except Malformed Octets :=
  decode (Utf8.encode text)

end ShootKubeconfig.Base64
