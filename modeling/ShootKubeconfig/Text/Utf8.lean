namespace ShootKubeconfig

abbrev Octets := List UInt8

namespace Utf8

def encode (text : String) : Octets :=
  text.toList.flatMap String.utf8EncodeChar

theorem encode_injective {text other : String} (same : encode text = encode other) :
    text = other := by
  rw [← String.toByteArray_inj, ← @String.ofList_toList text, ← @String.ofList_toList other]
  simp only [String.toByteArray_ofList, List.utf8Encode]
  exact congrArg List.toByteArray same

private theorem utf8EncodeChar_ascii {octet : UInt8} (ascii : octet < 0x80) :
    String.utf8EncodeChar (Char.ofNat octet.toNat) = [octet] := by
  have each : ∀ n : Nat, n < 0x80 → String.utf8EncodeChar (Char.ofNat n) = [UInt8.ofNat n] := by
    decide
  rw [each octet.toNat ascii, UInt8.ofNat_toNat]

theorem encode_ascii {octets : Octets} (ascii : ∀ octet ∈ octets, octet < 0x80) :
    encode (String.ofList (octets.map fun octet => Char.ofNat octet.toNat)) = octets := by
  unfold encode
  rw [String.toList_ofList]
  induction octets with
  | nil => rfl
  | cons octet rest ih =>
      obtain ⟨asciiHere, asciiRest⟩ := List.forall_mem_cons.mp ascii
      rw [List.map_cons, List.flatMap_cons, utf8EncodeChar_ascii asciiHere, ih asciiRest]
      rfl

theorem encode_eq_iff_of_ascii {text : String} {octets : Octets}
    (ascii : ∀ octet ∈ octets, octet < 0x80) :
    encode text = octets ↔
      text = String.ofList (octets.map fun octet => Char.ofNat octet.toNat) := by
  constructor
  · intro same
    apply encode_injective
    rw [encode_ascii ascii, same]
  · rintro rfl
    exact encode_ascii ascii

/-- Where the octets stop being text: the offset of the first octet that starts no character,
and how many octets are wrong there, unless the text merely ends too early. -/
structure Malformed where
  offset : Nat
  length? : Option Nat
  deriving DecidableEq, Repr

def Malformed.message (malformed : Malformed) : String :=
  match malformed.length? with
  | some length => s!"invalid utf-8 sequence of {length} bytes from index {malformed.offset}"
  | none => s!"incomplete utf-8 byte sequence from index {malformed.offset}"

/-- The number of octets that continue a character, and the bits the first octet contributes. -/
def leading? (octet : Nat) : Option (Nat × Nat) :=
  if octet < 0x80 then some (0, octet)
  else if 0xC2 ≤ octet ∧ octet ≤ 0xDF then some (1, octet - 0xC0)
  else if 0xE0 ≤ octet ∧ octet ≤ 0xEF then some (2, octet - 0xE0)
  else if 0xF0 ≤ octet ∧ octet ≤ 0xF4 then some (3, octet - 0xF0)
  else none

/-- The interval of the octet after `first`, which excludes overlong forms, surrogates and
numbers above the last code point. -/
def secondInterval (first : Nat) : Nat × Nat :=
  if first = 0xE0 then (0xA0, 0xBF)
  else if first = 0xED then (0x80, 0x9F)
  else if first = 0xF0 then (0x90, 0xBF)
  else if first = 0xF4 then (0x80, 0x8F)
  else (0x80, 0xBF)

/-- Reads `count` octets within `interval`, all after the first one being any continuation.
`wrong` counts the octets of the character that have been read. -/
def continuation (offset wrong : Nat) : Nat → Nat × Nat → Nat → Octets →
    Except Malformed (Nat × Octets)
  | 0, _, bits, rest => .ok (bits, rest)
  | _ + 1, _, _, [] => .error ⟨offset, none⟩
  | count + 1, interval, bits, octet :: rest =>
      if interval.1 ≤ octet.toNat ∧ octet.toNat ≤ interval.2 then
        continuation offset (wrong + 1) count (0x80, 0xBF) (bits * 64 + (octet.toNat - 0x80)) rest
      else .error ⟨offset, some wrong⟩

def decodeFrom (fuel offset : Nat) (octets : Octets) : Except Malformed (List Char) :=
  match fuel, octets with
  | _, [] => .ok []
  | 0, _ => .error ⟨offset, none⟩
  | fuel + 1, octet :: rest =>
      match leading? octet.toNat with
      | none => .error ⟨offset, some 1⟩
      | some (count, bits) => do
          let (point, rest) ←
            continuation offset 1 count (secondInterval octet.toNat) bits rest
          let text ← decodeFrom fuel (offset + 1 + count) rest
          return Char.ofNat point :: text

def decode (octets : Octets) : Except Malformed String :=
  (decodeFrom octets.length 0 octets).map String.ofList

end Utf8

end ShootKubeconfig
