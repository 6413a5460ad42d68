import ShootKubeconfig.Power
import ShootKubeconfig.Text.Blank

namespace ShootKubeconfig.Quantity

/-- The integers of 128 bits with a sign. -/
def Fits (value : Int) : Prop :=
  -2 ^ 127 ≤ value ∧ value < 2 ^ 127

instance (value : Int) : Decidable (Fits value) :=
  inferInstanceAs (Decidable (_ ∧ _))

def bounded? (value : Int) : Option Int :=
  if Fits value then some value else none

inductive Malformed where
  | integerTooLarge
  | integerTooSmall
  | shape (text : String)
  | suffix (text : String)
  | outOfRange (text : String)
  deriving DecidableEq, Repr

def Malformed.message : Malformed → String
  | .integerTooLarge => "number too large to fit in target type"
  | .integerTooSmall => "number too small to fit in target type"
  | .shape text => s!"Invalid quantity format: {text}"
  | .suffix text => s!"Invalid quantity suffix in {text}"
  | .outOfRange text => s!"Quantity {text} is out of range"

/-- An integer with its sign, which may be left out. -/
structure Numeral where
  negative : Bool
  digits : List Char
  deriving DecidableEq, Repr

def natural (digits : List Char) : Nat :=
  digits.foldl (fun n c => n * 10 + (c.toNat - '0'.toNat)) 0

def Numeral.value (numeral : Numeral) : Int :=
  if numeral.negative then -(natural numeral.digits : Int) else natural numeral.digits

/-- The value of a numeral between two bounds. -/
def Numeral.within (lowest highest : Int) (numeral : Numeral) : Except Malformed Int :=
  if highest < numeral.value then .error .integerTooLarge
  else if numeral.value < lowest then .error .integerTooSmall
  else .ok numeral.value

def splitDigits (text : List Char) : List Char × List Char :=
  (text.takeWhile Char.isDigit, text.dropWhile Char.isDigit)

def numeral? (text : List Char) : Option (Numeral × List Char) :=
  let (negative, text) :=
    match text with
    | '+' :: rest => (false, rest)
    | '-' :: rest => (true, rest)
    | rest => (false, rest)
  match splitDigits text with
  | ([], _) => none
  | (digits, rest) => some (⟨negative, digits⟩, rest)

inductive Scale where
  | exponent (exponent : Numeral)
  | suffix (letters : List Char)
  deriving DecidableEq, Repr

/-- The exponent after its mark, which is the whole text. -/
def exponent? : List Char → Option Numeral
  | mark :: rest =>
      if mark = 'e' ∨ mark = 'E' then
        match numeral? rest with
        | some (numeral, []) => some numeral
        | _ => none
      else none
  | [] => none

/-- What follows the amount: an exponent, or else at most two letters. -/
def scale? (text : List Char) : Option Scale :=
  match exponent? text with
  | some exponent => some (.exponent exponent)
  | none =>
      if text.length ≤ 2 ∧ text.all Char.isAlpha then some (.suffix text) else none

def shape? (text : List Char) : Option (Numeral × Scale) := do
  let (amount, rest) ← numeral? text
  return (amount, ← scale? rest)

/-- How many thousandths the unit with a suffix has. -/
def thousandths? (suffix : List Char) : Option Int :=
  match suffix with
  | [] => some 1000
  | ['m'] => some 1
  | ['k'] => some (1000 * 1000)
  | ['M'] => some (1000 * 1000 ^ 2)
  | ['G'] => some (1000 * 1000 ^ 3)
  | ['T'] => some (1000 * 1000 ^ 4)
  | ['P'] => some (1000 * 1000 ^ 5)
  | ['E'] => some (1000 * 1000 ^ 6)
  | ['K', 'i'] => some (1000 * 1024)
  | ['M', 'i'] => some (1000 * 1024 ^ 2)
  | ['G', 'i'] => some (1000 * 1024 ^ 3)
  | ['T', 'i'] => some (1000 * 1024 ^ 4)
  | ['P', 'i'] => some (1000 * 1024 ^ 5)
  | ['E', 'i'] => some (1000 * 1024 ^ 6)
  | _ => none

/-- The largest exponent whose power of ten still fits when it is counted in thousandths. -/
def largestExponent : Int := 35

theorem fits_power_iff (n : Nat) : Fits (1000 * 10 ^ n) ↔ (n : Int) ≤ largestExponent := by
  constructor
  · intro h
    by_cases hn : n ≤ 35
    · exact Int.ofNat_le.2 hn
    · exfalso
      have hle : (10 : Int) ^ 36 ≤ 10 ^ n := by
        have : (10 : Nat) ^ 36 ≤ 10 ^ n := Nat.pow_le_pow_right (by decide) (by omega)
        exact_mod_cast this
      have := h.2
      omega
  · intro h
    have hn : n ≤ 35 := Int.ofNat_le.1 h
    have hle : (10 : Int) ^ n ≤ 10 ^ 35 := by
      have : (10 : Nat) ^ n ≤ 10 ^ 35 := Nat.pow_le_pow_right (by decide) hn
      exact_mod_cast this
    have hpos : (0 : Int) ≤ 10 ^ n := by
      exact_mod_cast Nat.zero_le (10 ^ n)
    exact ⟨by omega, by omega⟩

def scaled (text : String) (amount factor : Int) : Except Malformed Int :=
  match bounded? (amount * factor) with
  | some value => .ok value
  | none => .error (.outOfRange text)

def valueOf (text : String) (amount : Int) : Scale → Except Malformed Int
  | .exponent numeral => do
      let exponent ← numeral.within (-2 ^ 31) (2 ^ 31 - 1)
      if exponent < 0 then .error (.shape text)
      else if exponent ≤ largestExponent then scaled text amount (1000 * 10 ^ exponent.toNat)
      else .error (.outOfRange text)
  | .suffix letters =>
      match thousandths? letters with
      | some factor => scaled text amount factor
      | none => .error (.suffix text)

/-- The amount in thousandths. Blanks around it do not count. -/
def read (text : String) : Except Malformed Int :=
  let chars := Text.trimBlank text.toList
  let trimmed := String.ofList chars
  match shape? chars with
  | none => .error (.shape trimmed)
  | some (amount, scale) => do
      valueOf trimmed (← amount.within (-2 ^ 127) (2 ^ 127 - 1)) scale

end ShootKubeconfig.Quantity
