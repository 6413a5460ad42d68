import ShootKubeconfig.Power

/-!
Numbers with a 53 bit significand.

A finite number is `± significand * 2 ^ exponent`. Rounding goes to the nearest such number and
a tie to the even significand; writing takes the fewest decimal digits that round back.
-/

namespace ShootKubeconfig

structure Binary64 where
  negative : Bool
  significand : Nat
  exponent : Int
  deriving DecidableEq, Repr

namespace Binary64

def least : Int := -1074

def greatest : Int := 971

def zero (negative : Bool) : Binary64 := ⟨negative, 0, least⟩

/-- A quotient rounded to the nearest natural number, a tie to the even one. -/
def roundDiv (numerator denominator : Nat) : Nat :=
  let quotient := numerator / denominator
  let twice := 2 * (numerator % denominator)
  if twice < denominator then quotient
  else if denominator < twice then quotient + 1
  else quotient + quotient % 2

/-- The quotient after a shift by `2 ^ -exponent`. -/
def scaled (numerator denominator : Nat) (exponent : Int) : Nat × Nat :=
  if 0 ≤ exponent then (numerator, denominator * 2 ^ exponent.toNat)
  else (numerator * 2 ^ (-exponent).toNat, denominator)

/-- The number nearest to a quotient, unless it is beyond the greatest. -/
def ofQuotient? (negative : Bool) (numerator denominator : Nat) : Option Binary64 :=
  if numerator = 0 then some (zero negative)
  else
    let estimate : Int := (numerator.log2 : Int) - denominator.log2 - 53
    let exponent := max least estimate
    let pair := scaled numerator denominator exponent
    let exponent := if pair.1 / pair.2 < 2 ^ 53 then exponent else exponent + 1
    let pair := scaled numerator denominator exponent
    let exponent := if pair.1 / pair.2 < 2 ^ 53 then exponent else exponent + 1
    let pair := scaled numerator denominator exponent
    let significand := roundDiv pair.1 pair.2
    let (significand, exponent) :=
      if significand = 2 ^ 53 then (2 ^ 52, exponent + 1) else (significand, exponent)
    if exponent ≤ greatest then some ⟨negative, significand, exponent⟩ else none

def quotient (number : Binary64) : Nat × Nat :=
  if 0 ≤ number.exponent then (number.significand * 2 ^ number.exponent.toNat, 1)
  else (number.significand, 2 ^ (-number.exponent).toNat)

def powerOfTen? (exponent : Nat) : Option Binary64 :=
  ofQuotient? false (10 ^ exponent) 1

def times? (left right : Binary64) : Option Binary64 :=
  let (a, b) := left.quotient
  let (c, d) := right.quotient
  ofQuotient? (left.negative != right.negative) (a * c) (b * d)

def over? (left right : Binary64) : Option Binary64 :=
  let (a, b) := left.quotient
  let (c, d) := right.quotient
  ofQuotient? (left.negative != right.negative) (a * d) (b * c)

/-- Scales by a power of ten in steps of at most `10 ^ 308`, rounding after each. -/
def scaleByTen? : Nat → Binary64 → Int → Option Binary64
  | 0, number, _ => some number
  | fuel + 1, number, exponent =>
      if exponent.natAbs ≤ 308 then do
        let power ← powerOfTen? exponent.natAbs
        if 0 ≤ exponent then number.times? power else number.over? power
      else if number.significand = 0 then some number
      else if 0 ≤ exponent then none
      else do
        let number ← number.over? (← powerOfTen? 308)
        scaleByTen? fuel number (exponent + 308)

def ofDecimal? (negative : Bool) (significand : Nat) (exponent : Int) : Option Binary64 := do
  let number ← scaleByTen? 4 (← ofQuotient? false significand 1) exponent
  return { number with negative }

/-- Decimal digits and the power of ten that scales them. -/
structure Decimal where
  digits : Nat
  exponent : Int

def Decimal.toBinary64? (decimal : Decimal) : Option Binary64 :=
  if 0 ≤ decimal.exponent then ofQuotient? false (decimal.digits * 10 ^ decimal.exponent.toNat) 1
  else ofQuotient? false decimal.digits (10 ^ (-decimal.exponent).toNat)

/-- The nearest number on the grid of multiples of `10 ^ exponent`, if it rounds back. -/
def onGrid? (number : Binary64) (exponent : Int) : Option Decimal :=
  let (a, b) := number.quotient
  let (a, b) :=
    if 0 ≤ exponent then (a, b * 10 ^ exponent.toNat) else (a * 10 ^ (-exponent).toNat, b)
  let roundsBack (digits : Nat) : Bool :=
    (Decimal.toBinary64? ⟨digits, exponent⟩) == some { number with negative := false }
  let floor := a / b
  let closer := roundDiv a b
  let other := if closer = floor then floor + 1 else floor
  if roundsBack closer then some ⟨closer, exponent⟩
  else if roundsBack other then some ⟨other, exponent⟩
  else none

def shortestFrom (number : Binary64) : Nat → Int → Decimal
  | 0, exponent => (number.onGrid? exponent).getD ⟨number.significand, exponent⟩
  | fuel + 1, exponent =>
      match number.onGrid? exponent with
      | some decimal => decimal
      | none => shortestFrom number fuel (exponent - 1)

/-- The power of ten at or below a quotient of natural numbers. -/
def decimalOrder (numerator denominator : Nat) : Int :=
  let guess : Int := (numerator / denominator).log2 * 1233 / 4096
  if denominator ≤ numerator then
    let up := (List.range 3).find? fun k => numerator < denominator * 10 ^ (guess.toNat + k)
    guess + (up.getD 3) - 1
  else
    let down := (denominator / numerator).log2 * 1233 / 4096
    let up := (List.range 3).find? fun k => denominator ≤ numerator * 10 ^ (down + k)
    .negOfNat (down + up.getD 3)

/-- The fewest digits that round back, the nearest of those, without trailing zeros. -/
def shortest (number : Binary64) : Decimal :=
  if number.significand = 0 then ⟨0, 0⟩
  else
    let (a, b) := number.quotient
    number.shortestFrom 18 (decimalOrder a b)

end Binary64

end ShootKubeconfig
