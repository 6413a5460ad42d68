import ShootKubeconfig.Power

namespace ShootKubeconfig.Yaml

def isNullWord (text : String) : Bool :=
  text ∈ ["null", "Null", "NULL", "~"]

def booleanWord? (text : String) : Option Bool :=
  if text ∈ ["true", "True", "TRUE"] then some true
  else if text ∈ ["false", "False", "FALSE"] then some false
  else none

def digitIn? (base : Nat) (c : Char) : Option Nat :=
  let value :=
    if '0' ≤ c ∧ c ≤ '9' then c.toNat - '0'.toNat
    else if 'a' ≤ c ∧ c ≤ 'z' then c.toNat - 'a'.toNat + 10
    else if 'A' ≤ c ∧ c ≤ 'Z' then c.toNat - 'A'.toNat + 10
    else base
  if value < base then some value else none

def digitsIn? (base : Nat) (digits : List Char) : Option Nat :=
  if digits = [] then none
  else digits.foldlM (fun n c => (digitIn? base c).map (n * base + ·)) 0

def startsWithSign : List Char → Bool
  | c :: _ => c == '+' || c == '-'
  | [] => false

/-- Digits with a zero before them are text, with or without a sign. -/
def hasLeadingZero (text : List Char) : Bool :=
  let unsigned := if startsWithSign text then text.drop 1 else text
  match unsigned with
  | '0' :: rest => !rest.isEmpty && rest.all Char.isDigit
  | _ => false

/-- The size of a number with a base mark or in base ten, without a sign. -/
def magnitude? : List Char → Option Nat
  | '0' :: 'x' :: rest => digitsIn? 16 rest
  | '0' :: 'o' :: rest => digitsIn? 8 rest
  | '0' :: 'b' :: rest => digitsIn? 2 rest
  | rest => digitsIn? 10 rest

/-- A number without a minus sign and below a bound. -/
def naturalBelow? (bound : Nat) (text : List Char) : Option Nat :=
  if hasLeadingZero text then none
  else
    let unsigned :=
      match text with
      | '+' :: rest => rest
      | rest => rest
    (magnitude? unsigned).filter (· < bound)

def negatedUpTo? (bound : Nat) : List Char → Option Nat
  | '-' :: rest =>
      if hasLeadingZero rest then none else (magnitude? rest).filter (· ≤ bound)
  | _ => none

def isInteger (text : List Char) : Bool :=
  (naturalBelow? (2 ^ 128) text).isSome || (negatedUpTo? (2 ^ 127) text).isSome

/-- Whether digits scaled by a power of ten stay below the values that round to infinity. -/
def roundsToFinite (digits : List Char) (exponent : Int) : Bool :=
  let significant := digits.dropWhile (· == '0')
  let order : Int := significant.length + exponent
  if significant = [] ∨ order < 0 then true
  else if 310 < order then false
  else
    let n := significant.foldl (fun n c => n * 10 + (c.toNat - '0'.toNat)) 0
    let limit := 2 ^ 1024 - 2 ^ 970
    if 0 ≤ exponent then n * 10 ^ exponent.toNat < limit
    else n < limit * 10 ^ (-exponent).toNat

def exponent? : List Char → Option Int
  | [] => some 0
  | mark :: rest =>
      if mark = 'e' ∨ mark = 'E' then
        match rest with
        | '-' :: digits => (digitsIn? 10 digits).map fun n => -(n : Int)
        | '+' :: digits => (digitsIn? 10 digits).map Int.ofNat
        | digits => (digitsIn? 10 digits).map Int.ofNat
      else none

def isFiniteDecimal (text : List Char) : Bool :=
  let unsigned := if startsWithSign text then text.drop 1 else text
  let whole := unsigned.takeWhile Char.isDigit
  let rest := unsigned.dropWhile Char.isDigit
  let (fraction, rest) :=
    match rest with
    | '.' :: rest => (rest.takeWhile Char.isDigit, rest.dropWhile Char.isDigit)
    | rest => ([], rest)
  match exponent? rest with
  | some exponent =>
      !(whole ++ fraction).isEmpty &&
        roundsToFinite (whole ++ fraction) (exponent - fraction.length)
  | none => false

def isFraction (text : List Char) : Bool :=
  let positive :=
    match text with
    | '+' :: rest => if startsWithSign rest then [] else rest
    | rest => rest
  String.ofList positive ∈ [".inf", ".Inf", ".INF"] ||
    String.ofList text ∈ ["-.inf", "-.Inf", "-.INF", ".nan", ".NaN", ".NAN"] ||
    isFiniteDecimal positive

/-- Text that, unquoted, a reader could take for something else. -/
def looksOtherThanText (text : String) : Bool :=
  let chars := text.toList
  chars.isEmpty || isNullWord text || (booleanWord? text).isSome || hasLeadingZero chars ||
    isInteger chars || isFraction chars

end ShootKubeconfig.Yaml
