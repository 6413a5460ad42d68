import ShootKubeconfig.Json.Value

/-!
Reading JSON text.

Values nest at most 127 deep. A number without a fraction or an exponent is an integer when it
fits into 64 bits; any other number is rounded.
-/

namespace ShootKubeconfig

namespace Json

def depthLimit : Nat := 127

def skipSpace (text : List Char) : List Char :=
  text.dropWhile fun c => c == ' ' || c == '\n' || c == '\t' || c == '\r'

def hexDigit? (c : Char) : Option Nat :=
  if '0' ≤ c ∧ c ≤ '9' then some (c.toNat - '0'.toNat)
  else if 'a' ≤ c ∧ c ≤ 'f' then some (c.toNat - 'a'.toNat + 10)
  else if 'A' ≤ c ∧ c ≤ 'F' then some (c.toNat - 'A'.toNat + 10)
  else none

def readUnit? : List Char → Option (Nat × List Char)
  | a :: b :: c :: d :: rest => do
      let p ← hexDigit? a
      let q ← hexDigit? b
      let r ← hexDigit? c
      let s ← hexDigit? d
      return (((p * 16 + q) * 16 + r) * 16 + s, rest)
  | _ => none

/-- The character after a backslash and what follows it; a surrogate needs its partner. -/
def readEscape? : List Char → Option (Char × List Char)
  | '"' :: rest => some ('"', rest)
  | '\\' :: rest => some ('\\', rest)
  | '/' :: rest => some ('/', rest)
  | 'b' :: rest => some ('\x08', rest)
  | 'f' :: rest => some ('\x0c', rest)
  | 'n' :: rest => some ('\n', rest)
  | 'r' :: rest => some ('\r', rest)
  | 't' :: rest => some ('\t', rest)
  | 'u' :: rest => do
      let (unit, rest) ← readUnit? rest
      if 0xD800 ≤ unit ∧ unit < 0xDC00 then
        match rest with
        | '\\' :: 'u' :: rest => do
            let (low, rest) ← readUnit? rest
            if 0xDC00 ≤ low ∧ low < 0xE000 then
              return (Char.ofNat (0x10000 + (unit - 0xD800) * 0x400 + (low - 0xDC00)), rest)
            else none
        | _ => none
      else if 0xDC00 ≤ unit ∧ unit < 0xE000 then none
      else return (Char.ofNat unit, rest)
  | _ => none

/-- The text up to the closing quotation mark, gathered in reverse. -/
def readText? : Nat → List Char → List Char → Option (String × List Char)
  | 0, _, _ => none
  | _ + 1, _, [] => none
  | _ + 1, gathered, '"' :: rest => some (String.ofList gathered.reverse, rest)
  | fuel + 1, gathered, '\\' :: rest => do
      let (c, rest) ← readEscape? rest
      readText? fuel (c :: gathered) rest
  | fuel + 1, gathered, c :: rest =>
      if c.toNat < 0x20 then none else readText? fuel (c :: gathered) rest

def digit? (c : Char) : Option Nat :=
  if '0' ≤ c ∧ c ≤ '9' then some (c.toNat - '0'.toNat) else none

/-- Digits gathered while the significand fits into 64 bits, and how many were left over. -/
def gatherDigits (significand : Nat) : List Char → Nat × List Char
  | [] => (significand, [])
  | c :: rest =>
      match digit? c with
      | some digit =>
          if significand * 10 + digit < 2 ^ 64 then gatherDigits (significand * 10 + digit) rest
          else (significand, c :: rest)
      | none => (significand, c :: rest)

def leadingDigits (text : List Char) : List Char :=
  text.takeWhile Char.isDigit

def naturalOfDigits (digits : List Char) : Nat :=
  digits.foldl (fun n c => n * 10 + (c.toNat - '0'.toNat)) 0

/-- The exponent of a number and what follows it; none at all leaves the text as it is. -/
def readExponent? : List Char → Option (Option Int × List Char)
  | [] => some (none, [])
  | c :: rest =>
      if c = 'e' ∨ c = 'E' then
        let (negative, rest) :=
          match rest with
          | '+' :: rest => (false, rest)
          | '-' :: rest => (true, rest)
          | rest => (false, rest)
        let digits := leadingDigits rest
        if digits.isEmpty then none
        else
          let size : Int := naturalOfDigits digits
          some (some (if negative then -size else size), rest.drop digits.length)
      else some (none, c :: rest)

/-- A number too large for its exponent has none; a zero keeps its sign whatever the exponent. -/
def fractionOf? (negative : Bool) (significand : Nat) (before : Int) (exponent : Int) :
    Option Json :=
  if exponent < 2 ^ 31 ∧ -(2 ^ 31) < exponent then
    (Binary64.ofDecimal? negative significand (before + exponent)).map .fraction
  else if significand = 0 ∨ exponent < 0 then some (.fraction (Binary64.zero negative))
  else none

def integerOf? (negative : Bool) (significand : Nat) : Option Json :=
  if negative then
    if significand = 0 ∨ 2 ^ 63 < significand then
      (Binary64.ofQuotient? true significand 1).map .fraction
    else some (.integer (-(significand : Int)))
  else some (.integer significand)

/-- What follows the integral digits, of which `dropped` did not fit. -/
def readNumberTail? (negative : Bool) (significand dropped : Nat) :
    List Char → Option (Json × List Char)
  | '.' :: rest => do
      let digits := leadingDigits rest
      if digits.isEmpty then none
      else
        let (significand, left) :=
          if dropped = 0 then gatherDigits significand digits else (significand, digits)
        let before : Int := dropped - ((digits.length - left.length : Nat) : Int)
        let (exponent, rest) ← readExponent? (rest.drop digits.length)
        return (← fractionOf? negative significand before (exponent.getD 0), rest)
  | rest => do
      let (exponent, rest) ← readExponent? rest
      match exponent with
      | some exponent => return (← fractionOf? negative significand dropped exponent, rest)
      | none =>
          if dropped = 0 then return (← integerOf? negative significand, rest)
          else return (← fractionOf? negative significand dropped 0, rest)

def readNumber? (negative : Bool) (text : List Char) : Option (Json × List Char) :=
  let digits := leadingDigits text
  let rest := text.drop digits.length
  match digits with
  | [] => none
  | ['0'] => readNumberTail? negative 0 0 rest
  | '0' :: _ => none
  | _ =>
      let (significand, left) := gatherDigits 0 digits
      readNumberTail? negative significand left.length rest

mutual

def readValue? : Nat → Nat → List Char → Option (Json × List Char)
  | 0, _, _ => none
  | fuel + 1, depth, chars =>
      match skipSpace chars with
      | 'n' :: 'u' :: 'l' :: 'l' :: rest => some (.null, rest)
      | 't' :: 'r' :: 'u' :: 'e' :: rest => some (.boolean true, rest)
      | 'f' :: 'a' :: 'l' :: 's' :: 'e' :: rest => some (.boolean false, rest)
      | '"' :: rest => do
          let (value, rest) ← readText? (rest.length + 1) [] rest
          return (.text value, rest)
      | '[' :: rest =>
          match depth with
          | 0 => none
          | depth + 1 =>
              match skipSpace rest with
              | ']' :: rest => some (.list [], rest)
              | rest => do
                  let (items, rest) ← readItems? fuel depth rest
                  return (.list items, rest)
      | '\x7b' :: rest =>
          match depth with
          | 0 => none
          | depth + 1 =>
              match skipSpace rest with
              | '\x7d' :: rest => some (.object [], rest)
              | rest => do
                  let (fields, rest) ← readFields? fuel depth rest
                  return (ofFields fields, rest)
      | '-' :: rest => readNumber? true rest
      | rest => readNumber? false rest

def readItems? : Nat → Nat → List Char → Option (List Json × List Char)
  | 0, _, _ => none
  | fuel + 1, depth, chars => do
      let (item, rest) ← readValue? fuel depth chars
      match skipSpace rest with
      | ',' :: rest => do
          let (items, rest) ← readItems? fuel depth rest
          return (item :: items, rest)
      | ']' :: rest => return ([item], rest)
      | _ => none

def readFields? : Nat → Nat → List Char → Option (List (String × Json) × List Char)
  | 0, _, _ => none
  | fuel + 1, depth, chars => do
      match skipSpace chars with
      | '"' :: rest => do
          let (name, rest) ← readText? (rest.length + 1) [] rest
          match skipSpace rest with
          | ':' :: rest => do
              let (value, rest) ← readValue? fuel depth rest
              match skipSpace rest with
              | ',' :: rest => do
                  let (fields, rest) ← readFields? fuel depth rest
                  return ((name, value) :: fields, rest)
              | '\x7d' :: rest => return ([(name, value)], rest)
              | _ => none
          | _ => none
      | _ => none

end

def read? (text : String) : Option Json := do
  let chars := text.toList
  let (value, rest) ← readValue? (2 * chars.length + 2) depthLimit chars
  if (skipSpace rest).isEmpty then some value else none

end Json

end ShootKubeconfig
