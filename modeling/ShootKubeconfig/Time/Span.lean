import ShootKubeconfig.Power
import ShootKubeconfig.Text.Blank

namespace ShootKubeconfig

structure Span where
  nanoseconds : Nat
  deriving DecidableEq, Repr, Inhabited

namespace Span

instance : LE Span := ⟨fun first second => first.nanoseconds ≤ second.nanoseconds⟩

instance : LT Span := ⟨fun first second => first.nanoseconds < second.nanoseconds⟩

instance (first second : Span) : Decidable (first ≤ second) :=
  inferInstanceAs (Decidable (first.nanoseconds ≤ second.nanoseconds))

instance (first second : Span) : Decidable (first < second) :=
  inferInstanceAs (Decidable (first.nanoseconds < second.nanoseconds))

theorem le_antisymm {first second : Span} (h : first ≤ second) (h' : second ≤ first) :
    first = second := by
  cases first
  cases second
  exact congrArg mk (Nat.le_antisymm h h')

instance : Add Span := ⟨fun first second => ⟨first.nanoseconds + second.nanoseconds⟩⟩

def zero : Span := ⟨0⟩

def ofMilliseconds (count : Nat) : Span := ⟨count * 1000000⟩

def ofSeconds (count : Nat) : Span := ⟨count * 1000000000⟩

def ofMinutes (count : Nat) : Span := ofSeconds (count * 60)

def ofHours (count : Nat) : Span := ofMinutes (count * 60)

/-- The whole milliseconds that a span takes, the last of them in part. -/
def milliseconds (span : Span) : Nat :=
  (span.nanoseconds + 999999) / 1000000

/-- Amounts are counted in 64 bits. -/
def countLimit : Nat := 2 ^ 64

def counted? (count : Nat) : Option Nat :=
  if count < countLimit then some count else none

inductive Scale where
  | nanoseconds (each : Nat)
  | seconds (each : Nat)
  deriving DecidableEq

/-- A month is a twelfth of a year of 365.25 days, up to whole hundredths of a day. -/
def scaleOfUnit? (unit : String) : Option Scale :=
  if unit ∈ ["nanos", "nsec", "ns"] then some (.nanoseconds 1)
  else if unit ∈ ["usec", "us", "µs"] then some (.nanoseconds 1000)
  else if unit ∈ ["millis", "msec", "ms"] then some (.nanoseconds 1000000)
  else if unit ∈ ["seconds", "second", "secs", "sec", "s"] then some (.seconds 1)
  else if unit ∈ ["minutes", "minute", "min", "mins", "m"] then some (.seconds 60)
  else if unit ∈ ["hours", "hour", "hrs", "hr", "h"] then some (.seconds 3600)
  else if unit ∈ ["days", "day", "d"] then some (.seconds 86400)
  else if unit ∈ ["weeks", "week", "wk", "wks", "w"] then some (.seconds 604800)
  else if unit ∈ ["months", "month", "M"] then some (.seconds 2630016)
  else if unit ∈ ["years", "year", "yr", "yrs", "y"] then some (.seconds 31557600)
  else none

/-- Adds whole seconds and nanoseconds, both of which are counted. -/
def extend? (span : Span) (seconds nanoseconds : Nat) : Option Span := do
  let below ← counted? (span.nanoseconds % 1000000000 + nanoseconds)
  let above ←
    counted? (span.nanoseconds / 1000000000 + seconds + below / 1000000000)
  return ⟨above * 1000000000 + below % 1000000000⟩

structure Fraction where
  numerator : Nat
  denominator : Nat

/-- The fraction of a unit counts the next smaller step exactly: seconds from an hour on,
nanoseconds below. -/
def fractionOf? (fraction : Fraction) (each : Nat) : Option Nat := do
  let scaled ← counted? (fraction.numerator * each)
  if scaled % fraction.denominator = 0 then some (scaled / fraction.denominator) else none

def extendWithUnit? (span : Span) (amount : Nat) (fraction? : Option Fraction) (unit : String) :
    Option Span := do
  match ← scaleOfUnit? unit with
  | .nanoseconds each =>
      let span ← span.extend? 0 (← counted? (amount * each))
      match fraction? with
      | none => some span
      | some fraction =>
          if each = 1 then none
          else span.extend? 0 (← fractionOf? fraction each)
  | .seconds each =>
      let span ← span.extend? (← counted? (amount * each)) 0
      match fraction? with
      | none => some span
      | some fraction =>
          if each ≤ 60 then
            span.extend? 0 (← fractionOf? fraction (each * 1000000000))
          else span.extend? (← fractionOf? fraction each) 0

def isUnitLetter (c : Char) : Bool :=
  c.isAlpha || c == 'µ'

def digit? (c : Char) : Option Nat :=
  if c.isDigit then some (c.toNat - '0'.toNat) else none

/-- The rest of an amount, in which blanks do not count, up to its unit or its point. -/
def readAmount? (amount : Nat) : List Char → Option (Nat × List Char)
  | [] => some (amount, [])
  | c :: rest =>
      match digit? c with
      | some digit =>
          if amount * 10 + digit < countLimit then readAmount? (amount * 10 + digit) rest
          else none
      | none =>
          if Text.isBlank c then readAmount? amount rest
          else if isUnitLetter c ∨ c = '.' then some (amount, c :: rest)
          else none

def readFraction? (fraction : Fraction) : List Char → Option (Fraction × List Char)
  | [] => some (fraction, [])
  | c :: rest =>
      match digit? c with
      | some digit =>
          if fraction.denominator * 10 < countLimit ∧
              fraction.numerator * 10 + digit < countLimit then
            readFraction? ⟨fraction.numerator * 10 + digit, fraction.denominator * 10⟩ rest
          else none
      | none =>
          if Text.isBlank c then readFraction? fraction rest
          else if isUnitLetter c then some (fraction, c :: rest)
          else none

/-- The fraction after the point needs a digit. -/
def readPoint? : List Char → Option (Option Fraction × List Char)
  | '.' :: rest => do
      let (fraction, rest) ← readFraction? ⟨0, 1⟩ rest
      if fraction.denominator = 1 then none else some (some fraction, rest)
  | rest => some (none, rest)

/-- A unit ends at the next digit or blank, or with the text. -/
def readUnit? (text : List Char) : Option (String × List Char) :=
  let unit := text.takeWhile isUnitLetter
  let rest := text.drop unit.length
  match rest with
  | [] => some (String.ofList unit, [])
  | c :: _ =>
      if c.isDigit ∨ Text.isBlank c then some (String.ofList unit, rest) else none

def readParts? : Nat → Span → List Char → Option Span
  | 0, _, _ => none
  | fuel + 1, span, text =>
      match Text.trimBlankStart text with
      | [] => some span
      | c :: rest => do
          let (amount, rest) ← readAmount? (← digit? c) rest
          let (fraction?, rest) ← readPoint? rest
          let (unit, rest) ← readUnit? rest
          readParts? fuel (← span.extendWithUnit? amount fraction? unit) rest

def read? (text : String) : Option Span :=
  if text = "0" then some zero
  else if Text.trimBlank text.toList = [] then none
  else readParts? (text.length + 1) zero text.toList

end Span

end ShootKubeconfig
