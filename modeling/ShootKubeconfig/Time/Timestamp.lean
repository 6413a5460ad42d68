import ShootKubeconfig.Text.Blank
import ShootKubeconfig.Time.Calendar

namespace ShootKubeconfig

/-- Seconds since 1970-01-01 in UTC; a leap second has the number of the second before it. -/
structure Timestamp where
  seconds : Int
  leap : Bool
  deriving DecidableEq, Repr, Inhabited

namespace Timestamp

open Text Calendar

def digits (text : List Char) : List Char :=
  text.takeWhile Char.isDigit

def natural (digits : List Char) : Nat :=
  digits.foldl (fun n c => n * 10 + (c.toNat - '0'.toNat)) 0

/-- A number of at most `width` digits, with blanks before it. -/
def readNumber? (width : Nat) (text : List Char) : Option (Nat × List Char) :=
  let text := trimBlankStart text
  match (digits text).take width with
  | [] => none
  | read => some (natural read, text.drop read.length)

/-- A year has up to four digits, or any number of them after a sign. -/
def readYear? (text : List Char) : Option (Int × List Char) :=
  match trimBlankStart text with
  | '-' :: rest =>
      match digits rest with
      | [] => none
      | read => some (-(natural read : Int), rest.drop read.length)
  | '+' :: rest =>
      match digits rest with
      | [] => none
      | read => some (natural read, rest.drop read.length)
  | rest => (readNumber? 4 rest).map fun (year, rest) => (↑year, rest)

def readMark? (mark : Char) (text : List Char) : Option (List Char) :=
  match trimBlankStart text with
  | c :: rest => if c = mark then some rest else none
  | [] => none

def skipFraction? : List Char → Option (List Char)
  | '.' :: rest =>
      match digits rest with
      | [] => none
      | read => some (rest.drop read.length)
  | rest => some rest

def twoDigits? : List Char → Option (Nat × List Char)
  | a :: b :: rest =>
      if a.isDigit && b.isDigit then some (natural [a, b], rest) else none
  | _ => none

/-- The minutes by which local time is ahead of UTC. -/
def readOffset? (text : List Char) : Option (Int × List Char) :=
  match text with
  | [] => none
  | c :: rest =>
      if c = 'z' ∨ c = 'Z' then some (0, rest)
      else if c = 'u' ∨ c = 'U' then
        match rest with
        | t :: c :: rest =>
            if (t = 't' ∨ t = 'T') ∧ (c = 'c' ∨ c = 'C') then some (0, rest) else none
        | _ => none
      else if c = '+' ∨ c = '-' ∨ c = '\u2212' then do
        let (hours, rest) ← twoDigits? rest
        let (minutes, rest) ←
          twoDigits? (rest.dropWhile fun c => c == ':' || isBlank c)
        if minutes < 60 ∧ hours < 24 then
          let size : Int := hours * 60 + minutes
          return (if c = '+' then size else -size, rest)
        else none
      else none

def yearWithin (year : Int) : Bool :=
  -262143 ≤ year ∧ year ≤ 262142

def read? (text : String) : Option Timestamp := do
  let (year, rest) ← readYear? text.toList
  let (month, rest) ← readNumber? 2 (← readMark? '-' rest)
  let (day, rest) ← readNumber? 2 (← readMark? '-' rest)
  let rest ←
    match rest with
    | 't' :: rest | 'T' :: rest | ' ' :: rest => some rest
    | _ => none
  let (hour, rest) ← readNumber? 2 rest
  let (minute, rest) ← readNumber? 2 (← readMark? ':' rest)
  let (second, rest) ← readNumber? 2 (← readMark? ':' rest)
  let rest ← skipFraction? rest
  let (offset, rest) ← readOffset? (trimBlankStart rest)
  let date : Date := ⟨year, month, day⟩
  if (trimBlankStart rest).isEmpty ∧ date.valid ∧ yearWithin year ∧
      hour < 24 ∧ minute < 60 ∧ second ≤ 60 then
    let minutes : Int := (date.toDays * 24 + hour) * 60 + minute - offset
    return ⟨minutes * 60 + (if second = 60 then 59 else second), second = 60⟩
  else none

def padded (width n : Nat) : List Char :=
  let digits := Nat.toDigits 10 n
  List.replicate (width - digits.length) '0' ++ digits

/-- Years of another length than four digits carry a sign. -/
def writeYear (year : Int) : List Char :=
  if 0 ≤ year ∧ year ≤ 9999 then padded 4 year.toNat
  else (if year < 0 then '-' else '+') :: padded 4 year.natAbs

def write (timestamp : Timestamp) : String :=
  let date := Date.ofDays (timestamp.seconds / 86400)
  let clock := (timestamp.seconds % 86400).toNat
  let second := clock % 60 + (if timestamp.leap then 1 else 0)
  String.ofList <|
    writeYear date.year ++ '-' :: padded 2 date.month ++ '-' :: padded 2 date.day ++
      'T' :: padded 2 (clock / 3600) ++ ':' :: padded 2 (clock / 60 % 60) ++
      ':' :: padded 2 second ++ ['Z']

end Timestamp

end ShootKubeconfig
