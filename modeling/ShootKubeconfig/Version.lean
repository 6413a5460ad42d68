import ShootKubeconfig.Power
import ShootKubeconfig.Text.Quoted

namespace ShootKubeconfig

structure Release where
  major : Nat
  minor : Nat
  patch : Nat
  deriving DecidableEq, Repr

/-- The first number that differs decides. -/
def Release.order (first second : Release) : Ordering :=
  (compare first.major second.major).then
    ((compare first.minor second.minor).then (compare first.patch second.patch))

structure Version where
  release : Release
  preRelease : List Char := []
  build : List Char := []
  deriving DecidableEq, Repr

namespace Version

inductive Part where
  | major
  | minor
  | patch
  | preRelease
  | build
  deriving DecidableEq, Repr

def Part.name : Part → String
  | .major => "major version number"
  | .minor => "minor version number"
  | .patch => "patch version number"
  | .preRelease => "pre-release identifier"
  | .build => "build metadata"

inductive Malformed where
  | empty
  | endWithin (part : Part)
  | characterWithin (part : Part) (c : Char)
  | characterAfter (part : Part) (c : Char)
  | leadingZero (part : Part)
  | tooLarge (part : Part)
  | emptySegment (part : Part)
  deriving DecidableEq, Repr

def Malformed.message : Malformed → String
  | .empty => "empty string, expected a semver version"
  | .endWithin part => s!"unexpected end of input while parsing {part.name}"
  | .characterWithin part c =>
      s!"unexpected character {Text.quotedChar c} while parsing {part.name}"
  | .characterAfter part c => s!"unexpected character {Text.quotedChar c} after {part.name}"
  | .leadingZero part => s!"invalid leading zero in {part.name}"
  | .tooLarge part => s!"value of {part.name} exceeds u64::MAX"
  | .emptySegment part => s!"empty identifier segment in {part.name}"

def natural (digits : List Char) : Nat :=
  digits.foldl (fun n c => n * 10 + (c.toNat - '0'.toNat)) 0

/-- A number has 64 bits and no digit before it that is zero. -/
def readNumber (part : Part) (text : List Char) : Except Malformed (Nat × List Char) :=
  let digits := text.takeWhile Char.isDigit
  let rest := text.dropWhile Char.isDigit
  match digits with
  | [] =>
      match rest with
      | [] => .error (.endWithin part)
      | c :: _ => .error (.characterWithin part c)
  | '0' :: _ :: _ => .error (.leadingZero part)
  | digits =>
      if natural digits < 2 ^ 64 then .ok (natural digits, rest)
      else .error (.tooLarge part)

def readDot (part : Part) : List Char → Except Malformed (List Char)
  | '.' :: rest => .ok rest
  | c :: _ => .error (.characterAfter part c)
  | [] => .error (.endWithin part)

def isIdentifierCharacter (c : Char) : Bool :=
  c.isAlphanum || c == '-'

/-- A number among the identifiers of a pre-release has no leading zero. -/
def hasLeadingZero (segment : List Char) : Bool :=
  match segment with
  | '0' :: _ :: _ => segment.all Char.isDigit
  | _ => false

/-- Identifiers with dots between them. Only the first one may be missing altogether, which
leaves the text as it is. -/
def readIdentifiers (part : Part) (first : Bool) :
    Nat → List Char → Except Malformed (List Char × List Char)
  | 0, text => .ok ([], text)
  | fuel + 1, text =>
      let segment := text.takeWhile isIdentifierCharacter
      match segment, text.dropWhile isIdentifierCharacter with
      | [], '.' :: _ => .error (.emptySegment part)
      | [], rest => if first then .ok ([], rest) else .error (.emptySegment part)
      | segment, rest =>
          if part = .preRelease ∧ hasLeadingZero segment then .error (.leadingZero part)
          else
            match rest with
            | '.' :: rest => do
                let (others, rest) ← readIdentifiers part false fuel rest
                return (segment ++ '.' :: others, rest)
            | rest => .ok (segment, rest)

/-- Identifiers after their mark, of which there has to be one. -/
def readMarked (mark : Char) (part : Part) :
    List Char → Except Malformed (List Char × List Char)
  | [] => .ok ([], [])
  | c :: rest =>
      if c = mark then do
        let (identifiers, rest) ← readIdentifiers part true (rest.length + 1) rest
        if identifiers = [] then .error (.emptySegment part) else .ok (identifiers, rest)
      else .ok ([], c :: rest)

def lastPart (preRelease build : List Char) : Part :=
  if build ≠ [] then .build
  else if preRelease ≠ [] then .preRelease
  else .patch

def read (text : List Char) : Except Malformed Version :=
  if text = [] then .error .empty
  else do
    let (major, rest) ← readNumber .major text
    let (minor, rest) ← readNumber .minor (← readDot .major rest)
    let (patch, rest) ← readNumber .patch (← readDot .minor rest)
    let (preRelease, rest) ← readMarked '-' .preRelease rest
    let (build, rest) ← readMarked '+' .build rest
    match rest with
    | [] => return ⟨⟨major, minor, patch⟩, preRelease, build⟩
    | c :: _ => .error (.characterAfter (lastPart preRelease build) c)

/-- Digits alone are a number, which comes before any other identifier. Of equal numbers the
shorter comes first. -/
def identifierOrder (first second : List Char) : Ordering :=
  match first.all Char.isDigit, second.all Char.isDigit with
  | true, true =>
      (compare (natural first) (natural second)).then (compare first.length second.length)
  | true, false => .lt
  | false, true => .gt
  | false, false => compare first second

/-- The first identifiers that differ decide, and fewer come before more. -/
def identifiersOrder (first second : List Char) : Ordering :=
  List.compareLex identifierOrder (first.splitOn '.') (second.splitOn '.')

/-- What has no pre-release part comes after all that has. -/
def preReleaseOrder (first second : List Char) : Ordering :=
  match first, second with
  | [], [] => .eq
  | [], _ => .gt
  | _, [] => .lt
  | _, _ => identifiersOrder first second

/-- Build metadata does not count. -/
def precedence (first second : Version) : Ordering :=
  (first.release.order second.release).then (preReleaseOrder first.preRelease second.preRelease)

/-- Between versions of the same precedence build metadata decides. -/
def order (first second : Version) : Ordering :=
  (first.precedence second).then (identifiersOrder first.build second.build)

end Version

end ShootKubeconfig
