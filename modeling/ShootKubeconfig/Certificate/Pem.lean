import ShootKubeconfig.Text.Base64
import ShootKubeconfig.Text.Blank

namespace ShootKubeconfig.Pem

structure Block where
  tag : String
  contents : Octets
  deriving DecidableEq, Repr

inductive Malformed where
  | framing
  | text (cause : Utf8.Malformed)
  | beginTagMissing
  | endTagMissing
  | tagsDiffer (first last : String)
  | data (cause : Base64.Malformed)
  | header (line : String)
  deriving DecidableEq, Repr

def Malformed.message : Malformed → String
  | .framing => "malformedframing"
  | .text cause => s!"invalid utf-8 value: {cause.message}"
  | .beginTagMissing => "missing BEGIN tag"
  | .endTagMissing => "missing END tag"
  | .tagsDiffer first last =>
      "mismatching BEGIN (\"" ++ first ++ "\") and END (\"" ++ last ++ "\") tags"
  | .data cause => s!"invalid data: {cause.message}"
  | .header line => s!"invalid header: {line}"

/-- The octets before the first marker and those after it. Of a partial match nothing is kept:
the octet that ends it does not begin another one. -/
def splitFrom? (marker : Octets) (matched : Nat) (before : Octets) :
    Octets → Option (Octets × Octets)
  | [] => none
  | octet :: rest =>
      let matched := if marker[matched]? = some octet then matched + 1 else 0
      if matched = marker.length then
        some (((octet :: before).drop matched).reverse, rest)
      else splitFrom? marker matched (octet :: before) rest

def splitAt? (marker : String) (octets : Octets) : Option (Octets × Octets) :=
  splitFrom? (Utf8.encode marker) 0 [] octets

def skipSpace (octets : Octets) : Octets :=
  octets.dropWhile fun octet => octet == 0x20 || octet == 0x09 || octet == 0x0A || octet == 0x0D

structure Frame where
  first : Octets
  body : Octets
  last : Octets

def frame? (octets : Octets) : Option Frame := do
  let (_, rest) ← splitAt? "-----BEGIN " octets
  let (first, rest) ← splitAt? "-----" rest
  let (body, rest) ← splitAt? "-----END " (skipSpace rest)
  let (last, _) ← splitAt? "-----" rest
  return { first, body, last }

def headersAndData (body : Octets) : Octets × Octets :=
  match splitAt? "\n\n" body with
  | some parts => parts
  | none => (splitAt? "\r\n\r\n" body).getD ([], body)

def decodeUtf8 (octets : Octets) : Except Malformed String :=
  match Utf8.decode octets with
  | .ok text => .ok text
  | .error cause => .error (.text cause)

def withoutLastReturn (line : List Char) : List Char :=
  match line.reverse with
  | '\r' :: rest => rest.reverse
  | _ => line

/-- The lines of a text; a break at its end begins no further line. -/
def linesOf (line : List Char) : List Char → List (List Char)
  | [] => if line = [] then [] else [line.reverse]
  | '\n' :: rest => withoutLastReturn line.reverse :: linesOf [] rest
  | c :: rest => linesOf (c :: line) rest

def checkHeaders (headers : String) : Except Malformed Unit :=
  match (linesOf [] headers.toList).find? fun line => !line.contains ':' with
  | some line => .error (.header (String.ofList line))
  | none => .ok ()

def read (octets : Octets) : Except Malformed Block :=
  match frame? octets with
  | none => .error .framing
  | some frame => do
      let first ← decodeUtf8 frame.first
      if first = "" then .error .beginTagMissing
      let last ← decodeUtf8 frame.last
      if last = "" then .error .endTagMissing
      if first ≠ last then .error (.tagsDiffer first last)
      let (headers, data) := headersAndData frame.body
      let symbols := Text.withoutBlanks (← decodeUtf8 data).toList
      match Base64.decodeText (String.ofList symbols) with
      | .error cause => .error (.data cause)
      | .ok contents => do
          checkHeaders (← decodeUtf8 headers)
          return ⟨first, contents⟩

end ShootKubeconfig.Pem
