import ShootKubeconfig.Certificate.Pem
import ShootKubeconfig.Certificate.Structure
import ShootKubeconfig.Resource.ShootState
import ShootKubeconfig.Wording

namespace ShootKubeconfig.TrustAnchor

def dataName : String := "ca"

def certificateKey : String := "ca.crt"

inductive Failure where
  | notProvisioned
  | malformed (detail : String)
  | invalidCertificate (detail : Wording)
  deriving DecidableEq, Repr

def Failure.message : Failure → Wording
  | .notProvisioned => "Certificate authority not yet provisioned"
  | .malformed detail => s!"Failed to decode certificate authority: {detail}"
  | .invalidCertificate detail => detail.after "Invalid certificate authority: "

def texts (data : Json) : Except Failure (Dictionary String) :=
  match Json.dictionaryOf? Json.text? data with
  | some texts => .ok texts
  | none => .error (.malformed "failed to unmarshal certificate authority from raw data")

def encodedCertificate (texts : Dictionary String) : Except Failure String :=
  match texts.get? certificateKey with
  | some encoded => .ok encoded
  | none => .error (.malformed s!"missing {certificateKey}")

def decodedCertificate (encoded : String) : Except Failure Octets :=
  match Base64.decodeText encoded with
  | .ok octets => .ok octets
  | .error cause =>
      .error (.malformed s!"{certificateKey} is not base64: {cause.message}")

/-- A cluster that is still being created has no certificate authority yet. -/
def ofShootState (state : ShootState) : Except Failure Octets :=
  match state.generated? dataName with
  | none => .error .notProvisioned
  | some generated => do
      decodedCertificate (← encodedCertificate (← texts generated.data))

def validate (octets : Octets) : Except Failure Unit :=
  match Pem.read octets with
  | .error cause => .error (.invalidCertificate s!"failed to parse PEM: {cause.message}")
  | .ok block =>
      if block.tag ≠ "CERTIFICATE" then
        .error (.invalidCertificate "PEM block type must be CERTIFICATE")
      else if Certificate.isCertificate block.contents then .ok ()
      else .error (.invalidCertificate (.openEnded "failed to parse certificate: "))

end ShootKubeconfig.TrustAnchor
