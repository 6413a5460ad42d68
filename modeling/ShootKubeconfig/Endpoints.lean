import ShootKubeconfig.Failure
import ShootKubeconfig.Kubeconfig.Request
import ShootKubeconfig.Resource.Shoot

namespace ShootKubeconfig

namespace Uri

/-- What follows the last occurrence of an octet, or everything. -/
def afterLast (mark : UInt8) (octets : Octets) : Octets :=
  (octets.reverse.takeWhile (· != mark)).reverse

/-- Host and port of an authority, without user information. -/
def hostOf (authority : Option Octets) : String :=
  match authority with
  | none => ""
  | some octets =>
      String.ofList ((afterLast 0x40 octets).map fun octet => Char.ofNat octet.toNat)

end Uri

def AdvertisedAddress.endpoint (address : AdvertisedAddress) :
    Except Failure Kubeconfig.Endpoint :=
  match Uri.authority address.url with
  | .ok authority => .ok ⟨address.name, Uri.hostOf authority⟩
  | .error cause => .error (.endpointUrl address.name address.url cause)

/-- The first address whose URL is malformed fails them all. -/
def endpointsOf : List AdvertisedAddress → Except Failure (List Kubeconfig.Endpoint)
  | [] => .ok []
  | address :: rest => do
      let endpoint ← address.endpoint
      let endpoints ← endpointsOf rest
      return endpoint :: endpoints

def Shoot.endpoints (shoot : Shoot) : Except Failure (List Kubeconfig.Endpoint) :=
  endpointsOf shoot.advertisedAddresses

end ShootKubeconfig
