import ShootKubeconfig.Kubeconfig.Document
import ShootKubeconfig.Kubeconfig.Format
import ShootKubeconfig.Text.Base64

namespace ShootKubeconfig.Kubeconfig

/-- An address of an API server: its advertised name, and its host with an optional port. -/
structure Endpoint where
  name : String
  host : String
  deriving DecidableEq, Repr

/-- The first endpoint becomes the current context. -/
structure Request where
  endpoints : List Endpoint
  certificateAuthority : Octets
  namespaceName : String
  shootName : String
  gardenIdentity : String
  deriving DecidableEq, Repr

/-- The first defect among endpoints of which the first has the given index. -/
def endpointDefect? (index : Nat) : List Endpoint → Option Failure
  | [] => none
  | endpoint :: rest =>
      if endpoint.name = "" then some (.endpointNameMissing index)
      else if endpoint.host = "" then some (.endpointHostMissing index)
      else endpointDefect? (index + 1) rest

namespace Request

def defect? (request : Request) : Option Failure :=
  if request.endpoints = [] then some .endpointsMissing
  else
    match endpointDefect? 0 request.endpoints with
    | some failure => some failure
    | none =>
        if request.namespaceName = "" then some .namespaceMissing
        else if request.shootName = "" then some .shootNameMissing
        else if request.gardenIdentity = "" then some .gardenIdentityMissing
        else none

def userName (request : Request) : String :=
  request.namespaceName ++ "--" ++ request.shootName

def contextName (request : Request) (endpoint : Endpoint) : String :=
  request.userName ++ "-" ++ endpoint.name

def extensionName : String := "client.authentication.k8s.io/exec"

def extensions (request : Request) : Format → Option (List Extension)
  | .current =>
      some [⟨extensionName,
        ⟨⟨request.namespaceName, request.shootName⟩, request.gardenIdentity⟩⟩]
  | .legacy => none

def pluginArguments (request : Request) : Format → List String
  | .current => ["gardenlogin", "get-client-certificate"]
  | .legacy =>
      ["gardenlogin", "get-client-certificate", "--name=" ++ request.shootName,
        "--namespace=" ++ request.namespaceName,
        "--garden-cluster-identity=" ++ request.gardenIdentity]

def cluster (request : Request) (format : Format) (endpoint : Endpoint) : Cluster where
  name := request.contextName endpoint
  server := "https://" ++ endpoint.host
  certificateAuthorityData := Base64.encodeText request.certificateAuthority
  extensions := request.extensions format

def context (request : Request) (endpoint : Endpoint) : Context where
  name := request.contextName endpoint
  cluster := request.contextName endpoint
  user := request.userName

def document (request : Request) (format : Format) : Document where
  clusters := request.endpoints.map (request.cluster format)
  contexts := request.endpoints.map request.context
  currentContext := ((request.endpoints.head?).map request.contextName).getD ""
  users := [⟨request.userName, request.pluginArguments format⟩]

def build (request : Request) (format : Format) : Except Failure String :=
  match request.defect? with
  | some failure => .error failure
  | none => .ok (request.document format).write

end Request

end ShootKubeconfig.Kubeconfig
