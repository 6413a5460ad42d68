import ShootKubeconfig.Text.Blank
import ShootKubeconfig.Version

namespace ShootKubeconfig.Kubeconfig

inductive Failure where
  | endpointsMissing
  | endpointNameMissing (index : Nat)
  | endpointHostMissing (index : Nat)
  | namespaceMissing
  | shootNameMissing
  | gardenIdentityMissing
  | kubernetesVersion (version : String) (cause : Version.Malformed)
  deriving DecidableEq, Repr

def Failure.message : Failure → String
  | .endpointsMissing => "missing clusters"
  | .endpointNameMissing index => s!"no name defined for cluster[{index}]"
  | .endpointHostMissing index => s!"no api server host defined for cluster[{index}]"
  | .namespaceMissing => "no namespace defined for kubeconfig request"
  | .shootNameMissing => "no shoot name defined for kubeconfig request"
  | .gardenIdentityMissing => "no garden cluster identity defined for kubeconfig request"
  | .kubernetesVersion version cause =>
      s!"could not parse kubernetes version {version} of shoot cluster: {cause.message}"

/-- How the reference to the shoot reaches the credential plugin: attached to every cluster as
an extension, or, for older clients, as arguments. -/
inductive Format where
  | current
  | legacy
  deriving DecidableEq, Repr

namespace Format

/-- The first release whose clients pass the extensions of a cluster on to plugins. -/
def firstWithExtensions : Version := { release := ⟨1, 20, 0⟩ }

/-- A pre-release never counts as older. -/
def ofVersion (version : Version) : Format :=
  if version.preRelease = [] ∧ version.order firstWithExtensions = .lt then .legacy
  else .current

/-- The version itself, without blanks around it and the letter before it. -/
def versionText (text : String) : List Char :=
  (Text.trimBlank text.toList).dropWhile (· == 'v')

def ofKubernetesVersion (text : String) : Except Failure Format :=
  match Version.read (versionText text) with
  | .ok version => .ok (ofVersion version)
  | .error cause => .error (.kubernetesVersion text cause)

end Format

end ShootKubeconfig.Kubeconfig
