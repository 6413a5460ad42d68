import ShootKubeconfig.Artifact
import ShootKubeconfig.Table

namespace ShootKubeconfig

@[ext]
structure Key where
  namespaceName : String
  name : String
  deriving DecidableEq, Repr, Inhabited

namespace Key

def parts (key : Key) : String × String :=
  (key.namespaceName, key.name)

instance : LT Key := ⟨fun first second => Prod.lexLt first.parts second.parts⟩

instance : DecidableLT Key := fun first second =>
  inferInstanceAs (Decidable (Prod.lexLt first.parts second.parts))

instance : KeyOrder Key :=
  .ofParts parts (by simp [parts, Key.ext_iff]) .rfl

def path (key : Key) : String :=
  key.namespaceName ++ "/" ++ key.name

def artifact (shoot : Key) : Key :=
  { shoot with name := Artifact.nameFor shoot.name }

end Key

/-- An object without a namespace is kept under the empty one. -/
def Metadata.key (metadata : Metadata) : Key :=
  ⟨metadata.inNamespace?.getD "", metadata.anyName⟩

end ShootKubeconfig
