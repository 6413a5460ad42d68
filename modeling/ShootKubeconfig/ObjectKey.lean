import ShootKubeconfig.Resource.Metadata
import ShootKubeconfig.Table

namespace ShootKubeconfig

/-- An object without a namespace differs from one in the empty namespace. -/
@[ext]
structure ObjectKey where
  name : String
  inNamespace? : Option String
  deriving DecidableEq, Repr

namespace ObjectKey

/-- No namespace comes before every namespace. -/
def parts (key : ObjectKey) : String × Option String :=
  (key.name, key.inNamespace?)

instance : LT ObjectKey := ⟨fun first second => Prod.lexLt first.parts second.parts⟩

instance : DecidableLT ObjectKey := fun first second =>
  inferInstanceAs (Decidable (Prod.lexLt first.parts second.parts))

instance : KeyOrder ObjectKey :=
  .ofParts parts (by simp [parts, ObjectKey.ext_iff]) .rfl

end ObjectKey

namespace Metadata

def objectKey? (metadata : Metadata) : Option ObjectKey :=
  metadata.name.map fun name => ⟨name, metadata.inNamespace?⟩

def reference (metadata : Metadata) : ObjectKey :=
  ⟨metadata.anyName, metadata.inNamespace?⟩

end Metadata

end ShootKubeconfig
