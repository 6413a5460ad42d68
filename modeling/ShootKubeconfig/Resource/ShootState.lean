import ShootKubeconfig.Resource.Metadata

namespace ShootKubeconfig

structure GeneratedData where
  name : String
  type : String
  data : Json
  deriving DecidableEq, Inhabited

/-- It shares its name and namespace with the shoot. -/
structure ShootState where
  metadata : Metadata := {}
  generated : List GeneratedData := []
  deriving DecidableEq, Inhabited

def GeneratedData.ofJson? (value : Json) : Option GeneratedData := do
  match ← Json.record? ["name", "type", "data"] value with
  | [some name, some type, some data] =>
      return { name := ← name.text?, type := ← type.text?, data }
  | _ => none

def GeneratedData.toJson (generated : GeneratedData) : Json :=
  .ofFields [
    ("data", generated.data),
    ("name", .text generated.name),
    ("type", .text generated.type)]

namespace ShootState

def apiVersion : String := "core.gardener.cloud/v1alpha1"

def terminating (state : ShootState) : Bool :=
  state.metadata.terminating

/-- Of several entries with one name the first counts. -/
def generated? (state : ShootState) (name : String) : Option GeneratedData :=
  state.generated.find? (·.name == name)

def generatedOfJson? (spec : Json) : Option (List GeneratedData) := do
  match ← Json.record? ["gardener"] spec with
  | [some generated] => Json.listOf? GeneratedData.ofJson? generated
  | _ => return []

def ofJson? (value : Json) : Option ShootState := do
  match ← Json.record? ["metadata", "spec"] value with
  | [some metadata, some spec] =>
      return {
        metadata := ← Metadata.ofJson? metadata
        generated := ← generatedOfJson? spec }
  | _ => none

def toJson (state : ShootState) : Json :=
  .ofPresent [
    ("apiVersion", some (.text apiVersion)),
    ("kind", some (.text "ShootState")),
    ("metadata", some state.metadata.toJson),
    ("spec",
      some (.ofPresent [
        ("gardener",
          if state.generated.isEmpty then none
          else some (.list (state.generated.map GeneratedData.toJson)))]))]

end ShootState

end ShootKubeconfig
