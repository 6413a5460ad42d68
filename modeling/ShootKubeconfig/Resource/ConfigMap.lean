import ShootKubeconfig.Resource.Metadata
import ShootKubeconfig.Text.Base64

namespace ShootKubeconfig

structure ConfigMap where
  metadata : Metadata := {}
  binaryData : Option (Dictionary Octets) := none
  data : Option (Dictionary String) := none
  immutable : Option Bool := none
  deriving DecidableEq, Inhabited

/-- The type of an object may be left out, but where it stands it is the expected one. -/
def Json.typeMatches (value : Json) (apiVersion kind : String) : Bool :=
  value.isObject &&
    ((value.field? "apiVersion").all (· == .text apiVersion)) &&
    ((value.field? "kind").all (· == .text kind))

namespace ConfigMap

def octets? (value : Json) : Option Octets := do
  (Base64.decodeText (← value.text?)).toOption

def ofJson? (value : Json) : Option ConfigMap := do
  if !value.typeMatches "v1" "ConfigMap" then none
  return {
    metadata := ← Json.orDefault? Metadata.ofJson? value "metadata"
    binaryData := ← Json.optional? (Json.dictionaryOf? octets?) value "binaryData"
    data := ← Json.optional? (Json.dictionaryOf? Json.text?) value "data"
    immutable := ← Json.optional? Json.boolean? value "immutable" }

def withVersion (configMap : ConfigMap) (version : String) : ConfigMap :=
  { configMap with
    metadata := { configMap.metadata with resourceVersion := some version } }

def withoutVersion (configMap : ConfigMap) : ConfigMap :=
  { configMap with metadata := { configMap.metadata with resourceVersion := none } }

def toJson (configMap : ConfigMap) : Json :=
  .ofPresent [
    ("apiVersion", some (.text "v1")),
    ("binaryData",
      configMap.binaryData.map
        (Json.ofDictionary fun octets => .text (Base64.encodeText octets))),
    ("data", configMap.data.map Json.ofTexts),
    ("immutable", configMap.immutable.map .boolean),
    ("kind", some (.text "ConfigMap")),
    ("metadata", some configMap.metadata.toJson)]

end ConfigMap

end ShootKubeconfig
