import ShootKubeconfig.Resource.Metadata

namespace ShootKubeconfig

structure AdvertisedAddress where
  name : String
  url : String
  deriving DecidableEq, Inhabited

structure Shoot.Status where
  advertisedAddresses : List AdvertisedAddress := []
  deriving DecidableEq, Inhabited

structure Shoot where
  metadata : Metadata := {}
  kubernetesVersion : String
  status : Option Shoot.Status := none
  deriving DecidableEq, Inhabited

def AdvertisedAddress.ofJson? (value : Json) : Option AdvertisedAddress := do
  match ← Json.record? ["name", "url"] value with
  | [some name, some url] => return { name := ← name.text?, url := ← url.text? }
  | _ => none

def AdvertisedAddress.toJson (address : AdvertisedAddress) : Json :=
  .ofFields [("name", .text address.name), ("url", .text address.url)]

namespace Shoot

def apiVersion : String := "core.gardener.cloud/v1beta1"

def kind : String := "Shoot"

def advertisedAddresses (shoot : Shoot) : List AdvertisedAddress :=
  (shoot.status.getD {}).advertisedAddresses

def terminating (shoot : Shoot) : Bool :=
  shoot.metadata.terminating

def Status.ofJson? (value : Json) : Option Status := do
  match ← Json.record? ["advertisedAddresses"] value with
  | [some addresses] =>
      return { advertisedAddresses := ← Json.listOf? AdvertisedAddress.ofJson? addresses }
  | _ => return {}

def Status.toJson (status : Status) : Json :=
  .ofPresent [
    ("advertisedAddresses",
      if status.advertisedAddresses.isEmpty then none
      else some (.list (status.advertisedAddresses.map AdvertisedAddress.toJson)))]

def versionOfJson? (spec : Json) : Option String := do
  match ← Json.record? ["kubernetes"] spec with
  | [some kubernetes] =>
      match ← Json.record? ["version"] kubernetes with
      | [some version] => version.text?
      | _ => none
  | _ => none

/-- A shoot that is listed by its parts lists its status too, even where it has none. -/
def ofJson? (value : Json) : Option Shoot := do
  match ← Json.record? ["metadata", "spec", "status"] value with
  | [some metadata, some spec, status] =>
      if status.isNone ∧ !value.isObject then none
      return {
        metadata := ← Metadata.ofJson? metadata
        kubernetesVersion := ← versionOfJson? spec
        status := ← Json.nullable? Status.ofJson? (status.getD .null) }
  | _ => none

def toJson (shoot : Shoot) : Json :=
  .ofPresent [
    ("apiVersion", some (.text apiVersion)),
    ("kind", some (.text kind)),
    ("metadata", some shoot.metadata.toJson),
    ("spec",
      some (.ofFields
        [("kubernetes", .ofFields [("version", .text shoot.kubernetesVersion)])])),
    ("status", shoot.status.map Status.toJson)]

end Shoot

end ShootKubeconfig
