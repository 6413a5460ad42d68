import ShootKubeconfig.Json.Fields
import ShootKubeconfig.Time.Timestamp

namespace ShootKubeconfig

structure OwnerReference where
  apiVersion : String
  blockOwnerDeletion : Option Bool := none
  controller : Option Bool := none
  kind : String
  name : String
  uid : String
  deriving DecidableEq, Inhabited

structure ManagedFields where
  apiVersion : Option String := none
  fieldsType : Option String := none
  fieldsV1 : Option Json := none
  manager : Option String := none
  operation : Option String := none
  subresource : Option String := none
  time : Option Timestamp := none
  deriving DecidableEq

structure Metadata where
  annotations : Option (Dictionary String) := none
  creationTimestamp : Option Timestamp := none
  deletionGracePeriodSeconds : Option Int := none
  deletionTimestamp : Option Timestamp := none
  finalizers : Option (List String) := none
  generateName : Option String := none
  generation : Option Int := none
  labels : Option (Dictionary String) := none
  managedFields : Option (List ManagedFields) := none
  name : Option String := none
  inNamespace? : Option String := none
  ownerReferences : Option (List OwnerReference) := none
  resourceVersion : Option String := none
  selfLink : Option String := none
  uid : Option String := none
  deriving DecidableEq, Inhabited

def Timestamp.ofJson? (value : Json) : Option Timestamp := do
  Timestamp.read? (← value.text?)

def Timestamp.toJson (timestamp : Timestamp) : Json :=
  .text timestamp.write

namespace OwnerReference

def isController (reference : OwnerReference) : Bool :=
  reference.controller == some true

/-- A missing text reads as the empty text. -/
def ofJson? (value : Json) : Option OwnerReference := do
  if !value.isObject then none
  return {
    apiVersion := ← Json.orDefault? Json.text? value "apiVersion"
    blockOwnerDeletion := ← Json.optional? Json.boolean? value "blockOwnerDeletion"
    controller := ← Json.optional? Json.boolean? value "controller"
    kind := ← Json.orDefault? Json.text? value "kind"
    name := ← Json.orDefault? Json.text? value "name"
    uid := ← Json.orDefault? Json.text? value "uid" }

def toJson (reference : OwnerReference) : Json :=
  .ofPresent [
    ("apiVersion", some (.text reference.apiVersion)),
    ("blockOwnerDeletion", reference.blockOwnerDeletion.map .boolean),
    ("controller", reference.controller.map .boolean),
    ("kind", some (.text reference.kind)),
    ("name", some (.text reference.name)),
    ("uid", some (.text reference.uid))]

end OwnerReference

namespace ManagedFields

def ofJson? (value : Json) : Option ManagedFields := do
  if !value.isObject then none
  return {
    apiVersion := ← Json.optional? Json.text? value "apiVersion"
    fieldsType := ← Json.optional? Json.text? value "fieldsType"
    fieldsV1 := ← Json.optional? some value "fieldsV1"
    manager := ← Json.optional? Json.text? value "manager"
    operation := ← Json.optional? Json.text? value "operation"
    subresource := ← Json.optional? Json.text? value "subresource"
    time := ← Json.optional? Timestamp.ofJson? value "time" }

def toJson (managed : ManagedFields) : Json :=
  .ofPresent [
    ("apiVersion", managed.apiVersion.map .text),
    ("fieldsType", managed.fieldsType.map .text),
    ("fieldsV1", managed.fieldsV1),
    ("manager", managed.manager.map .text),
    ("operation", managed.operation.map .text),
    ("subresource", managed.subresource.map .text),
    ("time", managed.time.map Timestamp.toJson)]

end ManagedFields

namespace Metadata

/-- The name, else the stem from which a name is to be made, else the empty text. -/
def anyName (metadata : Metadata) : String :=
  metadata.name.getD (metadata.generateName.getD "")

def terminating (metadata : Metadata) : Bool :=
  metadata.deletionTimestamp.isSome

def label? (metadata : Metadata) (key : String) : Option String :=
  metadata.labels.bind (·.get? key)

def owners (metadata : Metadata) : List OwnerReference :=
  metadata.ownerReferences.getD []

def ofJson? (value : Json) : Option Metadata := do
  if !value.isObject then none
  return {
    annotations := ← Json.optional? (Json.dictionaryOf? Json.text?) value "annotations"
    creationTimestamp := ← Json.optional? Timestamp.ofJson? value "creationTimestamp"
    deletionGracePeriodSeconds :=
      ← Json.optional? Json.integer64? value "deletionGracePeriodSeconds"
    deletionTimestamp := ← Json.optional? Timestamp.ofJson? value "deletionTimestamp"
    finalizers := ← Json.optional? (Json.listOf? Json.text?) value "finalizers"
    generateName := ← Json.optional? Json.text? value "generateName"
    generation := ← Json.optional? Json.integer64? value "generation"
    labels := ← Json.optional? (Json.dictionaryOf? Json.text?) value "labels"
    managedFields := ← Json.optional? (Json.listOf? ManagedFields.ofJson?) value "managedFields"
    name := ← Json.optional? Json.text? value "name"
    inNamespace? := ← Json.optional? Json.text? value "namespace"
    ownerReferences :=
      ← Json.optional? (Json.listOf? OwnerReference.ofJson?) value "ownerReferences"
    resourceVersion := ← Json.optional? Json.text? value "resourceVersion"
    selfLink := ← Json.optional? Json.text? value "selfLink"
    uid := ← Json.optional? Json.text? value "uid" }

def toJson (metadata : Metadata) : Json :=
  .ofPresent [
    ("annotations", metadata.annotations.map Json.ofTexts),
    ("creationTimestamp", metadata.creationTimestamp.map Timestamp.toJson),
    ("deletionGracePeriodSeconds", metadata.deletionGracePeriodSeconds.map .integer),
    ("deletionTimestamp", metadata.deletionTimestamp.map Timestamp.toJson),
    ("finalizers", metadata.finalizers.map fun names => .list (names.map .text)),
    ("generateName", metadata.generateName.map .text),
    ("generation", metadata.generation.map .integer),
    ("labels", metadata.labels.map Json.ofTexts),
    ("managedFields",
      metadata.managedFields.map fun managed => .list (managed.map ManagedFields.toJson)),
    ("name", metadata.name.map .text),
    ("namespace", metadata.inNamespace?.map .text),
    ("ownerReferences",
      metadata.ownerReferences.map fun owners => .list (owners.map OwnerReference.toJson)),
    ("resourceVersion", metadata.resourceVersion.map .text),
    ("selfLink", metadata.selfLink.map .text),
    ("uid", metadata.uid.map .text)]

end Metadata

end ShootKubeconfig
