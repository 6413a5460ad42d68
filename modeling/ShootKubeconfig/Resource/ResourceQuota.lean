import ShootKubeconfig.Resource.ConfigMap

namespace ShootKubeconfig

structure ScopeRequirement where
  operator : String
  scopeName : String
  values : Option (List String) := none
  deriving DecidableEq, Inhabited

structure ScopeSelector where
  matchExpressions : Option (List ScopeRequirement) := none
  deriving DecidableEq, Inhabited

structure ResourceQuota.Spec where
  hard : Option (Dictionary String) := none
  scopeSelector : Option ScopeSelector := none
  scopes : Option (List String) := none
  deriving DecidableEq, Inhabited

structure ResourceQuota.Status where
  hard : Option (Dictionary String) := none
  used : Option (Dictionary String) := none
  deriving DecidableEq, Inhabited

structure ResourceQuota where
  metadata : Metadata := {}
  spec : Option ResourceQuota.Spec := none
  status : Option ResourceQuota.Status := none
  deriving DecidableEq, Inhabited

def ScopeRequirement.ofJson? (value : Json) : Option ScopeRequirement := do
  if !value.isObject then none
  return {
    operator := ← Json.orDefault? Json.text? value "operator"
    scopeName := ← Json.orDefault? Json.text? value "scopeName"
    values := ← Json.optional? (Json.listOf? Json.text?) value "values" }

def ScopeSelector.ofJson? (value : Json) : Option ScopeSelector := do
  if !value.isObject then none
  return {
    matchExpressions :=
      ← Json.optional? (Json.listOf? ScopeRequirement.ofJson?) value "matchExpressions" }

namespace ResourceQuota

def Spec.ofJson? (value : Json) : Option Spec := do
  if !value.isObject then none
  return {
    hard := ← Json.optional? (Json.dictionaryOf? Json.text?) value "hard"
    scopeSelector := ← Json.optional? ScopeSelector.ofJson? value "scopeSelector"
    scopes := ← Json.optional? (Json.listOf? Json.text?) value "scopes" }

def Status.ofJson? (value : Json) : Option Status := do
  if !value.isObject then none
  return {
    hard := ← Json.optional? (Json.dictionaryOf? Json.text?) value "hard"
    used := ← Json.optional? (Json.dictionaryOf? Json.text?) value "used" }

def ofJson? (value : Json) : Option ResourceQuota := do
  if !value.typeMatches "v1" "ResourceQuota" then none
  return {
    metadata := ← Json.orDefault? Metadata.ofJson? value "metadata"
    spec := ← Json.optional? Spec.ofJson? value "spec"
    status := ← Json.optional? Status.ofJson? value "status" }

end ResourceQuota

def ScopeRequirement.toJson (requirement : ScopeRequirement) : Json :=
  .ofPresent [
    ("operator", some (.text requirement.operator)),
    ("scopeName", some (.text requirement.scopeName)),
    ("values", requirement.values.map fun values => .list (values.map .text))]

def ScopeSelector.toJson (selector : ScopeSelector) : Json :=
  .ofPresent [
    ("matchExpressions",
      selector.matchExpressions.map fun list => .list (list.map ScopeRequirement.toJson))]

namespace ResourceQuota

def Spec.toJson (spec : Spec) : Json :=
  .ofPresent [
    ("hard", spec.hard.map Json.ofTexts),
    ("scopeSelector", spec.scopeSelector.map ScopeSelector.toJson),
    ("scopes", spec.scopes.map fun scopes => .list (scopes.map .text))]

def Status.toJson (status : Status) : Json :=
  .ofPresent [
    ("hard", status.hard.map Json.ofTexts),
    ("used", status.used.map Json.ofTexts)]

def toJson (quota : ResourceQuota) : Json :=
  .ofPresent [
    ("apiVersion", some (.text "v1")),
    ("kind", some (.text "ResourceQuota")),
    ("metadata", some quota.metadata.toJson),
    ("spec", quota.spec.map Spec.toJson),
    ("status", quota.status.map Status.toJson)]

end ResourceQuota

end ShootKubeconfig
