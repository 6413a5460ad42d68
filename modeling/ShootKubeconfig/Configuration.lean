import ShootKubeconfig.Json.Fields
import ShootKubeconfig.Text.Utf8
import ShootKubeconfig.Time.Span
import ShootKubeconfig.Wording
import ShootKubeconfig.Yaml.Node

namespace ShootKubeconfig

structure ShootSettings where
  /-- How many reconciles run at the same time. -/
  maxConcurrent : Nat := 50
  /-- How many of them belong to one namespace. -/
  maxConcurrentPerNamespace : Nat := 3
  /-- When a shoot is retried that its namespace has no room for. -/
  quotaRetry : Span := .ofMinutes 10
  /-- The least delay after a denied admission. -/
  admissionRetryMin : Span := .ofMilliseconds 100
  /-- The greatest delay after a denied admission. -/
  admissionRetryMax : Span := .ofSeconds 5
  deriving DecidableEq, Inhabited

structure Configuration where
  shoot : ShootSettings := {}
  /-- The octets of the largest ConfigMap that is accepted. -/
  maxObjectSize : Nat := 100 * 1024
  deriving DecidableEq, Inhabited

namespace Configuration

inductive Failure where
  | unreadable
  | malformed
  | invalid (field detail : String)
  deriving DecidableEq, Repr

/-- Why a configuration can not be used; of several reasons the first. -/
def defect? (configuration : Configuration) : Option Failure :=
  let shoot := configuration.shoot
  if shoot.maxConcurrent < 1 then
    some (.invalid "controllers.shoot.maxConcurrentReconciles" "must be 1 or greater")
  else if shoot.maxConcurrentPerNamespace < 1 then
    some (.invalid "controllers.shoot.maxConcurrentReconcilesPerNamespace" "must be 1 or greater")
  else if shoot.maxConcurrent < shoot.maxConcurrentPerNamespace then
    some (.invalid "controllers.shoot.maxConcurrentReconcilesPerNamespace"
      "must not be greater than maxConcurrentReconciles")
  else if shoot.admissionRetryMax < shoot.admissionRetryMin then
    some (.invalid "controllers.shoot.admissionRequeueMin"
      "must not be greater than admissionRequeueMax")
  else if configuration.maxObjectSize < 1 then
    some (.invalid "webhooks.configMapValidation.maxObjectSize" "must be 1 or greater")
  else none

/-- The wording of a failure with a file. -/
def Failure.wording (file : String) : Failure → Wording
  | .unreadable => .openEnded s!"Failed to read config file {file}: "
  | .malformed => .openEnded "Failed to parse config file: "
  | .invalid field detail => s!"Invalid value for {field}: {detail}"

/-- The wording of a failure that has nothing to do with a file. -/
def Failure.message? (failure : Failure) : Option String :=
  (failure.wording "").whole?

section Yaml

open Yaml

/-- The values of a mapping under known keys, none of which occurs twice. A key is a scalar. -/
def knownEntries? (root : Node) (known : List String) :
    List (Node × Node) → Option (List (String × Node))
  | [] => some []
  | (key, value) :: rest => do
      match ← root.resolve key with
      | .scalar _ _ name _ =>
          let others ← knownEntries? root known rest
          if name ∉ known then some others
          else if (others.lookup name).isSome then none
          else some ((name, value) :: others)
      | _ => none

/-- An empty scalar stands for an empty mapping. -/
def mappingOf? (root : Node) (known : List String) (node : Node) :
    Option (List (String × Node)) := do
  match ← root.resolve node with
  | .mapping _ entries => knownEntries? root known entries
  | .scalar _ _ "" _ => some []
  | _ => none

def member? (read : Node → Option α) (default : α) (name : String)
    (fields : List (String × Node)) : Option α :=
  match fields.lookup name with
  | some node => read node
  | none => some default

/-- A number is unquoted, or a literal text that a tag declares to be an integer. -/
def naturalOfNode? (root : Node) (node : Node) : Option Nat := do
  match ← root.resolve node with
  | .scalar _ tag text form =>
      if form = .plain ∨ (form = .literal ∧ tag = some "tag:yaml.org,2002:int") then
        Yaml.naturalBelow? (2 ^ 64) text.toList
      else none
  | _ => none

def spanOfNode? (root : Node) (node : Node) : Option Span := do
  match ← root.resolve node with
  | .scalar _ _ text _ => Span.read? text
  | _ => none

def shootOfNode? (root node : Node) : Option ShootSettings := do
  let fields ← mappingOf? root
    ["maxConcurrentReconciles", "maxConcurrentReconcilesPerNamespace", "quotaExceededRetryDelay",
      "admissionRequeueMin", "admissionRequeueMax"] node
  let defaults : ShootSettings := {}
  return {
    maxConcurrent :=
      ← member? (naturalOfNode? root) defaults.maxConcurrent "maxConcurrentReconciles" fields
    maxConcurrentPerNamespace :=
      ← member? (naturalOfNode? root) defaults.maxConcurrentPerNamespace
        "maxConcurrentReconcilesPerNamespace" fields
    quotaRetry :=
      ← member? (spanOfNode? root) defaults.quotaRetry "quotaExceededRetryDelay" fields
    admissionRetryMin :=
      ← member? (spanOfNode? root) defaults.admissionRetryMin "admissionRequeueMin" fields
    admissionRetryMax :=
      ← member? (spanOfNode? root) defaults.admissionRetryMax "admissionRequeueMax" fields }

def controllersOfNode? (root node : Node) : Option ShootSettings := do
  member? (shootOfNode? root) {} "shoot" (← mappingOf? root ["shoot"] node)

def validationOfNode? (root node : Node) : Option Nat := do
  member? (naturalOfNode? root) ({} : Configuration).maxObjectSize "maxObjectSize"
    (← mappingOf? root ["maxObjectSize"] node)

def webhooksOfNode? (root node : Node) : Option Nat := do
  member? (validationOfNode? root) ({} : Configuration).maxObjectSize "configMapValidation"
    (← mappingOf? root ["configMapValidation"] node)

def ofNode? (root : Node) : Option Configuration := do
  let fields ← mappingOf? root ["controllers", "webhooks"] root
  return {
    shoot := ← member? (controllersOfNode? root) {} "controllers" fields
    maxObjectSize :=
      ← member? (webhooksOfNode? root) ({} : Configuration).maxObjectSize "webhooks" fields }

/-- A blank text stands for the defaults, as does one without a document. -/
def ofYaml (text : String) : Except Failure Configuration :=
  if Text.trimBlank text.toList = [] then .ok {}
  else
    match (Node.ofText? text).bind ofNode? with
    | some configuration => .ok configuration
    | none => .error .malformed

end Yaml

def checked (configuration : Configuration) : Except Failure Configuration :=
  match configuration.defect? with
  | some failure => .error failure
  | none => .ok configuration

inductive Source where
  | defaults
  | missingFile
  | file (content : Octets)
  deriving DecidableEq

def load : Source → Except Failure Configuration
  | .defaults => checked {}
  | .missingFile => .error .unreadable
  | .file content =>
      match Utf8.decode content with
      | .error _ => .error .unreadable
      | .ok text => do checked (← ofYaml text)

section Json

/-- The parts of a record by name or position, where a part that is missing reads as a
default. -/
def part? (read : Json → Option α) (default : α) : Option Json → Option α
  | some value => read value
  | none => some default

def spanOfJson? (value : Json) : Option Span := do
  Span.read? (← value.text?)

def shootOfJson? (value : Json) : Option ShootSettings := do
  let defaults : ShootSettings := {}
  match ← Json.record?
      ["maxConcurrentReconciles", "maxConcurrentReconcilesPerNamespace",
        "quotaExceededRetryDelay", "admissionRequeueMin", "admissionRequeueMax"] value with
  | [total, perNamespace, quota, least, greatest] =>
      return {
        maxConcurrent := ← part? Json.natural64? defaults.maxConcurrent total
        maxConcurrentPerNamespace :=
          ← part? Json.natural64? defaults.maxConcurrentPerNamespace perNamespace
        quotaRetry := ← part? spanOfJson? defaults.quotaRetry quota
        admissionRetryMin := ← part? spanOfJson? defaults.admissionRetryMin least
        admissionRetryMax := ← part? spanOfJson? defaults.admissionRetryMax greatest }
  | _ => none

def wrapped? (name : String) (read : Json → Option α) (default : α) (value : Json) :
    Option α := do
  match ← Json.record? [name] value with
  | [value] => part? read default value
  | _ => none

def ofJson? (value : Json) : Option Configuration := do
  let defaults : Configuration := {}
  match ← Json.record? ["controllers", "webhooks"] value with
  | [controllers, webhooks] =>
      return {
        shoot := ← part? (wrapped? "shoot" shootOfJson? {}) {} controllers
        maxObjectSize :=
          ← part?
            (wrapped? "configMapValidation"
              (wrapped? "maxObjectSize" Json.natural64? defaults.maxObjectSize)
              defaults.maxObjectSize)
            defaults.maxObjectSize webhooks }
  | _ => none

end Json

end Configuration

end ShootKubeconfig
