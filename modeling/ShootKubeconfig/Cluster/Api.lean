import ShootKubeconfig.Json.Reader
import ShootKubeconfig.Reconcile.Program
import ShootKubeconfig.Reconcile.Shoot

namespace ShootKubeconfig.Cluster

open Reconcile

structure ApiRequest where
  method : String
  target : String
  body : Json

structure ApiResponse where
  status : Nat
  body : String

namespace ApiRequest

def fieldManager : String := "kubeconfig-operator"

def configMapsPath (namespaceName : String) : String :=
  "/api/v1/namespaces/" ++ namespaceName ++ "/configmaps"

def shootPath (key : Key) : String :=
  "/apis/" ++ Shoot.apiVersion ++ "/namespaces/" ++ key.namespaceName ++ "/shoots/" ++ key.name

def shootStatePath (key : Key) : String :=
  "/apis/" ++ ShootState.apiVersion ++ "/namespaces/" ++ key.namespaceName ++ "/shootstates/" ++
    key.name

def make (method path : String) (body : Json) : Except Failure ApiRequest :=
  match Uri.requestTarget? path with
  | some target => .ok ⟨method, target, body⟩
  | none => .error (.cluster .broken)

/-- A request for one object needs its name. -/
def makeNamed (method path name : String) (body : Json) : Except Failure ApiRequest :=
  if name = "" then .error (.cluster .broken) else make method path body

def namespaceOf (configMap : ConfigMap) : Except Failure String :=
  match configMap.metadata.inNamespace? with
  | some namespaceName => .ok namespaceName
  | none => .error (.missingKey "configmap metadata.namespace")

def getConfigMap (key : Key) : Except Failure ApiRequest :=
  makeNamed "GET" (configMapsPath key.namespaceName ++ "/" ++ key.name) key.name .null

def managed (path : String) : String :=
  path ++ "?&fieldManager=" ++ fieldManager

def ofCall : Call → Except Failure ApiRequest
  | .shoot key => makeNamed "GET" (shootPath key) key.name .null
  | .shootState key => makeNamed "GET" (shootStatePath key) key.name .null
  | .configMap key => getConfigMap key
  | .resourceQuotas namespaceName =>
      make "GET" ("/api/v1/namespaces/" ++ namespaceName ++ "/resourcequotas?") .null
  | .clusterIdentity => getConfigMap identityKey
  | .create object => do
      make "POST" (managed (configMapsPath (← namespaceOf object))) object.toJson
  | .replace object => do
      let path := configMapsPath (← namespaceOf object) ++ "/" ++ object.metadata.anyName
      makeNamed "PUT" (managed path) object.metadata.anyName object.toJson
  | .delete key =>
      make "DELETE" (configMapsPath key.namespaceName ++ "/" ++ key.name ++ "?") (.object [])

end ApiRequest

namespace ApiResponse

def phrase? : Nat → Option String
  | 400 => "Bad Request"
  | 401 => "Unauthorized"
  | 402 => "Payment Required"
  | 403 => "Forbidden"
  | 404 => "Not Found"
  | 405 => "Method Not Allowed"
  | 406 => "Not Acceptable"
  | 407 => "Proxy Authentication Required"
  | 408 => "Request Timeout"
  | 409 => "Conflict"
  | 410 => "Gone"
  | 411 => "Length Required"
  | 412 => "Precondition Failed"
  | 413 => "Payload Too Large"
  | 414 => "URI Too Long"
  | 415 => "Unsupported Media Type"
  | 416 => "Range Not Satisfiable"
  | 417 => "Expectation Failed"
  | 418 => "I'm a teapot"
  | 421 => "Misdirected Request"
  | 422 => "Unprocessable Entity"
  | 423 => "Locked"
  | 424 => "Failed Dependency"
  | 425 => "Too Early"
  | 426 => "Upgrade Required"
  | 428 => "Precondition Required"
  | 429 => "Too Many Requests"
  | 431 => "Request Header Fields Too Large"
  | 451 => "Unavailable For Legal Reasons"
  | 500 => "Internal Server Error"
  | 501 => "Not Implemented"
  | 502 => "Bad Gateway"
  | 503 => "Service Unavailable"
  | 504 => "Gateway Timeout"
  | 505 => "HTTP Version Not Supported"
  | 506 => "Variant Also Negotiates"
  | 507 => "Insufficient Storage"
  | 508 => "Loop Detected"
  | 510 => "Not Extended"
  | 511 => "Network Authentication Required"
  | _ => none

def statusLine (status : Nat) : String :=
  toString status ++ " " ++ (phrase? status).getD "<unknown status code>"

def codeLimit : Nat := 2 ^ 16

def textOrEmpty? : Option Json → Option String
  | some value => value.text?
  | none => some ""

def refusalOfJson? (value : Json) : Option Refusal := do
  match ← Json.record? ["status", "message", "reason", "code"] value with
  | [some status, message, reason, some code] =>
      return {
        status := ← status.text?
        message := ← textOrEmpty? message
        reason := ← textOrEmpty? reason
        code := ← Json.naturalBelow? codeLimit code }
  | _ => none

/-- The refusal of a request, made up from the response where it does not spell one out. -/
def refusal? (response : ApiResponse) : Option Refusal :=
  if 400 ≤ response.status ∧ response.status < 600 then
    match (Json.read? response.body).bind refusalOfJson? with
    | some refusal => some refusal
    | none =>
        some {
          status := statusLine response.status
          message := Text.quoted response.body
          reason := "Failed to parse error data"
          code := response.status }
  else none

def decoded (read : Json → Option α) (response : ApiResponse) : Except Failure α :=
  match response.refusal? with
  | some refusal => .error (.cluster (.refused refusal))
  | none =>
      match (Json.read? response.body).bind read with
      | some value => .ok value
      | none => .error (.cluster .broken)

/-- What is not found is absent. -/
def found (read : Json → Option α) (response : ApiResponse) : Except Failure (Option α) :=
  match response.refusal? with
  | some refusal =>
      if refusal.reason = "NotFound" then .ok none
      else .error (.cluster (.refused refusal))
  | none => (decoded read response).map some

def checkListMetadata? (value : Json) : Option Unit := do
  if !value.isObject then none
  let _ ← Json.optional? Json.text? value "continue"
  let _ ← Json.optional? Json.integer64? value "remainingItemCount"
  let _ ← Json.optional? Json.text? value "resourceVersion"
  let _ ← Json.optional? Json.text? value "selfLink"

def itemsOfJson? (read : Json → Option α) (value : Json) : Option (List α) := do
  let items ← value.field? "items"
  match value.field? "metadata" with
  | some metadata => checkListMetadata? metadata
  | none => pure ()
  return (← Json.nullable? (Json.listOf? read) items).getD []

def checkCause? (value : Json) : Option Unit := do
  match ← Json.record? ["reason", "message", "field"] value with
  | [reason, message, field] =>
      let _ ← textOrEmpty? reason
      let _ ← textOrEmpty? message
      let _ ← textOrEmpty? field
  | _ => none

def checkDetails? (value : Json) : Option Unit := do
  match ← Json.record? ["name", "group", "kind", "uid", "causes", "retryAfterSeconds"] value with
  | [name, group, kind, uid, causes, retry] =>
      let _ ← [name, group, kind, uid].mapM textOrEmpty?
      let _ ← Json.listOf? checkCause? (causes.getD (.list []))
      let _ ← Json.naturalBelow? (2 ^ 32) (retry.getD (.integer 0))
  | _ => none

def summary? : Json → Option Unit
  | .text "Success" | .text "Failure" => some ()
  | _ => none

def checkStatus? (value : Json) : Option Unit := do
  let _ ← Json.optional? summary? value "status"
  let _ ← Json.naturalBelow? codeLimit ((value.field? "code").getD (.integer 0))
  let _ ← textOrEmpty? (value.field? "message")
  let _ ← textOrEmpty? (value.field? "reason")
  let _ ← Json.optional? checkDetails? value "details"

def checkDeleted? (value : Json) : Option Unit :=
  if value.field "kind" = .text "Status" then checkStatus? value
  else (ConfigMap.ofJson? value).map fun _ => ()

def deleted (response : ApiResponse) : Except Failure Bool :=
  match response.refusal? with
  | some refusal =>
      if refusal.code = 404 then .ok false else .error (.cluster (.refused refusal))
  | none => (decoded checkDeleted? response).map fun _ => true

def answer (response : ApiResponse) : (call : Call) → Answer call
  | .shoot _ => found Shoot.ofJson? response
  | .shootState _ => found ShootState.ofJson? response
  | .configMap _ => found ConfigMap.ofJson? response
  | .resourceQuotas _ => decoded (itemsOfJson? ResourceQuota.ofJson?) response
  | .clusterIdentity => found ConfigMap.ofJson? response
  | .create _ => (decoded ConfigMap.ofJson? response).map fun _ => ()
  | .replace _ => (decoded ConfigMap.ofJson? response).map fun _ => ()
  | .delete _ => deleted response

end ApiResponse

end ShootKubeconfig.Cluster
