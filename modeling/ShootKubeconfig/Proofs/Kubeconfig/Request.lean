import ShootKubeconfig.Kubeconfig.Request
import ShootKubeconfig.Proofs.Except

namespace ShootKubeconfig

namespace Kubeconfig

theorem endpointDefect?_eq_none_iff (index : Nat) {endpoints : List Endpoint} :
    endpointDefect? index endpoints = none ↔
      ∀ endpoint ∈ endpoints, endpoint.name ≠ "" ∧ endpoint.host ≠ "" := by
  induction endpoints generalizing index with
  | nil => simp [endpointDefect?]
  | cons endpoint rest ih =>
      unfold endpointDefect?
      by_cases unnamed : endpoint.name = ""
      · simp [unnamed]
      · by_cases hostless : endpoint.host = ""
        · simp [unnamed, hostless]
        · simp [unnamed, hostless, ih]

theorem Format.ofKubernetesVersion_eq_ok_iff {version : String} {format : Format} :
    Format.ofKubernetesVersion version = .ok format ↔
      ∃ parsed, Version.read (Format.versionText version) = .ok parsed ∧
        format = Format.ofVersion parsed := by
  unfold Format.ofKubernetesVersion
  cases Version.read (Format.versionText version) with
  | error cause => simp
  | ok parsed => simp [eq_comm]

namespace Request

variable {request : Request}

theorem defect?_eq_none_iff :
    request.defect? = none ↔
      request.endpoints ≠ [] ∧
        (∀ endpoint ∈ request.endpoints, endpoint.name ≠ "" ∧ endpoint.host ≠ "") ∧
        request.namespaceName ≠ "" ∧ request.shootName ≠ "" ∧ request.gardenIdentity ≠ "" := by
  rw [← endpointDefect?_eq_none_iff 0]
  unfold defect?
  by_cases silent : request.endpoints = []
  · simp [silent]
  · cases endpointDefect? 0 request.endpoints with
    | some failure => simp [silent]
    | none =>
        simp only [silent, if_false, ne_eq, not_false_eq_true, true_and]
        by_cases noNamespace : request.namespaceName = ""
        · simp [noNamespace]
        · by_cases noName : request.shootName = ""
          · simp [noNamespace, noName]
          · by_cases noIdentity : request.gardenIdentity = "" <;>
              simp [noNamespace, noName, noIdentity]

theorem build_eq_ok_iff {format : Format} {text : String} :
    request.build format = .ok text ↔
      request.defect? = none ∧ text = (request.document format).write := by
  unfold build
  cases request.defect? with
  | some failure => simp
  | none => simp [eq_comm]

end Request

end Kubeconfig

end ShootKubeconfig
