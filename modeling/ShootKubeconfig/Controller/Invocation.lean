import ShootKubeconfig.Controller.Records

/-!
The reconciles of cached shoots, one after another, with what they count and tell.

A reconcile is measured whatever becomes of it. A shoot without a namespace has no key, and nothing
else is counted or told about it.
-/

namespace ShootKubeconfig.Controller

open Reconcile

/-- What a reconcile of a shoot turns to: the reconcile of its key, and the publishing of
warnings, which may fail. -/
structure Services (σ : Type) where
  reconcile : Key → σ → Result × σ
  publish : Warning → σ → Bool × σ

/-- Tells about a result, if it is worth a warning. Whether that succeeds changes nothing else. -/
def tell (services : Services σ) (shoot : Shoot) (result : Result) (state : σ)
    (records : Records) : σ × Records :=
  match Warning.ofResult? shoot.metadata result with
  | none => (state, records)
  | some warning => ((services.publish warning state).2, records.warn warning)

def invoke (services : Services σ) (shoot : Shoot) (state : σ) (records : Records) :
    Result × σ × Records :=
  let records := records.start
  match shoot.metadata.inNamespace? with
  | none => (.error namespaceMissing, state, records.measure)
  | some _ =>
      let key := shoot.metadata.key
      let (result, state) := services.reconcile key state
      let (state, records) := tell services shoot result state records
      (result, state, records.finish key result)

def invokeAll (services : Services σ) : List Shoot → σ → Records → List Result × σ × Records
  | [], state, records => ([], state, records)
  | shoot :: rest, state, records =>
      let (result, state, records) := invoke services shoot state records
      let (results, state, records) := invokeAll services rest state records
      (result :: results, state, records)

end ShootKubeconfig.Controller
