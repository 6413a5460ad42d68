import ShootKubeconfig.Controller.Records

/-!
The reconciles of a shoot that is gone, until one succeeds or too many have failed.

A denied admission is no failure: it is waited for as long as it takes.
-/

namespace ShootKubeconfig.Controller

open Reconcile

/-- The failures with which a removal is given up. -/
def removalAttempts : Nat := 5

structure Removal where
  failures : Nat := 0
  deriving DecidableEq, Repr

namespace Removal

/-- The pause before the next attempt, or none after the last one. -/
def next (settings : ShootSettings) (removal : Removal) : Result → Removal × Option Delay
  | .ok .admissionDenied => (removal, some (admissionRetry settings))
  | .ok _ => (removal, none)
  | .error _ =>
      let removal := { removal with failures := removal.failures + 1 }
      (removal,
        if removal.failures < removalAttempts then some (.exactly transientRetry) else none)

/-- What is left of the attempts on a key after some results. -/
structure Course where
  removal : Removal
  metrics : Metrics
  /-- The pauses between the attempts. -/
  pauses : List Delay := []
  /-- The last result, if there is no further attempt. -/
  final? : Option Result := none
  /-- The results that no attempt has asked for. -/
  unread : List Result := []

/-- The attempts on a key, where each takes the next of the results. -/
def follow (settings : ShootSettings) (key : Key) :
    Removal → Metrics → List Result → Course
  | removal, metrics, [] => { removal, metrics }
  | removal, metrics, result :: rest =>
      let metrics := metrics.recordResult key result
      match removal.next settings result with
      | (removal, none) => { removal, metrics, final? := some result, unread := rest }
      | (removal, some pause) =>
          let course := follow settings key removal metrics rest
          { course with pauses := pause :: course.pauses }

end Removal

end ShootKubeconfig.Controller
