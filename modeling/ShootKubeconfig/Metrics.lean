import ShootKubeconfig.Failure
import ShootKubeconfig.Json.Writer

namespace ShootKubeconfig

structure Tally (α : Type) where
  entries : List (α × Nat) := []
  deriving DecidableEq

namespace Tally

def countIn [DecidableEq α] (thing : α) : List (α × Nat) → Nat
  | [] => 0
  | (other, count) :: rest => if other = thing then count else countIn thing rest

def incrementIn [DecidableEq α] (thing : α) : List (α × Nat) → List (α × Nat)
  | [] => [(thing, 1)]
  | (other, count) :: rest =>
      if other = thing then (other, count + 1) :: rest
      else (other, count) :: incrementIn thing rest

def count [DecidableEq α] (tally : Tally α) (thing : α) : Nat :=
  countIn thing tally.entries

def increment [DecidableEq α] (tally : Tally α) (thing : α) : Tally α :=
  ⟨incrementIn thing tally.entries⟩

/-- What has been counted more often than in an earlier tally. -/
def grownSince [DecidableEq α] (tally earlier : Tally α) : List α :=
  (tally.entries.filter fun entry => earlier.count entry.1 < entry.2).map (·.1)

private theorem countIn_incrementIn [DecidableEq α] (thing asked : α) (entries : List (α × Nat)) :
    countIn asked (incrementIn thing entries) =
      countIn asked entries + if thing = asked then 1 else 0 := by
  induction entries with
  | nil => simp [incrementIn, countIn]
  | cons head rest ih =>
      obtain ⟨other, count⟩ := head
      by_cases h : other = thing
      · by_cases h' : thing = asked <;> simp [incrementIn, countIn, h, h']
      · by_cases h' : other = asked
        · subst h'
          have h' : ¬thing = other := fun e => h e.symm
          simp [incrementIn, countIn, h, h']
        · simp [incrementIn, countIn, h, h', ih]

@[simp] theorem count_increment [DecidableEq α] (tally : Tally α) (thing asked : α) :
    (tally.increment thing).count asked =
      tally.count asked + if thing = asked then 1 else 0 :=
  countIn_incrementIn thing asked tally.entries

@[simp] theorem count_empty [DecidableEq α] (thing : α) :
    (({} : Tally α).count thing) = 0 := rfl

end Tally

structure FailureSeries where
  kind : String
  instanceName : String
  label : String
  deriving DecidableEq, Repr

structure Metrics where
  reconciliations : Nat := 0
  /-- The durations that were measured, by kind. -/
  durations : Tally String := {}
  failures : Tally FailureSeries := {}
  /-- The postponed reconciles, by reason. -/
  deferrals : Tally String := {}

namespace Metrics

def recordStart (metrics : Metrics) : Metrics :=
  { metrics with reconciliations := metrics.reconciliations + 1 }

def recordDuration (metrics : Metrics) (kind : String) : Metrics :=
  { metrics with durations := metrics.durations.increment kind }

def instanceName (metadata : Metadata) : String :=
  metadata.inNamespace?.getD "" ++ "/" ++ metadata.anyName

def recordFailure (metrics : Metrics) (kind : String) (metadata : Metadata)
    (failure : Failure) : Metrics :=
  { metrics with
    failures := metrics.failures.increment ⟨kind, instanceName metadata, failure.label⟩ }

def recordDeferral (metrics : Metrics) (reason : String) : Metrics :=
  { metrics with deferrals := metrics.deferrals.increment reason }

/-- Where the durations are told apart, in seconds. -/
def durationBounds : List String :=
  ["0.01", "0.1", "0.25", "0.5", "1", "5", "15", "60"]

def labels (fields : List (String × String)) : Json :=
  .ofFields (fields.map fun field => (field.1, .text field.2))

def counterSample (fields : List (String × String)) (count : Nat) : Json :=
  .ofFields [("labels", labels fields), ("value", .integer count)]

def histogramSample (fields : List (String × String)) (count : Nat) : Json :=
  .ofFields [
    ("labels", labels fields),
    ("count", .integer count),
    ("bounds", .list (durationBounds.map .text))]

/-- Samples stand in the order of their text. -/
def family (name help type : String) (samples : List Json) : Option Json :=
  if samples.isEmpty then none
  else
    some (.ofFields [
      ("name", .text name),
      ("help", .text help),
      ("type", .text type),
      ("samples",
        .list (samples.mergeSort fun first second => !(second.write < first.write)))])

/-- The families that have samples, in the order of their names. -/
def exposition (metrics : Metrics) : Json :=
  .list <| [
    family "kubeconfig_operator_reconcile_deferrals_total"
      "reconciles that were postponed without an error" "COUNTER"
      (metrics.deferrals.entries.map fun (reason, count) =>
        counterSample [("reason", reason)] count),
    family "kubeconfig_operator_reconcile_duration_seconds"
      "The duration of reconcile to complete in seconds" "HISTOGRAM"
      (metrics.durations.entries.map fun (kind, count) =>
        histogramSample [("kind", kind)] count),
    family "kubeconfig_operator_reconciliation_errors_total" "reconciliation errors" "COUNTER"
      (metrics.failures.entries.map fun (series, count) =>
        counterSample
          [("error", series.label), ("instance", series.instanceName), ("kind", series.kind)]
          count),
    family "kubeconfig_operator_reconciliations_total" "reconciliations" "COUNTER"
      [counterSample [] metrics.reconciliations]].filterMap id

end Metrics

end ShootKubeconfig
