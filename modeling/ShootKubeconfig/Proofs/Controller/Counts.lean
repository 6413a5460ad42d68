import ShootKubeconfig.Controller.Records

namespace ShootKubeconfig

namespace Reconcile

def failsAs (label : String) : Result → Bool
  | .ok _ => false
  | .error failure => failure.label == label

def isDeferredFor (reason : String) : Result → Bool
  | .ok outcome => outcome.deferral? == some reason
  | .error _ => false

end Reconcile

namespace Metrics

open Reconcile

def isInSeries (series : FailureSeries) (result : Key × Result) : Bool :=
  decide (Shoot.kind = series.kind ∧ result.1.path = series.instanceName) &&
    failsAs series.label result.2

/-- Some results of keys, each counted once, are what has been added to the counts. -/
structure Counted (before after : Metrics) (results : List (Key × Result)) : Prop where
  failures : ∀ series, after.failures.count series =
    before.failures.count series + results.countP (isInSeries series)
  deferrals : ∀ reason, after.deferrals.count reason =
    before.deferrals.count reason + results.countP fun result => isDeferredFor reason result.2

section Counted

variable {before after : Metrics} {results : List (Key × Result)}

private theorem count_failures_recordResult (metrics : Metrics) (key : Key) (result : Result)
    (series : FailureSeries) :
    (metrics.recordResult key result).failures.count series =
      metrics.failures.count series + if isInSeries series (key, result) then 1 else 0 := by
  cases result with
  | ok outcome => simp [isInSeries, failsAs]
  | error failure =>
      obtain ⟨kind, instanceName, label⟩ := series
      simp [shootFailures, isInSeries, failsAs, and_assoc]

private theorem count_deferrals_recordResult (metrics : Metrics) (key : Key) (result : Result)
    (reason : String) :
    (metrics.recordResult key result).deferrals.count reason =
      metrics.deferrals.count reason + if isDeferredFor reason result then 1 else 0 := by
  cases result with
  | error failure => simp [isDeferredFor]
  | ok outcome =>
      simp only [recordResult, isDeferredFor]
      split
      next other deferred => simp [recordDeferral, deferred]
      next none => simp [none]

theorem counted_nil (metrics : Metrics) : metrics.Counted metrics [] where
  failures := by simp
  deferrals := by simp

theorem counted_recordResult (metrics : Metrics) (key : Key) (result : Result) :
    metrics.Counted (metrics.recordResult key result) [(key, result)] where
  failures := by
    intro series
    rw [count_failures_recordResult, List.countP_singleton]
  deferrals := by
    intro reason
    rw [count_deferrals_recordResult, List.countP_singleton]

theorem Counted.trans {between : Metrics} {further : List (Key × Result)}
    (first : before.Counted between results) (second : between.Counted after further) :
    before.Counted after (results ++ further) where
  failures := by
    intro series
    rw [second.failures, first.failures, List.countP_append, Nat.add_assoc]
  deferrals := by
    intro reason
    rw [second.deferrals, first.deferrals, List.countP_append, Nat.add_assoc]

end Counted

end Metrics

end ShootKubeconfig
