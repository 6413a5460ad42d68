import Mathlib.Data.List.Forall2
import ShootKubeconfig.Controller.Removal
import ShootKubeconfig.Proofs.Controller.Counts

namespace ShootKubeconfig

namespace Metrics

open Reconcile

def recordAll (metrics : Metrics) (key : Key) (results : List Result) : Metrics :=
  results.foldl (·.recordResult key) metrics

theorem counted_recordAll (metrics : Metrics) (key : Key) (results : List Result) :
    metrics.Counted (metrics.recordAll key results) (results.map fun result => (key, result)) := by
  induction results generalizing metrics with
  | nil => exact counted_nil metrics
  | cons result rest ih => exact (counted_recordResult metrics key result).trans (ih _)

private theorem reconciliations_recordAll (metrics : Metrics) (key : Key) (results : List Result) :
    (metrics.recordAll key results).reconciliations = metrics.reconciliations := by
  induction results generalizing metrics with
  | nil => rfl
  | cons result rest ih => exact (ih _).trans (reconciliations_recordResult _ _ _)

private theorem durations_recordAll (metrics : Metrics) (key : Key) (results : List Result) :
    (metrics.recordAll key results).durations = metrics.durations := by
  induction results generalizing metrics with
  | nil => rfl
  | cons result rest ih => exact (ih _).trans (durations_recordResult _ _ _)

end Metrics

namespace Controller

open Reconcile

namespace Removal

def isDenial : Result → Bool
  | .ok outcome => outcome == .admissionDenied
  | .error _ => false

def isFailure : Result → Bool
  | .ok _ => false
  | .error _ => true

/-- After these earlier results a result is the last one. -/
def Ends (earlier : List Result) : Result → Prop
  | .ok outcome => outcome ≠ .admissionDenied
  | .error _ => earlier.countP isFailure + 1 = 5

instance (earlier : List Result) : (result : Result) → Decidable (Ends earlier result)
  | .ok outcome => inferInstanceAs (Decidable (outcome ≠ .admissionDenied))
  | .error _ => inferInstanceAs (Decidable (earlier.countP isFailure + 1 = 5))

def GoesOn (earlier results : List Result) : Prop :=
  ∀ before result after, results = before ++ result :: after → ¬Ends (earlier ++ before) result

/-- Of some results this is the first to end the attempts. -/
structure EndsFirst (results front : List Result) (last : Result) (back : List Result) :
    Prop where
  split : results = front ++ last :: back
  ends : Ends front last
  first : ∀ before result after, front = before ++ result :: after → ¬Ends before result

def pauseAfter (settings : ShootSettings) : Result → Delay
  | .ok _ => admissionRetry settings
  | .error _ => .exactly transientRetry

/-- The times that may pass between a result and the next attempt. -/
def IsPause (settings : ShootSettings) (waited : Span) : Result → Prop
  | .ok _ =>
      if settings.admissionRetryMin ≤ settings.admissionRetryMax then
        settings.admissionRetryMin ≤ waited ∧ waited ≤ settings.admissionRetryMax
      else waited = settings.admissionRetryMin
  | .error _ => waited = .ofSeconds 30

def after (results : List Result) : Removal :=
  ⟨results.countP isFailure⟩

section GoesOn

variable {earlier results rest : List Result} {result : Result}

private theorem goesOn_nil (earlier : List Result) : GoesOn earlier [] := by
  intro before result after split
  cases before <;> cases split

private theorem goesOn_cons_iff :
    GoesOn earlier (result :: rest) ↔ ¬Ends earlier result ∧ GoesOn (earlier ++ [result]) rest := by
  constructor
  · intro goesOn
    constructor
    · simpa using goesOn [] result rest rfl
    · intro before next after split
      rw [List.append_assoc]
      exact goesOn (result :: before) next after (by rw [split]; rfl)
  · rintro ⟨further, goesOn⟩ before next after split
    cases before with
    | nil =>
        cases split
        simpa using further
    | cons first before =>
        obtain ⟨rfl, splitRest⟩ := List.cons.inj split
        simpa using goesOn before next after splitRest

/-- What does not end the attempts is a denial, or a failure before the last. -/
private theorem denial_or_failure_of_not_ends (further : ¬Ends earlier result) :
    (isDenial result = true ∧ isFailure result = false) ∨
      (isDenial result = false ∧ isFailure result = true ∧
        earlier.countP isFailure + 1 ≠ 5) := by
  cases result with
  | ok outcome =>
      have denied : outcome = .admissionDenied := Decidable.not_not.mp further
      exact .inl ⟨by rw [denied]; rfl, rfl⟩
  | error failure => exact .inr ⟨rfl, rfl, further⟩

theorem GoesOn.few (goesOn : GoesOn earlier results) (few : earlier.countP isFailure < 5) :
    (earlier ++ results).countP isFailure < 5 := by
  induction results generalizing earlier with
  | nil => simpa using few
  | cons result rest ih =>
      obtain ⟨further, goesOn⟩ := goesOn_cons_iff.mp goesOn
      have fewNext : (earlier ++ [result]).countP isFailure < 5 := by
        rw [List.countP_append, List.countP_singleton]
        rcases denial_or_failure_of_not_ends further with ⟨_, succeeded⟩ | ⟨_, failed, notLast⟩
        · simpa [succeeded] using few
        · rw [if_pos failed]
          omega
      simpa using ih goesOn fewNext

theorem GoesOn.length (goesOn : GoesOn earlier results) :
    results.length = results.countP isDenial + results.countP isFailure := by
  induction results generalizing earlier with
  | nil => rfl
  | cons result rest ih =>
      obtain ⟨further, goesOn⟩ := goesOn_cons_iff.mp goesOn
      rw [List.length_cons, List.countP_cons, List.countP_cons, ih goesOn]
      rcases denial_or_failure_of_not_ends further with ⟨denied, failed⟩ | ⟨denied, failed, _⟩ <;>
        rw [denied, failed] <;> simp only [if_true, if_false, Bool.false_eq_true] <;> omega

theorem goesOn_or_endsFirst (earlier results : List Result) :
    GoesOn earlier results ∨
      ∃ front last back, results = front ++ last :: back ∧ Ends (earlier ++ front) last ∧
        GoesOn earlier front := by
  induction results generalizing earlier with
  | nil => exact .inl (goesOn_nil earlier)
  | cons result rest ih =>
      by_cases ends : Ends earlier result
      · exact .inr ⟨[], result, rest, rfl, by simpa using ends, goesOn_nil earlier⟩
      · rcases ih (earlier ++ [result]) with goesOn | ⟨front, last, back, rfl, lastEnds, goesOn⟩
        · exact .inl (goesOn_cons_iff.mpr ⟨ends, goesOn⟩)
        · exact .inr ⟨result :: front, last, back, rfl, by simpa using lastEnds,
            goesOn_cons_iff.mpr ⟨ends, goesOn⟩⟩

end GoesOn

section Follow

variable {settings : ShootSettings} {key : Key} {metrics : Metrics}
  {earlier front results back : List Result} {result last : Result}

private theorem next_after (few : earlier.countP isFailure < 5) :
    (after earlier).next settings result =
      (after (earlier ++ [result]),
        if Ends earlier result then none else some (pauseAfter settings result)) := by
  unfold after
  rw [List.countP_append, List.countP_singleton]
  cases result with
  | ok outcome => cases outcome <;> rfl
  | error failure =>
      by_cases ends : Ends earlier (.error failure)
      · have fifth : ¬earlier.countP isFailure + 1 < removalAttempts :=
          Nat.not_lt.mpr (Nat.le_of_eq (Eq.symm ends))
        simp [next, isFailure, ends, fifth]
      · have further : earlier.countP isFailure + 1 < removalAttempts := Nat.lt_of_le_of_ne few ends
        simp [next, isFailure, ends, further, pauseAfter]

/-- Until a result ends the attempts, all of them are had, and paused after. -/
theorem follow_append (few : earlier.countP isFailure < 5) (goesOn : GoesOn earlier front)
    (rest : List Result) :
    follow settings key (after earlier) metrics (front ++ rest) =
      let course := follow settings key (after (earlier ++ front)) (metrics.recordAll key front) rest
      { course with pauses := front.map (pauseAfter settings) ++ course.pauses } := by
  induction front generalizing earlier metrics with
  | nil => simp [Metrics.recordAll]
  | cons result front ih =>
      obtain ⟨further, goesOnNext⟩ := goesOn_cons_iff.mp goesOn
      have fewNext : (earlier ++ [result]).countP isFailure < 5 :=
        (goesOn_cons_iff.mpr ⟨further, goesOn_nil _⟩).few few
      rw [List.cons_append, follow, next_after few, if_neg further]
      dsimp only
      rw [ih fewNext goesOnNext, List.append_assoc]
      rfl

variable (settings key metrics) in
theorem follow_of_goesOn (goesOn : GoesOn [] results) :
    follow settings key {} metrics results =
      { removal := after results, metrics := metrics.recordAll key results,
        pauses := results.map (pauseAfter settings) } := by
  show follow settings key (after []) metrics results = _
  have appended := @follow_append settings key metrics [] results (by decide) goesOn []
  simpa [follow] using appended

variable (settings key metrics) in
theorem follow_of_endsFirst (endsFirst : EndsFirst results front last back) :
    follow settings key {} metrics results =
      { removal := after (front ++ [last]), metrics := metrics.recordAll key (front ++ [last]),
        pauses := front.map (pauseAfter settings), final? := some last, unread := back } := by
  obtain ⟨rfl, ends, first⟩ := endsFirst
  have goesOn : GoesOn [] front := first
  have few : front.countP isFailure < 5 := goesOn.few (by decide)
  show follow settings key (after []) metrics _ = _
  rw [follow_append (by decide) goesOn, List.nil_append, follow, next_after few, if_pos ends]
  simp [Metrics.recordAll]

theorem allows_pauseAfter (settings : ShootSettings) (result : Result) (waited : Span) :
    (pauseAfter settings result).Allows waited ↔ IsPause settings waited result := by
  cases result with
  | ok outcome => exact Delay.allows_jitter_iff
  | error failure => exact Iff.rfl

private theorem forall₂_pauses (settings : ShootSettings) (results : List Result) :
    List.Forall₂ (fun result pause => ∀ waited, pause.Allows waited ↔ IsPause settings waited result)
      results (results.map (pauseAfter settings)) := by
  rw [List.forall₂_map_right_iff, List.forall₂_same]
  intro result _ waited
  exact allows_pauseAfter settings result waited

end Follow

/-- What has come of attempts that this result has ended. -/
structure Ended (settings : ShootSettings) (key : Key) (metrics : Metrics) (front : List Result)
    (last : Result) (back : List Result) (course : Course) : Prop where
  final : course.final? = some last
  unread : course.unread = back
  attempts : front.length + 1 ≤ 5 + front.countP isDenial
  pauses : List.Forall₂
    (fun result pause => ∀ waited, pause.Allows waited ↔ IsPause settings waited result)
    front course.pauses
  failures : ∀ series, course.metrics.failures.count series =
    metrics.failures.count series +
      if Shoot.kind = series.kind ∧ key.path = series.instanceName then
        (front ++ [last]).countP (failsAs series.label)
      else 0
  deferrals : ∀ reason, course.metrics.deferrals.count reason =
    metrics.deferrals.count reason +
      (if reason = "AdmissionDenied" then front.countP isDenial else 0) +
      if isDeferredFor reason last then 1 else 0
  reconciliations : course.metrics.reconciliations = metrics.reconciliations
  durations : course.metrics.durations = metrics.durations

section Ended

variable {key : Key} {front results : List Result}

private theorem countP_isInSeries (key : Key) (results : List Result) (series : FailureSeries) :
    (results.map fun result => (key, result)).countP (Metrics.isInSeries series) =
      if Shoot.kind = series.kind ∧ key.path = series.instanceName then
        results.countP (failsAs series.label)
      else 0 := by
  rw [List.countP_map]
  by_cases ofKey : Shoot.kind = series.kind ∧ key.path = series.instanceName
  · simp [Metrics.isInSeries, Function.comp_def, ofKey]
  · simp [Metrics.isInSeries, Function.comp_def, ofKey]

private theorem isDeferredFor_of_not_ends {earlier : List Result} {result : Result}
    (further : ¬Ends earlier result) (reason : String) :
    isDeferredFor reason result = (decide (reason = "AdmissionDenied") && isDenial result) := by
  cases result with
  | ok outcome =>
      obtain rfl : outcome = .admissionDenied := Decidable.not_not.mp further
      by_cases denied : reason = "AdmissionDenied"
      · simp [isDeferredFor, Outcome.deferral?, isDenial, denied]
      · simp [isDeferredFor, Outcome.deferral?, isDenial, denied, Ne.symm denied]
  | error failure => simp [isDeferredFor, isDenial]

/-- Of the results before the last one only denials are postponed. -/
private theorem GoesOn.countP_isDeferredFor {earlier : List Result} (goesOn : GoesOn earlier front)
    (reason : String) :
    front.countP (isDeferredFor reason) =
      if reason = "AdmissionDenied" then front.countP isDenial else 0 := by
  induction front generalizing earlier with
  | nil => simp
  | cons result rest ih =>
      obtain ⟨further, goesOn⟩ := goesOn_cons_iff.mp goesOn
      rw [List.countP_cons, List.countP_cons, ih goesOn, isDeferredFor_of_not_ends further]
      by_cases denied : reason = "AdmissionDenied" <;> simp [denied]

private theorem ended_of_endsFirst (settings : ShootSettings) (metrics : Metrics) {last : Result}
    {back : List Result} (endsFirst : EndsFirst results front last back) :
    Ended settings key metrics front last back (follow settings key {} metrics results) := by
  rw [follow_of_endsFirst settings key metrics endsFirst]
  have goesOn : GoesOn [] front := endsFirst.first
  have counted := metrics.counted_recordAll key (front ++ [last])
  refine ⟨rfl, rfl, ?_, forall₂_pauses settings front, ?_, ?_,
    metrics.reconciliations_recordAll key _, metrics.durations_recordAll key _⟩
  · have few : front.countP isFailure < 5 := goesOn.few (by decide)
    have length := goesOn.length
    omega
  · intro series
    rw [counted.failures, countP_isInSeries]
  · intro reason
    rw [counted.deferrals, ← goesOn.countP_isDeferredFor, List.countP_map, Nat.add_assoc]
    simp [Function.comp_def]

theorem exists_endsFirst_iff :
    (∃ front last back, EndsFirst results front last back) ↔
      (∃ outcome, .ok outcome ∈ results ∧ outcome ≠ .admissionDenied) ∨
        5 ≤ results.countP isFailure := by
  constructor
  · rintro ⟨front, last, back, rfl, ends, _⟩
    cases last with
    | ok outcome => exact .inl ⟨outcome, by simp, ends⟩
    | error failure =>
        refine .inr ?_
        have fifth : front.countP isFailure + 1 = 5 := ends
        rw [List.countP_append, List.countP_cons_of_pos rfl]
        omega
  · intro occurs
    rcases goesOn_or_endsFirst [] results with goesOn | ⟨front, last, back, split, ends, goesOn⟩
    · exfalso
      rcases occurs with ⟨outcome, member, notDenied⟩ | many
      · obtain ⟨before, after, split⟩ := List.append_of_mem member
        exact goesOn before _ after split notDenied
      · exact Nat.not_lt.mpr many (goesOn.few (by decide))
    · exact ⟨front, last, back, split, ends, goesOn⟩

end Ended

/-- However attempts come out, they end with the first result that is a success and no denial, or
else with the fifth failure, and there is no attempt after that. By then every failure has been
counted under its label, every denial and what the last outcome postpones under its reason, and
nothing else. Attempts go on after a pause for as long as there is no such result. -/
theorem attempts_end_first (settings : ShootSettings) (key : Key) (metrics : Metrics)
    (results : List Result) :
    (∀ front last back, EndsFirst results front last back →
      Ended settings key metrics front last back (follow settings key {} metrics results)) ∧
    ((∃ front last back, EndsFirst results front last back) ↔
      (∃ outcome, .ok outcome ∈ results ∧ outcome ≠ .admissionDenied) ∨
        5 ≤ results.countP isFailure) ∧
    ((∀ front last back, ¬EndsFirst results front last back) →
      (follow settings key {} metrics results).final? = none ∧
        (follow settings key {} metrics results).unread = []) := by
  refine ⟨fun _ _ _ => ended_of_endsFirst settings metrics, exists_endsFirst_iff, ?_⟩
  intro none
  rcases goesOn_or_endsFirst [] results with goesOn | ⟨front, last, back, split, ends, goesOn⟩
  · rw [follow_of_goesOn settings key metrics goesOn]
    exact ⟨rfl, rfl⟩
  · exact absurd ⟨split, ends, goesOn⟩ (none front last back)

namespace Sample

def key : Key := ⟨"garden-dev", "foo"⟩

/-- Four failures, of which denials do not count as one. -/
def setbacks : List Result :=
  [.error .identityTimeout, .ok .admissionDenied, .error (.cluster .broken),
    .error .identityTimeout, .ok .admissionDenied, .error .identityTimeout]

private theorem endsFirst_setbacks :
    EndsFirst (setbacks ++ .error (.cluster .broken) :: [.ok .cleanup]) setbacks
      (.error (.cluster .broken)) [.ok .cleanup] where
  split := rfl
  ends := by decide
  first := by
    have goesOn : GoesOn [] setbacks := by
      unfold setbacks
      simp only [goesOn_cons_iff, goesOn_nil, and_true]
      decide
    exact goesOn

end Sample

theorem attempts_end_first_sample :
    let course := follow {} Sample.key {} {}
      (Sample.setbacks ++ .error (.cluster .broken) :: [.ok .cleanup])
    course.final? = some (.error (.cluster .broken)) ∧ course.unread = [.ok .cleanup] ∧
      course.metrics.failures.count ⟨"Shoot", "garden-dev/foo", "ClusterIdentityTimeout"⟩ = 3 ∧
      course.metrics.failures.count ⟨"Shoot", "garden-dev/foo", "KubeError"⟩ = 2 ∧
      course.metrics.failures.count ⟨"Shoot", "garden-dev/bar", "KubeError"⟩ = 0 ∧
      course.metrics.deferrals.count "AdmissionDenied" = 2 := by
  obtain ⟨ended, _⟩ := attempts_end_first {} Sample.key {}
    (Sample.setbacks ++ .error (.cluster .broken) :: [.ok .cleanup])
  obtain ⟨final, unread, _, _, failures, deferrals, _⟩ :=
    ended _ _ _ Sample.endsFirst_setbacks
  refine ⟨final, unread, ?_, ?_, ?_, ?_⟩
  · rw [failures]
    decide
  · rw [failures]
    decide
  · rw [failures]
    decide
  · rw [deferrals]
    decide

end Removal

end Controller

end ShootKubeconfig
