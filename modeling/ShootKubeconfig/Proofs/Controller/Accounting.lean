import Mathlib.Data.List.Forall2
import ShootKubeconfig.Cluster.Change
import ShootKubeconfig.Controller.Invocation
import ShootKubeconfig.Proofs.Controller.Counts
import ShootKubeconfig.Reconcile.Shoot

/-!
What is counted and told about whole runs of reconciles.

Every reconcile is counted and measured once, its failure or what it postpones is counted once, and
its owner is warned once if other inputs are needed. Whether a warning can be published changes
none of that.
-/

namespace ShootKubeconfig

theorem Key.eq_of_path_eq {first second : Key} (plain : '/' ∉ first.namespaceName.toList)
    (plain' : '/' ∉ second.namespaceName.toList) (same : first.path = second.path) :
    first = second := by
  have upTo : ∀ {before after : List Char}, '/' ∉ before →
      (before ++ '/' :: after).takeWhile (· != '/') = before := by
    intro before after free
    rw [List.takeWhile_append_of_pos, List.takeWhile_cons_of_neg (by simp), List.append_nil]
    intro char member
    rw [bne_iff_ne]
    rintro rfl
    exact free member
  have split : first.namespaceName.toList ++ '/' :: first.name.toList =
      second.namespaceName.toList ++ '/' :: second.name.toList := by
    simpa [path] using congrArg String.toList same
  have namespaces : first.namespaceName = second.namespaceName := by
    rw [← String.toList_inj, ← upTo plain, split, upTo plain']
  have names : first.name = second.name := by
    rw [namespaces] at split
    exact String.toList_inj.mp (List.cons.inj (List.append_cancel_left split)).2
  cases first
  cases second
  exact congr (congrArg mk namespaces) names

namespace Controller

open Reconcile

def isInvalid : Result → Bool
  | .ok _ => false
  | .error failure => failure.failureClass == .validation

/-- A warning words the failure of the shoot that it is about. -/
def Words (told : Shoot × Result) (warning : Warning) : Prop :=
  warning.regarding = .ofMetadata told.1.metadata ∧
    ∃ failure, told.2 = .error failure ∧ warning.note = failure.message?

def warningsOf (told : List (Shoot × Result)) : List Warning :=
  told.filterMap fun told => Warning.ofResult? told.1.metadata told.2

/-- What some results of shoots have added to the records. -/
structure Accounted (before after : Records) (told : List (Shoot × Result)) : Prop where
  reconciliations : after.metrics.reconciliations = before.metrics.reconciliations + told.length
  durations : ∀ kind, after.metrics.durations.count kind =
    before.metrics.durations.count kind + if Shoot.kind = kind then told.length else 0
  counted : before.metrics.Counted after.metrics
    (told.map fun told => (told.1.metadata.key, told.2))
  warned : after.warnings = (warningsOf told).reverse ++ before.warnings

/-- Services that keep every warning they are asked to publish, the latest first. -/
def Services.logged (services : Services σ) : Services (σ × List Warning) where
  reconcile key state :=
    let (result, after) := services.reconcile key state.1
    (result, after, state.2)
  publish warning state :=
    let (published, after) := services.publish warning state.1
    (published, after, warning :: state.2)

/-- Whether warnings can be published as before or otherwise makes no difference to reconciles that
start from states that are alike. -/
structure Services.Unnoticed (services : Services σ) (publish : Warning → σ → Bool × σ)
    (alike : σ → σ → Prop) : Prop where
  reconcile : ∀ key state other, alike state other →
    (services.reconcile key state).1 = (services.reconcile key other).1 ∧
      alike (services.reconcile key state).2 (services.reconcile key other).2
  publish : ∀ warning state other, alike state other →
    alike (services.publish warning state).2 (publish warning other).2

section Warnings

private theorem warningsOf_append (told further : List (Shoot × Result)) :
    warningsOf (told ++ further) = warningsOf told ++ warningsOf further :=
  List.filterMap_append

private theorem reverse_warningsOf_cons (first : Shoot × Result) (told : List (Shoot × Result)) :
    (warningsOf (first :: told)).reverse =
      (warningsOf told).reverse ++ (warningsOf [first]).reverse := by
  rw [← List.reverse_append, ← warningsOf_append, List.singleton_append]

theorem words_warningsOf (told : List (Shoot × Result)) :
    List.Forall₂ Words (told.filter fun told => isInvalid told.2) (warningsOf told) := by
  induction told with
  | nil => exact .nil
  | cons head rest ih =>
      obtain ⟨shoot, result⟩ := head
      cases result with
      | ok outcome => exact ih
      | error failure =>
          cases failureClass : failure.failureClass with
          | transient =>
              simpa [isInvalid, warningsOf, Warning.ofResult?, failureClass] using ih
          | validation =>
              have worded : Words (shoot, .error failure)
                  ⟨.ofMetadata shoot.metadata, failure.message?⟩ := ⟨rfl, failure, rfl, rfl⟩
              simpa [isInvalid, warningsOf, Warning.ofResult?, failureClass] using
                List.Forall₂.cons worded ih

end Warnings

section Accounted

variable {before between after : Records} {told further : List (Shoot × Result)} {shoot : Shoot}
  {σ : Type}

theorem accounted_nil (records : Records) : Accounted records records [] where
  reconciliations := rfl
  durations := by simp
  counted := Metrics.counted_nil _
  warned := rfl

theorem Accounted.trans (first : Accounted before between told)
    (second : Accounted between after further) : Accounted before after (told ++ further) where
  reconciliations := by
    rw [second.reconciliations, first.reconciliations, List.length_append, Nat.add_assoc]
  durations := by
    intro kind
    rw [second.durations, first.durations, List.length_append]
    split <;> omega
  counted := by
    rw [List.map_append]
    exact first.counted.trans second.counted
  warned := by
    rw [second.warned, first.warned, warningsOf_append, List.reverse_append, List.append_assoc]

theorem Accounted.failures (accounted : Accounted before after told) (path label : String) :
    after.metrics.failures.count ⟨"Shoot", path, label⟩ =
      before.metrics.failures.count ⟨"Shoot", path, label⟩ +
        told.countP fun told => told.1.metadata.key.path == path && failsAs label told.2 := by
  rw [accounted.counted.failures, List.countP_map]
  refine congrArg _ (List.countP_congr fun told _ => ?_)
  simp [Metrics.isInSeries, Shoot.kind]

/-- As long as namespaces are what they should be, a series is about one key. -/
theorem Accounted.failures_of_plain (accounted : Accounted before after told)
    (plain : ∀ told' ∈ told, '/' ∉ told'.1.metadata.key.namespaceName.toList) {key : Key}
    (keyPlain : '/' ∉ key.namespaceName.toList) (label : String) :
    after.metrics.failures.count ⟨"Shoot", key.path, label⟩ =
      before.metrics.failures.count ⟨"Shoot", key.path, label⟩ +
        told.countP fun told => told.1.metadata.key == key && failsAs label told.2 := by
  rw [accounted.failures]
  refine congrArg _ (List.countP_congr fun told' member => ?_)
  have sameKey : told'.1.metadata.key.path = key.path ↔ told'.1.metadata.key = key :=
    ⟨Key.eq_of_path_eq (plain told' member) keyPlain, congrArg Key.path⟩
  simp [sameKey]

theorem Accounted.deferrals (accounted : Accounted before after told) (reason : String) :
    after.metrics.deferrals.count reason =
      before.metrics.deferrals.count reason +
        told.countP fun told => isDeferredFor reason told.2 := by
  rw [accounted.counted.deferrals, List.countP_map]
  rfl

private theorem records_tell (services : Services σ) (shoot : Shoot) (result : Result) (state : σ)
    (records : Records) :
    (tell services shoot result state records).2 =
      { records with
        warnings := (warningsOf [(shoot, result)]).reverse ++ records.warnings } := by
  unfold tell warningsOf
  cases worth : Warning.ofResult? shoot.metadata result <;> simp [worth, Records.warn]

private theorem reconcile_logged (services : Services σ) (key : Key) (state : σ) (log : List Warning) :
    services.logged.reconcile key (state, log) =
      ((services.reconcile key state).1, (services.reconcile key state).2, log) := rfl

private theorem tell_logged (services : Services σ) (shoot : Shoot) (result : Result) (state : σ)
    (log : List Warning) (records : Records) :
    tell services.logged shoot result (state, log) records =
      let told := tell services shoot result state records
      ((told.1, (warningsOf [(shoot, result)]).reverse ++ log), told.2) := by
  unfold tell warningsOf
  cases worth : Warning.ofResult? shoot.metadata result <;> simp [worth, Services.logged]

theorem invoke_of_namespaced (services : Services σ)
    (namespaced : shoot.metadata.inNamespace?.isSome = true) (state : σ) (records : Records) :
    invoke services shoot state records =
      let reconciled := services.reconcile shoot.metadata.key state
      let told := tell services shoot reconciled.1 reconciled.2 records.start
      (reconciled.1, told.1, told.2.finish shoot.metadata.key reconciled.1) := by
  obtain ⟨namespaceName, named⟩ := Option.isSome_iff_exists.mp namespaced
  simp only [invoke, named]

/-- Between its start and its end a reconcile is counted and told about once. -/
theorem accounted_invoke (services : Services σ)
    (namespaced : shoot.metadata.inNamespace?.isSome = true) (state : σ) (records : Records) :
    Accounted records (invoke services shoot state records).2.2
      [(shoot, (invoke services shoot state records).1)] := by
  rw [invoke_of_namespaced services namespaced]
  dsimp only
  rw [records_tell]
  have counted := Metrics.counted_recordResult records.metrics.recordStart shoot.metadata.key
    (services.reconcile shoot.metadata.key state).1
  constructor
  case reconciliations =>
    exact Metrics.reconciliations_recordResult _ _ _
  case durations =>
    intro kind
    simp [Records.finish, Records.measure, Records.count, Records.start, Metrics.recordDuration,
      Metrics.recordStart]
  case counted => exact ⟨counted.failures, counted.deferrals⟩
  case warned => rfl

private theorem invoke_logged (services : Services σ)
    (namespaced : shoot.metadata.inNamespace?.isSome = true) (state : σ) (log : List Warning)
    (records : Records) :
    invoke services.logged shoot (state, log) records =
      let ran := invoke services shoot state records
      (ran.1, (ran.2.1, (warningsOf [(shoot, ran.1)]).reverse ++ log), ran.2.2) := by
  rw [invoke_of_namespaced services namespaced, invoke_of_namespaced services.logged namespaced]
  dsimp only [reconcile_logged]
  rw [tell_logged]

theorem accounted_invokeAll (services : Services σ) {shoots : List Shoot}
    (namespaced : ∀ shoot ∈ shoots, shoot.metadata.inNamespace?.isSome = true) (state : σ)
    (records : Records) :
    (invokeAll services shoots state records).1.length = shoots.length ∧
      Accounted records (invokeAll services shoots state records).2.2
        (shoots.zip (invokeAll services shoots state records).1) := by
  induction shoots generalizing state records with
  | nil => exact ⟨rfl, accounted_nil records⟩
  | cons shoot rest ih =>
      obtain ⟨first, others⟩ := List.forall_mem_cons.mp namespaced
      obtain ⟨length, accounted⟩ := ih others (invoke services shoot state records).2.1
        (invoke services shoot state records).2.2
      exact ⟨congrArg Nat.succ length, (accounted_invoke services first state records).trans accounted⟩

private theorem invokeAll_logged (services : Services σ) {shoots : List Shoot}
    (namespaced : ∀ shoot ∈ shoots, shoot.metadata.inNamespace?.isSome = true) (state : σ)
    (log : List Warning) (records : Records) :
    invokeAll services.logged shoots (state, log) records =
      let ran := invokeAll services shoots state records
      (ran.1, (ran.2.1, (warningsOf (shoots.zip ran.1)).reverse ++ log), ran.2.2) := by
  induction shoots generalizing state log records with
  | nil => rfl
  | cons shoot rest ih =>
      obtain ⟨first, others⟩ := List.forall_mem_cons.mp namespaced
      simp only [invokeAll, invoke_logged services first, ih others, List.zip_cons_cons]
      rw [← List.append_assoc, ← reverse_warningsOf_cons]

end Accounted

section Unnoticed

variable {σ : Type} {services : Services σ} {publish : Warning → σ → Bool × σ}
  {alike : σ → σ → Prop}

/-- Only what comes later can tell whether a warning has been published. -/
theorem invoke_publish (services : Services σ) (publish : Warning → σ → Bool × σ)
    (shoot : Shoot) (state : σ) (records : Records) :
    (invoke { services with publish } shoot state records).1 =
        (invoke services shoot state records).1 ∧
      (invoke { services with publish } shoot state records).2.2 =
        (invoke services shoot state records).2.2 := by
  unfold invoke
  cases shoot.metadata.inNamespace? with
  | none => exact ⟨rfl, rfl⟩
  | some namespaceName =>
      refine ⟨rfl, ?_⟩
      dsimp only
      rw [records_tell, records_tell]

theorem Services.Unnoticed.tell (unnoticed : services.Unnoticed publish alike) (shoot : Shoot)
    (result : Result) {state other : σ} (same : alike state other) (records : Records) :
    alike (Controller.tell services shoot result state records).1
      (Controller.tell { services with publish } shoot result other records).1 := by
  unfold Controller.tell
  cases Warning.ofResult? shoot.metadata result with
  | none => exact same
  | some warning => exact unnoticed.publish warning state other same

theorem Services.Unnoticed.invoke (unnoticed : services.Unnoticed publish alike) (shoot : Shoot)
    {state other : σ} (same : alike state other) (records : Records) :
    ∃ final, Controller.invoke { services with publish } shoot other records =
        ((Controller.invoke services shoot state records).1, final,
          (Controller.invoke services shoot state records).2.2) ∧
      alike (Controller.invoke services shoot state records).2.1 final := by
  unfold Controller.invoke
  cases shoot.metadata.inNamespace? with
  | none => exact ⟨other, rfl, same⟩
  | some namespaceName =>
      obtain ⟨result, alikeAfter⟩ := unnoticed.reconcile shoot.metadata.key state other same
      refine ⟨_, Prod.ext result.symm (Prod.ext rfl ?_), ?_⟩
      · dsimp only
        rw [records_tell, records_tell, result]
      · dsimp only
        rw [← result]
        exact unnoticed.tell shoot _ alikeAfter _

theorem Services.Unnoticed.invokeAll (unnoticed : services.Unnoticed publish alike)
    (shoots : List Shoot) {state other : σ} (same : alike state other) (records : Records) :
    ∃ final, Controller.invokeAll { services with publish } shoots other records =
        ((Controller.invokeAll services shoots state records).1, final,
          (Controller.invokeAll services shoots state records).2.2) ∧
      alike (Controller.invokeAll services shoots state records).2.1 final := by
  induction shoots generalizing state other records with
  | nil => exact ⟨other, rfl, same⟩
  | cons shoot rest ih =>
      obtain ⟨between, first, alikeBetween⟩ := unnoticed.invoke shoot same records
      obtain ⟨final, others, alikeAfter⟩ :=
        ih alikeBetween (Controller.invoke services shoot state records).2.2
      refine ⟨final, ?_, alikeAfter⟩
      simp only [Controller.invokeAll, first, others]

end Unnoticed

/-- However reconciles of namespaced shoots come out, each of them is counted and measured once,
each failure is counted once under the label and the shoot that it has, and each reconcile that
postpones something once under its reason. There is one warning for each failure that needs other
inputs, and there are no others. Whether warnings can be published decides neither what becomes of
a reconcile nor what is counted. -/
theorem invocations_accounted {σ : Type} (services : Services σ) {shoots : List Shoot}
    (namespaced : ∀ shoot ∈ shoots, shoot.metadata.inNamespace?.isSome = true) (state : σ)
    (records : Records) :
    ∃ results final after published,
      invokeAll services shoots state records = (results, final, after) ∧
      results.length = shoots.length ∧
      after.metrics.reconciliations = records.metrics.reconciliations + shoots.length ∧
      after.metrics.durations.count "Shoot" =
        records.metrics.durations.count "Shoot" + shoots.length ∧
      (∀ path label, after.metrics.failures.count ⟨"Shoot", path, label⟩ =
        records.metrics.failures.count ⟨"Shoot", path, label⟩ +
          (shoots.zip results).countP fun told =>
            told.1.metadata.key.path == path && failsAs label told.2) ∧
      ((∀ shoot ∈ shoots, '/' ∉ shoot.metadata.key.namespaceName.toList) →
        ∀ key label, '/' ∉ key.namespaceName.toList →
          after.metrics.failures.count ⟨"Shoot", key.path, label⟩ =
            records.metrics.failures.count ⟨"Shoot", key.path, label⟩ +
              (shoots.zip results).countP fun told =>
                told.1.metadata.key == key && failsAs label told.2) ∧
      (∀ reason, after.metrics.deferrals.count reason =
        records.metrics.deferrals.count reason +
          (shoots.zip results).countP fun told => isDeferredFor reason told.2) ∧
      List.Forall₂ Words ((shoots.zip results).filter fun told => isInvalid told.2) published ∧
      after.warnings = published.reverse ++ records.warnings ∧
      (∀ log, invokeAll services.logged shoots (state, log) records =
        (results, (final, published.reverse ++ log), after)) ∧
      (∀ publish shoot state records,
        (invoke { services with publish } shoot state records).1 =
            (invoke services shoot state records).1 ∧
          (invoke { services with publish } shoot state records).2.2 =
            (invoke services shoot state records).2.2) ∧
      ∀ publish alike, services.Unnoticed publish alike → ∀ other, alike state other →
        ∃ otherFinal, invokeAll { services with publish } shoots other records =
          (results, otherFinal, after) := by
  obtain ⟨length, accounted⟩ := accounted_invokeAll services namespaced state records
  have together : (shoots.zip (invokeAll services shoots state records).1).length =
      shoots.length := by
    rw [List.length_zip, length, Nat.min_self]
  refine ⟨_, _, _, warningsOf (shoots.zip (invokeAll services shoots state records).1), rfl,
    length, ?_, ?_, accounted.failures, ?_, accounted.deferrals, words_warningsOf _,
    accounted.warned, fun log => invokeAll_logged services namespaced state log records,
    invoke_publish services, ?_⟩
  · rw [accounted.reconciliations, together]
  · rw [accounted.durations, if_pos (show Shoot.kind = "Shoot" from rfl), together]
  · intro plain key label keyPlain
    refine accounted.failures_of_plain ?_ keyPlain label
    intro told member
    exact plain told.1 (List.of_mem_zip member).1
  · intro publish alike unnoticed other same
    obtain ⟨otherFinal, ran, _⟩ := unnoticed.invokeAll shoots same records
    exact ⟨otherFinal, ran⟩

namespace Sample

def shoot : Shoot where
  metadata := { name := some "foo", inNamespace? := some "garden-dev" }
  kubernetesVersion := "1.27.3"
  status := some { advertisedAddresses := [⟨"external", "https://api.foo.example"⟩] }

def emptyState : ShootState where
  metadata := { name := some "foo", inNamespace? := some "garden-dev" }
  generated := [⟨"ca", "certificate", .null⟩]

def youngShoot : Shoot where
  metadata := { name := some "bar", inNamespace? := some "garden-dev" }
  kubernetesVersion := "1.27.3"

def youngState : ShootState where
  metadata := { name := some "bar", inNamespace? := some "garden-dev" }

def garden : Cluster.Memory :=
  (((({} : Cluster.Memory).put (.shoot shoot)).put (.shootState emptyState)).put
    (.shoot youngShoot)).put (.shootState youngState)

def services : Services Cluster.Memory where
  reconcile key memory := (attempt { limit := 1 } 4096 key).run Cluster.Memory.answer memory
  publish _ memory := (true, memory)

def publishNothing (_ : Warning) (memory : Cluster.Memory) : Bool × Cluster.Memory :=
  (false, memory)

private theorem unnoticed_publishNothing : services.Unnoticed publishNothing (· = ·) where
  reconcile := by
    rintro key state _ rfl
    exact ⟨rfl, rfl⟩
  publish := by
    rintro warning state _ rfl
    rfl

def malformed : Failure :=
  .trustAnchor (.malformed "failed to unmarshal certificate authority from raw data")

private theorem results_services :
    (invokeAll services [shoot, youngShoot, shoot] garden {}).1 =
      [.error malformed, .ok .noEndpoints, .error malformed] := by
  rfl

end Sample

theorem invocations_accounted_sample :
    ∃ results final after, ∃ published : List Warning,
      invokeAll Sample.services [Sample.shoot, Sample.youngShoot, Sample.shoot] Sample.garden {} =
        (results, final, after) ∧
      after.metrics.reconciliations = 3 ∧
      after.metrics.failures.count ⟨"Shoot", "garden-dev/foo", "InvalidTrustAnchor"⟩ = 2 ∧
      after.metrics.failures.count ⟨"Shoot", "garden-dev/bar", "InvalidTrustAnchor"⟩ = 0 ∧
      after.metrics.deferrals.count "NoEndpoints" = 1 ∧
      published.length = 2 ∧ after.warnings = published.reverse ∧
      ∃ otherFinal, invokeAll { Sample.services with publish := Sample.publishNothing }
        [Sample.shoot, Sample.youngShoot, Sample.shoot] Sample.garden {} =
          (results, otherFinal, after) := by
  have namespaced : ∀ shoot ∈ [Sample.shoot, Sample.youngShoot, Sample.shoot],
      shoot.metadata.inNamespace?.isSome = true := by
    decide
  obtain ⟨results, final, after, published, ran, _, reconciliations, _, _, failures, deferrals,
    worded, warned, _, _, unnoticed⟩ :=
    invocations_accounted Sample.services namespaced Sample.garden {}
  have came : results = [.error Sample.malformed, .ok .noEndpoints, .error Sample.malformed] := by
    rw [← Sample.results_services, ran]
  subst came
  have plain : ∀ shoot ∈ [Sample.shoot, Sample.youngShoot, Sample.shoot],
      '/' ∉ shoot.metadata.key.namespaceName.toList := by
    decide
  refine ⟨_, final, after, published, ran, reconciliations, ?_, ?_, ?_, ?_, ?_, ?_⟩
  · exact failures plain Sample.shoot.metadata.key "InvalidTrustAnchor" (by decide)
  · exact failures plain Sample.youngShoot.metadata.key "InvalidTrustAnchor" (by decide)
  · exact deferrals "NoEndpoints"
  · exact worded.length_eq.symm
  · rw [warned]
    exact List.append_nil _
  · exact unnoticed Sample.publishNothing (· = ·) Sample.unnoticed_publishNothing Sample.garden rfl

end Controller

end ShootKubeconfig
