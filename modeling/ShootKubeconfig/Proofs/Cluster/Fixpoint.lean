import ShootKubeconfig.Cluster.Garden
import ShootKubeconfig.Proofs.Cluster.EndState

/-!
A second reconcile finds nothing to do.

Nothing that has been written to a cluster in memory is taken back: either its version has grown,
or some ConfigMap is gone for good. A run that ends where it began has therefore written nothing,
and a second reconcile is such a run.
-/

namespace ShootKubeconfig.Cluster

open Reconcile

namespace Memory

/-- The version has grown, or it has not and a ConfigMap is gone while none has appeared. -/
inductive Departs (before after : Memory) : Prop
  | grown (grown : before.version < after.version)
  | fewer (same : before.version = after.version)
      (noneAppeared : ∀ key, before.configMaps.get? key = none → after.configMaps.get? key = none)
      {key : Key} (present : before.configMaps.get? key ≠ none)
      (gone : after.configMaps.get? key = none)

theorem Departs.trans {before between after : Memory} (first : before.Departs between)
    (second : between.Departs after) : before.Departs after := by
  cases first with
  | grown grown =>
      cases second with
      | grown grownAgain => exact .grown (by omega)
      | fewer same _ _ _ => exact .grown (by omega)
  | fewer same noneAppeared present gone =>
      cases second with
      | grown grown => exact .grown (by omega)
      | fewer sameAgain noneAppearedAgain _ _ =>
          refine .fewer (by omega) ?_ present (noneAppearedAgain _ gone)
          intro key absent
          exact noneAppearedAgain key (noneAppeared key absent)

theorem Departs.irrefl (memory : Memory) : ¬memory.Departs memory := by
  rintro (grown | ⟨_, _, present, gone⟩)
  · exact Nat.lt_irrefl _ grown
  · exact present gone

section Written

variable {memory : Memory}

private theorem departs_putConfigMap (configMap : ConfigMap) :
    memory.Departs (memory.putConfigMap configMap) :=
  .grown (Nat.lt_succ_self memory.version)

/-- A call changes nothing, or it writes what no later call takes back. -/
theorem answer_cases (memory : Memory) (call : Call) :
    ((memory.answer call).2 = memory ∧ Garden.hasWritten call (memory.answer call).1 = false) ∨
      memory.Departs (memory.answer call).2 := by
  cases call with
  | create object =>
      cases found : memory.configMaps.contains object.metadata.key with
      | true => exact .inl (by simp [answer, create, found, Garden.hasWritten])
      | false =>
          refine .inr ?_
          simp only [answer, create, found]
          exact departs_putConfigMap object
  | replace object =>
      cases found : memory.configMaps.get? object.metadata.key with
      | none => exact .inl (by simp [answer, replace, found, Garden.hasWritten])
      | some existing =>
          by_cases same : existing.metadata.resourceVersion = object.metadata.resourceVersion
          · refine .inr ?_
            simp only [answer, replace, found, same, if_true]
            exact departs_putConfigMap object
          · exact .inl (by simp [answer, replace, found, same, Garden.hasWritten])
  | delete key =>
      cases found : memory.configMaps.get? key with
      | none =>
          refine .inl ⟨?_, ?_⟩
          · simp [answer, Table.erase_of_get? found]
          · simp [answer, Garden.hasWritten, Table.contains, found]
      | some configMap =>
          refine .inr (.fewer rfl ?_ (by simp [found]) (Table.get?_erase _ key key ▸ if_pos rfl))
          intro asked absent
          simp [answer, absent]
  | _ => exact .inl ⟨rfl, rfl⟩

/-- A run writes nothing, or what it writes shows at its end. -/
theorem run_cases {α : Type} (program : Program α) (memory : Memory) :
    ((program.run answer memory).2 = memory ∧
        ∀ exchange ∈ program.exchanges answer memory,
          Garden.hasWritten exchange.call exchange.answer = false) ∨
      memory.Departs (program.run answer memory).2 := by
  induction program generalizing memory with
  | done result => exact .inl ⟨rfl, by simp [Program.exchanges]⟩
  | fail failure => exact .inl ⟨rfl, by simp [Program.exchanges]⟩
  | ask call next ih =>
      unfold Program.exchanges Program.run
      have cases := answer_cases memory call
      cases answered : memory.answer call with
      | mk reply final =>
          rw [answered] at cases
          cases reply with
          | error failure =>
              refine cases.imp_left ?_
              rintro ⟨same, unwritten⟩
              exact ⟨same, by simpa using unwritten⟩
          | ok reply =>
              rcases cases with ⟨rfl, unwritten⟩ | departs
              · refine (ih reply final).imp_left ?_
                rintro ⟨same, unwrittenAfter⟩
                exact ⟨same, List.forall_mem_cons.mpr ⟨unwritten, unwrittenAfter⟩⟩
              · rcases ih reply final with ⟨same, _⟩ | departsAgain
                · dsimp only
                  rw [same]
                  exact .inr departs
                · exact .inr (departs.trans departsAgain)

private theorem unwritten_of_run_eq {α : Type} {program : Program α}
    (same : (program.run answer memory).2 = memory) :
    ∀ exchange ∈ program.exchanges answer memory,
      Garden.hasWritten exchange.call exchange.answer = false := by
  rcases run_cases program memory with ⟨_, unwritten⟩ | departs
  · exact unwritten
  · rw [same] at departs
    exact absurd departs (Departs.irrefl memory)

end Written

section Again

variable {memory : Memory} {admission : Admission} {limit : Nat} {key : Key}
  {object stored : ConfigMap}

theorem Settled.room (settled : memory.Settled key object stored) : memory.HasRoom key := by
  intro absent
  rw [settled.found] at absent
  cases absent

theorem Settled.withQuotas (settled : memory.Settled key object stored)
    (resourceQuotas : Table Key ResourceQuota) :
    { memory with resourceQuotas }.Settled key object stored where
  kept := ⟨settled.kept.shoots, settled.kept.configMaps⟩
  asks := settled.asks
  found := settled.found
  unchanged := settled.unchanged

theorem Settled.run_reconcile (settled : memory.Settled key object stored) :
    (reconcile limit key).run answer memory = (.ok .unchanged, memory) := by
  rw [run_reconcile_of_asks settled.asks settled.room, written_present settled.kept settled.found,
    settled.unchanged]

private theorem cleared_of_absent (absent : memory.configMaps.get? key.artifact = none) :
    memory.cleared key = memory := by
  unfold cleared
  rw [Table.erase_of_get? absent]

private theorem cleared_cleared : (memory.cleared key).cleared key = memory.cleared key := by
  apply cleared_of_absent
  simp [cleared]

private theorem written_ne_cleanup (kept : memory.Kept) (asks : memory.Asks key object) :
    (memory.written limit key object).1 ≠ .ok .cleanup := by
  rcases written_cases limit kept asks with ⟨failure, failed⟩ | ⟨outcome, _, _, succeeded, ended, _⟩
  · simp [failed]
  · rw [succeeded]
    rcases ended with rfl | rfl | ⟨rfl, _⟩ <;> simp

/-- Objects that ask for a kubeconfig do not have one removed: there was none. -/
private theorem absent_of_run_cleanup (kept : memory.Kept) (asks : memory.Asks key object)
    (ran : ((reconcile limit key).run answer memory).1 = .ok .cleanup) :
    memory.configMaps.get? key.artifact = none := by
  cases found : memory.configMaps.get? key.artifact with
  | none => rfl
  | some existing =>
      have room : memory.HasRoom key := by
        intro absent
        rw [found] at absent
        cases absent
      rw [run_reconcile_of_asks asks room] at ran
      exact absurd ran (written_ne_cleanup kept asks)

theorem run_reconcile_twice (kept : memory.Kept) :
    ((reconcile limit key).run answer ((reconcile limit key).run answer memory).2).2 =
      ((reconcile limit key).run answer memory).2 := by
  cases ran : (reconcile limit key).run answer memory with
  | mk result final =>
      dsimp only
      cases reconciled_of_run ran with
      | idle _ => rw [ran]
      | cleared =>
          cases second : (reconcile limit key).run answer (memory.cleared key) with
          | mk result final =>
              cases reconciled_of_run second with
              | idle _ => rfl
              | cleared => exact cleared_cleared
              | published asks _ _ =>
                  -- what is asked for does not depend on what was removed, so nothing was
                  have absent : memory.configMaps.get? key.artifact = none :=
                    absent_of_run_cleanup kept asks (by rw [ran])
                  rw [cleared_of_absent absent] at ran second
                  rw [ran] at second
                  cases second
                  rw [cleared_of_absent absent]
      | published asks _ same =>
          rcases written_cases limit kept asks with
            ⟨failure, failed⟩ | ⟨_, _, _, succeeded, _, settled⟩
          · cases same.symm.trans failed
            rw [ran]
          · cases same.symm.trans succeeded
            rw [settled.run_reconcile]

variable (admission limit key) in
theorem run_attempt_twice (kept : memory.Kept) :
    ((attempt admission limit key).run answer ((attempt admission limit key).run answer
      memory).2).2 = ((attempt admission limit key).run answer memory).2 := by
  simp only [run_attempt]
  split
  · exact run_reconcile_twice kept
  · rfl

end Again

/-- After one reconcile a second one of the same key leaves the cluster as it is, whatever came of
the first: nothing is written. After a write it finds nothing to do, whatever the quotas are by
then. -/
theorem second_run_unchanged (admission : Admission) (limit : Nat) (key : Key) {memory : Memory}
    (kept : memory.Kept) :
    let first := (attempt admission limit key).run answer memory
    ((attempt admission limit key).run answer first.2).2 = first.2 ∧
      (∀ exchange ∈ (attempt admission limit key).exchanges answer first.2,
        Garden.hasWritten exchange.call exchange.answer = false) ∧
      (first.1 = .ok .created ∨ first.1 = .ok .updated →
        ∀ resourceQuotas : Table Key ResourceQuota,
          (attempt admission limit key).run answer { first.2 with resourceQuotas } =
            (.ok .unchanged, { first.2 with resourceQuotas })) := by
  intro first
  have same := run_attempt_twice admission limit key kept
  refine ⟨same, unwritten_of_run_eq same, ?_⟩
  intro written resourceQuotas
  have admitted : (admission.enter? key.namespaceName).isSome = true := by
    cases denied : (admission.enter? key.namespaceName).isSome with
    | true => rfl
    | false =>
        have refused : first.1 = .ok .admissionDenied := by
          simp [first, run_attempt, denied]
        simp [refused] at written
  have published : ∃ outcome ∈ [Outcome.created, .updated, .unchanged], first.1 = .ok outcome := by
    rcases written with created | updated
    · exact ⟨.created, by simp, created⟩
    · exact ⟨.updated, by simp, updated⟩
  obtain ⟨outcome, isPublished, succeeded⟩ := published
  obtain ⟨object, stored, _, settled⟩ :=
    settled_of_published kept (Prod.ext succeeded rfl) isPublished
  rw [run_attempt, if_pos admitted]
  exact (settled.withQuotas resourceQuotas).run_reconcile

theorem second_run_unchanged_sample :
    ∃ limit,
      let first := (attempt { limit := 1 } limit Sample.key).run answer Sample.garden
      first.1 = .ok .created ∧
        (attempt { limit := 1 } limit Sample.key).run answer
          { first.2 with resourceQuotas := .empty } =
            (.ok .unchanged, { first.2 with resourceQuotas := .empty }) := by
  obtain ⟨limit, ready⟩ := Sample.ready_garden
  have created := created_of_ready Sample.kept_garden ready rfl
  obtain ⟨_, _, settled⟩ :=
    second_run_unchanged { limit := 1 } limit Sample.key Sample.kept_garden
  exact ⟨limit, created, settled (.inl created) .empty⟩

end Memory

end ShootKubeconfig.Cluster
