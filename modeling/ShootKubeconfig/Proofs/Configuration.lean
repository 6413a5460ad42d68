import ShootKubeconfig.Controller.Removal
import ShootKubeconfig.Proofs.Except
import ShootKubeconfig.Proofs.Reconcile.Ceilings

/-!
What an accepted configuration is good for.

Whatever it is read from, a configuration that is accepted gives every namespace a ticket and has
its delays in order, so that no reconcile is kept out where there is a free worker and none of its
namespace is under way. Only the number of workers has no upper bound of its own, and there may be
more of them than can be counted.
-/

namespace ShootKubeconfig

namespace Configuration

variable {configuration : Configuration} {source : Source}

/-- What is checked before a configuration is accepted. -/
structure Usable (configuration : Configuration) : Prop where
  workers : 0 < configuration.shoot.maxConcurrent
  tickets : 0 < configuration.shoot.maxConcurrentPerNamespace
  within : configuration.shoot.maxConcurrentPerNamespace ≤ configuration.shoot.maxConcurrent
  ordered : configuration.shoot.admissionRetryMin ≤ configuration.shoot.admissionRetryMax
  size : 0 < configuration.maxObjectSize

theorem defect?_eq_none_iff : configuration.defect? = none ↔ configuration.Usable := by
  have ordered_iff : configuration.shoot.admissionRetryMin ≤ configuration.shoot.admissionRetryMax ↔
      ¬configuration.shoot.admissionRetryMax < configuration.shoot.admissionRetryMin :=
    Nat.not_lt.symm
  constructor
  · intro sound
    unfold defect? at sound
    dsimp only at sound
    split_ifs at sound with workers tickets within ordered size
    exact ⟨by omega, by omega, by omega, ordered_iff.mpr ordered, by omega⟩
  · rintro ⟨workers, tickets, within, ordered, size⟩
    unfold defect?
    rw [if_neg (by omega), if_neg (by omega), if_neg (by omega), if_neg (ordered_iff.mp ordered),
      if_neg (by omega)]

private theorem checked_eq_ok_iff {result : Configuration} :
    checked configuration = .ok result ↔ configuration.Usable ∧ configuration = result := by
  rw [← defect?_eq_none_iff]
  unfold checked
  cases configuration.defect? <;> simp

theorem usable_of_load (accepted : load source = .ok configuration) : configuration.Usable := by
  cases source with
  | defaults =>
      have defaults : checked {} = .ok configuration := accepted
      obtain ⟨usable, rfl⟩ := checked_eq_ok_iff.mp defaults
      exact usable
  | missingFile => cases accepted
  | file content =>
      unfold load at accepted
      dsimp only at accepted
      split at accepted
      next => cases accepted
      next text decoded =>
          obtain ⟨described, _, accepted⟩ := bind_eq_ok_iff.mp accepted
          obtain ⟨usable, rfl⟩ := checked_eq_ok_iff.mp accepted
          exact usable

end Configuration

namespace Reconcile

variable {settings : ShootSettings} {limit : Nat}

/-- A new job takes a worker and a ticket of its namespace, with its first steps and with no other
job going on in between. -/
structure Floor.Admits (limit : Nat) (floor : Floor) (key : Key) (workers : Nat)
    (admission : Admission) : Prop where
  start : floor.Move limit ⟨floor.supply, ⟨key, .waiting⟩ :: floor.jobs⟩
  seat : Floor.Move limit ⟨floor.supply, ⟨key, .waiting⟩ :: floor.jobs⟩
    ⟨⟨workers, floor.supply.admission⟩, ⟨key, .seated⟩ :: floor.jobs⟩
  entered : floor.supply.admission.enter? key.namespaceName = some admission
  enter : Floor.Move limit ⟨⟨workers, floor.supply.admission⟩, ⟨key, .seated⟩ :: floor.jobs⟩
    ⟨⟨workers, admission⟩, ⟨key, .admitted (reconcile limit key)⟩ :: floor.jobs⟩

private theorem exists_enter? {admission : Admission} {tickets : List String} {namespaceName : String}
    (accounts : admission.Accounts tickets) (room : 0 < admission.limit)
    (idle : namespaceName ∉ tickets) : ∃ after, admission.enter? namespaceName = some after := by
  refine Option.isSome_iff_exists.mp (accounts.isSome_enter?_iff.mpr ?_)
  rw [List.count_eq_zero.mpr idle]
  exact room

theorem Floor.Accounted.admits {floor : Floor} (accounted : floor.Accounted settings)
    (tickets : 0 < settings.maxConcurrentPerNamespace) (free : 0 < floor.supply.freeWorkers)
    {key : Key} (idle : key.namespaceName ∉ Job.tickets floor.jobs) :
    ∃ workers admission, floor.Admits limit key workers admission := by
  obtain ⟨⟨freeWorkers, admission⟩, jobs⟩ := floor
  obtain ⟨workers, rfl⟩ := Nat.exists_eq_succ_of_ne_zero (Nat.ne_of_gt free)
  obtain ⟨after, entered⟩ := exists_enter? accounted.tickets (accounted.limit ▸ tickets) idle
  have seat := @Floor.Move.step limit ⟨⟨workers + 1, admission⟩, ⟨key, .waiting⟩ :: jobs⟩ [] jobs
    key _ _ _ rfl (.seat workers admission)
  have enter := @Floor.Move.step limit ⟨⟨workers, admission⟩, ⟨key, .seated⟩ :: jobs⟩ [] jobs
    key _ _ _ rfl (.enter entered)
  exact ⟨workers, after, .start key, seat, entered, enter⟩

/-- In a pool nobody is ahead of a new run where a worker has been left over. -/
theorem Pool.Accounted.advance_enter {ι : Type} {pool : Pool ι}
    (accounted : pool.Accounted settings) (tickets : 0 < settings.maxConcurrentPerNamespace)
    (free : pool.hasFreeWorker = true) (settled : pool.advance? = none) (run : ι)
    {namespaceName : String} (idle : namespaceName ∉ pool.tickets) :
    ∃ admission, (pool.enter run namespaceName).advance? =
      some (⟨run, namespaceName⟩, true,
        { pool with admission, admitted := pool.admitted ++ [⟨run, namespaceName⟩] }) := by
  obtain ⟨after, entered⟩ := exists_enter? accounted.tickets (accounted.limit ▸ tickets) idle
  have unqueued : pool.waiting = [] := by
    unfold advance? at settled
    rw [if_pos free] at settled
    cases queue : pool.waiting with
    | nil => rfl
    | cons place waiting =>
        rw [queue] at settled
        dsimp only at settled
        split at settled <;> cases settled
  refine ⟨after, ?_⟩
  have stillFree : (pool.enter run namespaceName).hasFreeWorker = true := free
  unfold advance?
  rw [if_pos stillFree]
  simp only [enter, unqueued, List.nil_append, entered]

theorem Pool.exists_ofSettings?_iff {ι : Type} :
    (∃ pool : Pool ι, Pool.ofSettings? settings = some pool) ↔
      settings.maxConcurrent ≤ Pool.maxWorkers := by
  unfold Pool.ofSettings?
  split
  next countable => simpa using countable
  next uncountable => simpa using uncountable

end Reconcile

namespace Configuration

open Reconcile

/-- A configuration that is accepted can be run unless its workers are too many to be counted. It
keeps no reconcile out where a worker is free and none of the namespace is under way, and after a
denied admission any delay within its bounds may be waited for, but no other. -/
theorem accepted_runs {source : Source} {configuration : Configuration}
    (accepted : load source = .ok configuration) :
    (∀ ι : Type, (∃ pool : Pool ι, Pool.ofSettings? configuration.shoot = some pool) ↔
      configuration.shoot.maxConcurrent ≤ Pool.maxWorkers) ∧
    (∀ floor key,
      Floor.Reachable configuration.shoot configuration.maxObjectSize floor →
      0 < floor.supply.freeWorkers → key.namespaceName ∉ Job.tickets floor.jobs →
        ∃ workers admission, floor.Admits configuration.maxObjectSize key workers admission) ∧
    (∀ (ι : Type) [DecidableEq ι] (pool : Pool ι) run namespaceName,
      Pool.Reachable configuration.shoot pool →
      pool.hasFreeWorker = true → pool.advance? = none → namespaceName ∉ pool.tickets →
        ∃ admission, (pool.enter run namespaceName).advance? =
          some (⟨run, namespaceName⟩, true,
            { pool with admission, admitted := pool.admitted ++ [⟨run, namespaceName⟩] })) ∧
    ∃ delay, requeue? configuration.shoot .admissionDenied = some delay ∧
      (∀ removal : Controller.Removal,
        (removal.next configuration.shoot (.ok .admissionDenied)).2 = some delay) ∧
      ∀ waited, delay.Allows waited ↔
        configuration.shoot.admissionRetryMin ≤ waited ∧
          waited ≤ configuration.shoot.admissionRetryMax := by
  have usable := usable_of_load accepted
  refine ⟨fun _ => Pool.exists_ofSettings?_iff, ?_, ?_, admissionRetry configuration.shoot, rfl,
    fun _ => rfl, fun waited => ?_⟩
  · intro floor key reachable free idle
    exact reachable.accounted.admits usable.tickets free idle
  · intro ι _ pool run namespaceName reachable free settled idle
    exact reachable.accounted.advance_enter usable.tickets free settled run idle
  · rw [admissionRetry, Delay.allows_jitter_iff, if_pos usable.ordered]

namespace Sample

def modest : Configuration where
  shoot := Reconcile.Sample.twoWorkers

private theorem load_modest :
    load (.file (Utf8.encode ("controllers:\n  shoot:\n    maxConcurrentReconciles: 2\n" ++
      "    maxConcurrentReconcilesPerNamespace: 1\n"))) = .ok modest :=
  toOption_eq_some_iff.mp (by decide +kernel)

/-- One of the two workers is taken, and so is the only ticket of its namespace. -/
def halfFree : Floor where
  supply := ⟨1, { limit := 1, counts := .singleton "garden-dev" 1 }⟩
  jobs := [⟨⟨"garden-dev", "foo"⟩, .admitted (reconcile 102400 ⟨"garden-dev", "foo"⟩)⟩]

private theorem reachable_halfFree : Floor.Reachable modest.shoot 102400 halfFree := by
  have idle := @Floor.Reachable.idle modest.shoot 102400 ⟨2, { limit := 1 }, [], []⟩ rfl
  have seated := (idle.move (.start ⟨"garden-dev", "foo"⟩)).move
    (@Floor.Move.step _ _ [] [] _ _ _ _ rfl (.seat 1 _))
  exact seated.move (@Floor.Move.step _ _ [] [] _ _ _ _ rfl (.enter (by rfl)))

def halfFreePool : Pool Nat where
  workers := 2
  admission := { limit := 1, counts := .singleton "garden-dev" 1 }
  admitted := [⟨0, "garden-dev"⟩]

private theorem reachable_halfFreePool : Pool.Reachable modest.shoot halfFreePool := by
  have idle : Pool.Reachable modest.shoot (⟨2, { limit := 1 }, [], []⟩ : Pool Nat) := .idle rfl
  have advances : (Pool.enter ⟨2, { limit := 1 }, [], []⟩ 0 "garden-dev").advance? =
      some (⟨0, "garden-dev"⟩, true, halfFreePool) := rfl
  exact (idle.enter 0 "garden-dev").advance advances

end Sample

theorem accepted_runs_sample :
    (∃ pool : Pool Nat, Pool.ofSettings? Sample.modest.shoot = some pool) ∧
      (∃ workers admission,
        Sample.halfFree.Admits 102400 ⟨"garden-prod", "foo"⟩ workers admission) ∧
      (∃ admission, (Sample.halfFreePool.enter 1 "garden-prod").advance? =
        some (⟨1, "garden-prod"⟩, true,
          { Sample.halfFreePool with
            admission, admitted := [⟨0, "garden-dev"⟩, ⟨1, "garden-prod"⟩] })) ∧
      ∃ delay, requeue? Sample.modest.shoot .admissionDenied = some delay ∧
        delay.Allows (.ofSeconds 5) := by
  obtain ⟨pools, floors, queues, delay, due, -, allows⟩ := accepted_runs Sample.load_modest
  refine ⟨(pools Nat).mpr (by decide), ?_, ?_, delay, due, (allows _).mpr (by decide)⟩
  · exact floors _ _ Sample.reachable_halfFree (by decide) (by decide)
  · exact queues _ _ 1 _ Sample.reachable_halfFreePool rfl rfl (by decide)

/-- With one worker more than can be counted. -/
def Sample.swollen : Configuration where
  shoot := { maxConcurrent := Pool.maxWorkers + 1 }

theorem accepted_without_pool :
    load (.file (Utf8.encode
      "controllers:\n  shoot:\n    maxConcurrentReconciles: 2305843009213693952\n")) =
        .ok Sample.swollen ∧
      (Pool.ofSettings? Sample.swollen.shoot : Option (Pool Nat)) = none :=
  ⟨toOption_eq_some_iff.mp (by decide +kernel), rfl⟩

end Configuration

end ShootKubeconfig
