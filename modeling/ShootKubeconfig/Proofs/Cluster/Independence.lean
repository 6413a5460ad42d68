import Mathlib.Data.List.Induction
import ShootKubeconfig.Proofs.Cluster.Cleanup
import ShootKubeconfig.Proofs.Cluster.Dependence
import ShootKubeconfig.Proofs.Reconcile.Backing

/-!
Reconciles of different keys side by side in one cluster in memory.

Between two calls of one reconcile any number of calls of the others may come, and none of them
shows. A reconcile reads of the ConfigMaps only the one that it alone writes, and writes only as
its last call. So as long as it goes on it sees the cluster as it was in the beginning.
-/

namespace ShootKubeconfig

theorem Key.eq_of_artifact_eq {first second : Key} (same : first.artifact = second.artifact) :
    first = second := by
  obtain ⟨sameNamespace, sameName⟩ := Key.mk.inj same
  have sameShoot : first.name = second.name :=
    (String.append_left_inj Artifact.nameSuffix).mp sameName
  cases first
  cases second
  exact congrArg₂ Key.mk sameNamespace sameShoot

namespace Reconcile

namespace Program

variable {α σ : Type} {answer : σ → (call : Call) → Answer call × σ} {program : Program α}
  {state : σ} {result : Except Failure α}

def result? : Program α → Option (Except Failure α)
  | .done result => some (.ok result)
  | .fail failure => some (.error failure)
  | .ask _ _ => none

def advance (answer : σ → (call : Call) → Answer call × σ) (program : Program α) (state : σ) :
    Program α × σ :=
  match program with
  | .ask call next => (resume next (answer state call).1, (answer state call).2)
  | .done _ | .fail _ => (program, state)

private theorem advance_ask (answer : σ → (call : Call) → Answer call × σ) (call : Call)
    (next : call.Reply → Program α) (state : σ) :
    (Program.ask call next).advance answer state =
      (resume next (answer state call).1, (answer state call).2) := rfl

theorem run_advance (answer : σ → (call : Call) → Answer call × σ) (program : Program α)
    (state : σ) : (program.advance answer state).1.run answer (program.advance answer state).2 =
      program.run answer state := by
  cases program with
  | done result => rfl
  | fail failure => rfl
  | ask call next => exact (run_ask answer call next state).symm

theorem calls_advance (answer : σ → (call : Call) → Answer call × σ) (program : Program α)
    (state : σ) : (program.advance answer state).1.calls answer (program.advance answer state).2 =
      (program.calls answer state).tail := by
  cases program with
  | done result => rfl
  | fail failure => rfl
  | ask call next => exact (congrArg List.tail (calls_ask answer call next state)).symm

private theorem advance_of_ended (ended : program.result? = some result) :
    program.advance answer state = (program, state) := by
  cases program with
  | done result => rfl
  | fail failure => rfl
  | ask call next => cases ended

private theorem run_of_ended (ended : program.result? = some result) :
    program.run answer state = (result, state) := by
  cases program with
  | done result =>
      cases ended
      rfl
  | fail failure =>
      cases ended
      rfl
  | ask call next => cases ended

private theorem calls_of_ended (ended : program.result? = some result) :
    program.calls answer state = [] := by
  cases program with
  | done result => rfl
  | fail failure => rfl
  | ask call next => cases ended

/-- A program has ended if and only if it makes no further call. -/
private theorem result?_eq_ite (answer : σ → (call : Call) → Answer call × σ) (program : Program α)
    (state : σ) : program.result? =
      if program.calls answer state = [] then some (program.run answer state).1 else none := by
  cases program with
  | done result => rfl
  | fail failure => rfl
  | ask call next => rw [calls_ask, if_neg (List.cons_ne_nil _ _), result?]

end Program

/-- What a call may touch that is made for a key. -/
def Call.Confined (key : Key) : Call → Prop
  | .configMap asked => asked = key.artifact
  | .create object | .replace object => object.metadata.key = key.artifact
  | .delete target => target = key.artifact
  | _ => True

theorem Backed.confined {limit : Nat} {key : Key} {seen : List Exchange} {call : Call}
    (backed : Backed limit key seen call) (filed : ∀ exchange ∈ seen, exchange.Filed) :
    call.Confined key := by
  cases call with
  | configMap asked => exact backed
  | create object => exact Option.some.inj (backed.target filed rfl)
  | replace object => exact Option.some.inj (backed.target filed rfl)
  | delete target => exact backed.1
  | _ => trivial

theorem ended_of_written {limit : Nat} {key : Key} {seen : List Exchange} {call : Call}
    {answer : Answer call} {program : Program Outcome}
    (upheld : Program.Upholds (Due limit key) Concluded (seen ++ [⟨call, answer⟩]) program)
    (writes : call.isWrite = true) : ∃ result, program.result? = some result := by
  cases program with
  | done result => exact ⟨_, rfl⟩
  | fail failure => exact ⟨_, rfl⟩
  | ask further next =>
      have reads : call.isWrite = false := upheld.isDue.unwritten _ (mem_append_self seen _)
      cases writes.symm.trans reads

end Reconcile

namespace Cluster

open Reconcile

namespace Memory

structure SameSurroundings (first second : Memory) : Prop where
  shoots : second.shoots = first.shoots
  shootStates : second.shootStates = first.shootStates
  resourceQuotas : second.resourceQuotas = first.resourceQuotas
  identity : second.identity = first.identity

/-- The same ConfigMap is kept under a key, but maybe with another version. -/
def StoreAlike (first second : Memory) (key : Key) : Prop :=
  (first.configMaps.get? key).map ConfigMap.withoutVersion =
    (second.configMaps.get? key).map ConfigMap.withoutVersion

/-- Two clusters are the same up to the versions of the ConfigMaps. -/
structure Alike (first second : Memory) : Prop where
  surroundings : first.SameSurroundings second
  configMaps : ∀ key, first.StoreAlike second key

section Answer

variable {memory first second : Memory} {key : Key} {call : Call}

theorem SameSurroundings.trans {third : Memory} (before : first.SameSurroundings second)
    (after : second.SameSurroundings third) : first.SameSurroundings third where
  shoots := after.shoots.trans before.shoots
  shootStates := after.shootStates.trans before.shootStates
  resourceQuotas := after.resourceQuotas.trans before.resourceQuotas
  identity := after.identity.trans before.identity

theorem SameSurroundings.symm (same : first.SameSurroundings second) :
    second.SameSurroundings first where
  shoots := same.shoots.symm
  shootStates := same.shootStates.symm
  resourceQuotas := same.resourceQuotas.symm
  identity := same.identity.symm

theorem DiffersOnlyAt.sameSurroundings (differs : first.DiffersOnlyAt second key) :
    first.SameSurroundings second :=
  ⟨differs.shoots, differs.shootStates, differs.resourceQuotas, differs.identity⟩

theorem Kept.filed (kept : memory.Kept) (call : Call) :
    Exchange.Filed ⟨call, (memory.answer call).1⟩ := by
  cases call with
  | shoot asked =>
      show Exchange.Filed ⟨.shoot asked, .ok (memory.shoots.get? asked)⟩
      cases found : memory.shoots.get? asked with
      | none => trivial
      | some shoot => exact kept.shoots asked shoot found
  | configMap asked =>
      show Exchange.Filed ⟨.configMap asked, .ok (memory.configMaps.get? asked)⟩
      cases found : memory.configMaps.get? asked with
      | none => trivial
      | some configMap => exact kept.configMaps asked configMap found
  | _ => trivial

theorem answer_of_read (memory : Memory) (reads : call.isWrite = false) :
    (memory.answer call).2 = memory := by
  cases call with
  | create object => cases reads
  | replace object => cases reads
  | delete target => cases reads
  | _ => rfl

private theorem differsOnlyAt_answer (memory : Memory) (confined : call.Confined key) :
    memory.DiffersOnlyAt (memory.answer call).2 key.artifact := by
  cases call with
  | create object =>
      simp only [answer, create]
      split
      · exact differsOnlyAt_refl memory _
      · exact differsOnlyAt_putConfigMap confined
  | replace object =>
      simp only [answer, replace]
      split
      · exact differsOnlyAt_refl memory _
      · split
        · exact differsOnlyAt_putConfigMap confined
        · exact differsOnlyAt_refl memory _
  | delete target =>
      cases confined
      exact differsOnlyAt_cleared memory key
  | _ => exact differsOnlyAt_refl memory _

theorem answer_congr (surroundings : first.SameSurroundings second)
    (same : second.configMaps.get? key.artifact = first.configMaps.get? key.artifact)
    (confined : call.Confined key) : (second.answer call).1 = (first.answer call).1 := by
  cases call with
  | shoot asked => simp only [answer, surroundings.shoots]
  | shootState asked => simp only [answer, surroundings.shootStates]
  | configMap asked =>
      cases confined
      simp only [answer, same]
  | resourceQuotas namespaceName => simp only [answer, quotasOf, surroundings.resourceQuotas]
  | clusterIdentity => simp only [answer, surroundings.identity]
  | create object =>
      simp only [answer, create, Table.contains, show object.metadata.key = _ from confined, same]
      split <;> rfl
  | replace object =>
      simp only [answer, replace, show object.metadata.key = _ from confined, same]
      split
      · rfl
      · split <;> rfl
  | delete target =>
      cases confined
      simp only [answer, Table.contains, same]

private theorem storeAlike_putConfigMap {object : ConfigMap}
    (objectKey : object.metadata.key = key.artifact) :
    (second.putConfigMap object).StoreAlike (first.putConfigMap object) key.artifact := by
  rw [← objectKey]
  simp [StoreAlike, get?_putConfigMap, ConfigMap.withVersion, ConfigMap.withoutVersion]

theorem storeAlike_answer
    (same : second.configMaps.get? key.artifact = first.configMaps.get? key.artifact)
    (confined : call.Confined key) :
    (second.answer call).2.StoreAlike (first.answer call).2 key.artifact := by
  have sameBefore : second.StoreAlike first key.artifact := congrArg _ same
  cases call with
  | create object =>
      simp only [answer, create, Table.contains, show object.metadata.key = _ from confined, same]
      split
      · exact sameBefore
      · exact storeAlike_putConfigMap confined
  | replace object =>
      simp only [answer, replace, show object.metadata.key = _ from confined, same]
      split
      · exact sameBefore
      · split
        · exact storeAlike_putConfigMap confined
        · exact sameBefore
  | delete target =>
      cases confined
      simp [StoreAlike, answer]
  | _ => exact sameBefore

end Answer

end Memory

/-- One reconcile for each key in one cluster. Most keys never get a turn. -/
structure Company where
  memory : Memory
  programs : Key → Program Outcome

namespace Company

def start (admissions : Key → Admission) (limit : Nat) (memory : Memory) : Company where
  memory
  programs key := attempt (admissions key) limit key

def turn (company : Company) (key : Key) : Company :=
  let (program, memory) := (company.programs key).advance Memory.answer company.memory
  { memory, programs := fun other => if other = key then program else company.programs other }

@[simp] theorem memory_turn (company : Company) (key : Key) : (company.turn key).memory =
    ((company.programs key).advance Memory.answer company.memory).2 := rfl

@[simp] theorem programs_turn (company : Company) (key other : Key) :
    (company.turn key).programs other =
      if other = key then ((company.programs key).advance Memory.answer company.memory).1
      else company.programs other := rfl

def follow (company : Company) (schedule : List Key) : Company :=
  schedule.foldl turn company

end Company

/-- A reconcile among others has only read so far, and what it has read is as it was in the
beginning. -/
structure Reading (memory : Memory) (limit : Nat) (key : Key) (initial : Program Outcome)
    (shared : Memory) (turns : Nat) (seen : List Exchange) (program : Program Outcome) : Prop where
  upheld : Program.Upholds (Due limit key) Concluded seen program
  filed : ∀ exchange ∈ seen, exchange.Filed
  onward : program.run Memory.answer memory = initial.run Memory.answer memory
  ahead : program.calls Memory.answer memory = (initial.calls Memory.answer memory).drop turns
  same : shared.configMaps.get? key.artifact = memory.configMaps.get? key.artifact

/-- A reconcile among others has come as far as it would have come alone with as many calls. -/
inductive InStep (memory : Memory) (limit : Nat) (key : Key) (initial : Program Outcome)
    (shared : Memory) (turns : Nat) (program : Program Outcome) : Prop
  | reading {seen : List Exchange}
      (reading : Reading memory limit key initial shared turns seen program)
  | ended (result : program.result? = some (initial.run Memory.answer memory).1)
      (spent : (initial.calls Memory.answer memory).length ≤ turns)
      (left : shared.StoreAlike (initial.run Memory.answer memory).2 key.artifact)

section Reading

variable {memory shared : Memory} {limit turns : Nat} {key : Key} {initial : Program Outcome}
  {seen : List Exchange} {call : Call} {next : call.Reply → Program Outcome}

private theorem Reading.confined
    (reading : Reading memory limit key initial shared turns seen (.ask call next)) :
    call.Confined key :=
  reading.upheld.isDue.backed.confined reading.filed

theorem Reading.read
    (reading : Reading memory limit key initial shared turns seen (.ask call next))
    (kept : memory.Kept) (reads : call.isWrite = false) :
    Reading memory limit key initial (shared.answer call).2 (turns + 1)
      (seen ++ [⟨call, (memory.answer call).1⟩])
      (Program.resume next (memory.answer call).1) where
  upheld := reading.upheld.resume _
  filed := by
    intro exchange member
    rcases List.mem_append.mp member with earlier | last
    · exact reading.filed exchange earlier
    · rw [List.mem_singleton.mp last]
      exact kept.filed call
  onward := by
    have onward := reading.onward
    rw [Program.run_ask, Memory.answer_of_read memory reads] at onward
    exact onward
  ahead := by
    have ahead := reading.ahead
    rw [Program.calls_ask, Memory.answer_of_read memory reads] at ahead
    rw [← List.tail_drop, ← ahead, List.tail_cons]
  same := by
    rw [Memory.answer_of_read shared reads]
    exact reading.same

/-- A write is the last call. What it leaves is what it would have left in the beginning, but for
the version, which the writes of all keys move on. -/
theorem Reading.write
    (reading : Reading memory limit key initial shared turns seen (.ask call next))
    (writes : call.isWrite = true) :
    InStep memory limit key initial (shared.answer call).2 (turns + 1)
      (Program.resume next (memory.answer call).1) := by
  obtain ⟨result, ended⟩ := ended_of_written (reading.upheld.resume (memory.answer call).1) writes
  have onward := reading.onward
  have ahead := reading.ahead
  rw [Program.run_ask, Program.run_of_ended ended] at onward
  rw [Program.calls_ask, Program.calls_of_ended ended] at ahead
  refine .ended ?_ ?_ ?_
  · rw [ended, ← onward]
  · have oneLeft := congrArg List.length ahead
    rw [List.length_singleton, List.length_drop] at oneLeft
    omega
  · rw [← onward]
    exact Memory.storeAlike_answer reading.same reading.confined

end Reading

section InStep

variable {memory shared after : Memory} {limit turns : Nat} {key : Key}
  {initial program : Program Outcome}

theorem InStep.elsewhere (inStep : InStep memory limit key initial shared turns program)
    {target : Key} (differs : shared.DiffersOnlyAt after target) (other : key.artifact ≠ target) :
    InStep memory limit key initial after turns program := by
  have same := differs.configMaps key.artifact other
  cases inStep with
  | reading reading => exact .reading { reading with same := same.trans reading.same }
  | ended result spent left =>
      refine .ended result spent ?_
      unfold Memory.StoreAlike
      rw [same]
      exact left

private theorem InStep.result?_eq (inStep : InStep memory limit key initial shared turns program) :
    program.result? =
      if (initial.calls Memory.answer memory).length ≤ turns then
        some (initial.run Memory.answer memory).1
      else none := by
  cases inStep with
  | reading reading =>
      rw [program.result?_eq_ite Memory.answer memory, reading.ahead, reading.onward]
      simp only [List.drop_eq_nil_iff]
  | ended result spent left => rw [result, if_pos spent]

theorem InStep.storeAlike (inStep : InStep memory limit key initial shared turns program)
    (spent : (initial.calls Memory.answer memory).length ≤ turns) :
    shared.StoreAlike (initial.run Memory.answer memory).2 key.artifact := by
  have ended := inStep.result?_eq
  rw [if_pos spent] at ended
  cases inStep with
  | reading reading =>
      rw [← reading.onward, Program.run_of_ended ended]
      exact congrArg _ reading.same
  | ended result spent left => exact left

private theorem InStep.of_result (inStep : InStep memory limit key initial shared turns program)
    {result : Result} (ended : program.result? = some result) :
    result = (initial.run Memory.answer memory).1 ∧
      shared.StoreAlike (initial.run Memory.answer memory).2 key.artifact := by
  have known := inStep.result?_eq
  rw [ended] at known
  by_cases spent : (initial.calls Memory.answer memory).length ≤ turns
  · rw [if_pos spent] at known
    exact ⟨Option.some.inj known, inStep.storeAlike spent⟩
  · rw [if_neg spent] at known
    cases known

theorem InStep.turn (kept : memory.Kept) (surroundings : memory.SameSurroundings shared)
    (inStep : InStep memory limit key initial shared turns program) :
    InStep memory limit key initial (program.advance Memory.answer shared).2 (turns + 1)
        (program.advance Memory.answer shared).1 ∧
      shared.DiffersOnlyAt (program.advance Memory.answer shared).2 key.artifact := by
  cases inStep with
  | ended result spent left =>
      rw [Program.advance_of_ended result]
      exact ⟨.ended result (Nat.le_succ_of_le spent) left, Memory.differsOnlyAt_refl shared _⟩
  | reading reading =>
      cases program with
      | ask call next =>
          have confined := reading.confined
          refine ⟨?_, Memory.differsOnlyAt_answer shared confined⟩
          -- nobody else has written what the call is about
          rw [Program.advance_ask, Memory.answer_congr surroundings reading.same confined]
          cases writes : call.isWrite with
          | false => exact .reading (reading.read kept writes)
          | true => exact reading.write writes
      | _ =>
          refine ⟨.reading { reading with ahead := ?_ }, Memory.differsOnlyAt_refl shared _⟩
          rw [← List.tail_drop, ← reading.ahead]
          rfl

end InStep

namespace Company

variable {admissions : Key → Admission} {limit : Nat} {memory : Memory} {company : Company}
  {schedule : List Key}

theorem follow_append (company : Company) (earlier later : List Key) :
    company.follow (earlier ++ later) = (company.follow earlier).follow later :=
  List.foldl_append

structure InStep (admissions : Key → Admission) (limit : Nat) (memory : Memory)
    (schedule : List Key) (company : Company) : Prop where
  surroundings : memory.SameSurroundings company.memory
  programs : ∀ key, Cluster.InStep memory limit key (attempt (admissions key) limit key)
    company.memory (schedule.count key) (company.programs key)
  untouched : ∀ target, (∀ key ∈ schedule, target ≠ key.artifact) →
    company.memory.configMaps.get? target = memory.configMaps.get? target

theorem inStep_start (admissions : Key → Admission) (limit : Nat) (memory : Memory) :
    InStep admissions limit memory [] (start admissions limit memory) where
  surroundings := ⟨rfl, rfl, rfl, rfl⟩
  programs key := .reading ⟨upholds_attempt limit key (admissions key), by simp, rfl, rfl, rfl⟩
  untouched := fun _ _ => rfl

theorem InStep.turn (kept : memory.Kept) (inStep : company.InStep admissions limit memory schedule)
    (key : Key) : (company.turn key).InStep admissions limit memory (schedule ++ [key]) := by
  obtain ⟨onward, differs⟩ := (inStep.programs key).turn kept inStep.surroundings
  constructor
  · exact inStep.surroundings.trans differs.sameSurroundings
  · intro other
    by_cases same : other = key
    · subst same
      simpa using onward
    · have elsewhere : other.artifact ≠ key.artifact := fun shared =>
        same (Key.eq_of_artifact_eq shared)
      have waited := (inStep.programs other).elsewhere differs elsewhere
      simpa [same, Ne.symm same] using waited
  · intro target apart
    have before := inStep.untouched target fun other member =>
      apart other (List.mem_append_left _ member)
    exact (differs.configMaps target (apart key (by simp))).trans before

theorem inStep_follow (kept : memory.Kept) (admissions : Key → Admission) (limit : Nat)
    (schedule : List Key) :
    ((start admissions limit memory).follow schedule).InStep admissions limit memory schedule := by
  induction schedule using List.reverseRecOn with
  | nil => exact inStep_start admissions limit memory
  | append_singleton schedule key ih =>
      rw [follow_append]
      exact ih.turn kept key

/-- Once all that have begun have ended, it does not matter in which order they went. -/
theorem InStep.alike {first second : Company} {otherSchedule : List Key}
    (inStep : first.InStep admissions limit memory schedule)
    (otherInStep : second.InStep admissions limit memory otherSchedule)
    (ended : ∀ key, key ∈ schedule ∨ key ∈ otherSchedule →
      (first.programs key).result?.isSome = true ∧ (second.programs key).result?.isSome = true) :
    first.memory.Alike second.memory where
  surroundings := inStep.surroundings.symm.trans otherInStep.surroundings
  configMaps := by
    intro target
    by_cases written : ∃ key, (key ∈ schedule ∨ key ∈ otherSchedule) ∧ target = key.artifact
    · obtain ⟨key, begun, rfl⟩ := written
      obtain ⟨firstEnded, secondEnded⟩ := ended key begun
      obtain ⟨_, firstResult⟩ := Option.isSome_iff_exists.mp firstEnded
      obtain ⟨_, secondResult⟩ := Option.isSome_iff_exists.mp secondEnded
      have firstLeft := ((inStep.programs key).of_result firstResult).2
      have secondLeft := ((otherInStep.programs key).of_result secondResult).2
      exact firstLeft.trans secondLeft.symm
    · push Not at written
      have unchanged := inStep.untouched target fun key member => written key (.inl member)
      have otherUnchanged := otherInStep.untouched target fun key member =>
        written key (.inr member)
      exact congrArg _ (unchanged.trans otherUnchanged.symm)

private theorem follow_replicate (company : Company) (key : Key) (turns : Nat)
    (spent : ((company.programs key).calls Memory.answer company.memory).length ≤ turns) :
    let ran := (company.programs key).run Memory.answer company.memory
    (company.follow (List.replicate turns key)).memory = ran.2 ∧
      ((company.follow (List.replicate turns key)).programs key).result? = some ran.1 ∧
      ∀ other, other ≠ key →
        (company.follow (List.replicate turns key)).programs other = company.programs other := by
  induction turns generalizing company with
  | zero =>
      have ended := (company.programs key).result?_eq_ite Memory.answer company.memory
      rw [if_pos (List.eq_nil_of_length_eq_zero (Nat.le_zero.mp spent))] at ended
      refine ⟨?_, ended, fun _ _ => rfl⟩
      rw [Program.run_of_ended ended]
      rfl
  | succ turns ih =>
      have fewer : (((company.turn key).programs key).calls Memory.answer
          (company.turn key).memory).length ≤ turns := by
        rw [programs_turn, if_pos rfl, memory_turn, Program.calls_advance, List.length_tail]
        omega
      obtain ⟨memory, result, others⟩ := ih (company.turn key) fewer
      rw [programs_turn, if_pos rfl, memory_turn, Program.run_advance] at memory result
      refine ⟨memory, result, ?_⟩
      intro other different
      refine (others other different).trans ?_
      rw [programs_turn, if_neg different]

/-- One reconcile after the other is one of the ways to go side by side. -/
theorem exists_schedule (admissions : Key → Admission) (limit : Nat) (memory : Memory)
    {first second : Key} (different : first ≠ second) :
    let one := (attempt (admissions first) limit first).run Memory.answer memory
    let other := (attempt (admissions second) limit second).run Memory.answer one.2
    ∃ schedule,
      ((start admissions limit memory).follow schedule).memory = other.2 ∧
        (((start admissions limit memory).follow schedule).programs first).result? = some one.1 ∧
        (((start admissions limit memory).follow schedule).programs second).result? =
          some other.1 ∧
        ∀ key ∈ schedule, key = first ∨ key = second := by
  intro one other
  let firstTurns := ((attempt (admissions first) limit first).calls Memory.answer memory).length
  let secondTurns := ((attempt (admissions second) limit second).calls Memory.answer one.2).length
  obtain ⟨afterFirst, firstResult, firstOthers⟩ :=
    follow_replicate (start admissions limit memory) first firstTurns (Nat.le_refl _)
  let halfway := (start admissions limit memory).follow (List.replicate firstTurns first)
  have untouched : halfway.programs second = attempt (admissions second) limit second :=
    firstOthers second different.symm
  have enough : ((halfway.programs second).calls Memory.answer halfway.memory).length ≤
      secondTurns := by
    rw [untouched, afterFirst]
    exact Nat.le_refl _
  obtain ⟨afterSecond, secondResult, secondOthers⟩ :=
    follow_replicate halfway second secondTurns enough
  rw [untouched, afterFirst] at afterSecond secondResult
  refine ⟨List.replicate firstTurns first ++ List.replicate secondTurns second, ?_⟩
  rw [follow_append]
  refine ⟨afterSecond, ?_, secondResult, ?_⟩
  · rw [secondOthers first different]
    exact firstResult
  · intro key member
    rcases List.mem_append.mp member with early | late
    · exact .inl (List.eq_of_mem_replicate early)
    · exact .inr (List.eq_of_mem_replicate late)

/-- Reconciles of different keys do not influence each other, in whichever order their calls come:
each one ends after as many calls as it would make alone, with the same result, and leaves the same
ConfigMap. Two of them can be exchanged. -/
theorem reconciles_independent (admissions : Key → Admission) (limit : Nat) {memory : Memory}
    (kept : memory.Kept) :
    (∀ (schedule : List Key) (key : Key),
      let company := (start admissions limit memory).follow schedule
      let alone := (attempt (admissions key) limit key).run Memory.answer memory
      let calls := (attempt (admissions key) limit key).calls Memory.answer memory
      (company.programs key).result? =
          (if calls.length ≤ schedule.count key then some alone.1 else none) ∧
        (calls.length ≤ schedule.count key →
          company.memory.StoreAlike alone.2 key.artifact)) ∧
      ∀ first second : Key, first ≠ second →
        let one := (attempt (admissions first) limit first).run Memory.answer
        let other := (attempt (admissions second) limit second).run Memory.answer
        (one (other memory).2).1 = (one memory).1 ∧ (other (one memory).2).1 = (other memory).1 ∧
          (other (one memory).2).2.Alike (one (other memory).2).2 := by
  constructor
  · intro schedule key
    have inStep := (inStep_follow kept admissions limit schedule).programs key
    exact ⟨inStep.result?_eq, inStep.storeAlike⟩
  · intro first second different one other
    obtain ⟨schedule, left, firstResult, secondResult, only⟩ :=
      exists_schedule admissions limit memory different
    obtain ⟨swapped, leftSwapped, secondSwapped, firstSwapped, onlySwapped⟩ :=
      exists_schedule admissions limit memory different.symm
    have inStep := inStep_follow kept admissions limit schedule
    have inStepSwapped := inStep_follow kept admissions limit swapped
    have firstSame := ((inStepSwapped.programs first).of_result firstSwapped).1
    have secondSame := ((inStep.programs second).of_result secondResult).1
    refine ⟨firstSame, secondSame, ?_⟩
    rw [← left, ← leftSwapped]
    apply inStep.alike inStepSwapped
    intro key begun
    have either : key = first ∨ key = second :=
      begun.elim (only key) fun member => (onlySwapped key member).symm
    rcases either with rfl | rfl
    · exact ⟨Option.isSome_of_eq_some firstResult, Option.isSome_of_eq_some firstSwapped⟩
    · exact ⟨Option.isSome_of_eq_some secondResult, Option.isSome_of_eq_some secondSwapped⟩

namespace Sample

open Memory.Sample

def neighbour : Key := ⟨"garden-dev", "bar"⟩

/-- The kubeconfig of a shoot that is gone. -/
def abandoned : ConfigMap where
  metadata := { name := some "bar.kubeconfig", inNamespace? := some "garden-dev" }

def quarter : Memory :=
  garden.put (.configMap abandoned)

private theorem kept_quarter : quarter.Kept :=
  kept_garden.put (.configMap abandoned)

private theorem agrees_quarter : garden.Agrees quarter key where
  shoot := .some ⟨rfl, rfl, rfl, rfl, rfl, rfl⟩
  state := .some ⟨rfl, rfl⟩
  configMap := by decide
  quotas := rfl
  identity := rfl

private theorem created_quarter :
    ∃ limit, ((attempt { limit := 1 } limit key).run Memory.answer quarter).1 = .ok .created := by
  obtain ⟨limit, ready⟩ := ready_garden
  have created := Memory.created_of_ready kept_garden ready rfl
  have sameCourse := Memory.sameCourse_attempt { limit := 1 } limit agrees_quarter kept_garden
  exact ⟨limit, sameCourse.result.symm.trans created⟩

private theorem removed_quarter (limit : Nat) :
    (attempt { limit := 1 } limit neighbour).run Memory.answer quarter =
      (.ok .cleanup, quarter.cleared neighbour) := by
  have gone : ¬quarter.ShootStays neighbour := by
    rintro ⟨shoot, found, _⟩
    cases found
  have admitted : (Admission.enter? { limit := 1 } neighbour.namespaceName).isSome = true := rfl
  rw [Memory.run_attempt, if_pos admitted, Memory.run_reconcile_of_shootGone gone]

def inTurns (turns : Nat) : List Key :=
  (List.replicate turns [key, neighbour]).flatten

private theorem count_inTurns (turns : Nat) :
    (inTurns turns).count key = turns ∧ (inTurns turns).count neighbour = turns := by
  simp [inTurns, List.count_flatten, key, neighbour]

end Sample

/-- A shoot gets its kubeconfig while the one of its neighbour is removed, with their calls in
turns or one after the other. -/
theorem reconciles_independent_sample :
    ∃ limit turns,
      let company := (start (fun _ => { limit := 1 }) limit Sample.quarter).follow
        (Sample.inTurns turns)
      let removed :=
        (attempt { limit := 1 } limit Sample.neighbour).run Memory.answer Sample.quarter
      (company.programs Memory.Sample.key).result? = some (.ok .created) ∧
        (company.programs Sample.neighbour).result? = some (.ok .cleanup) ∧
        company.memory.configMaps.get? Sample.neighbour.artifact = none ∧
        ((attempt { limit := 1 } limit Memory.Sample.key).run Memory.answer removed.2).1 =
          .ok .created := by
  obtain ⟨limit, created⟩ := Sample.created_quarter
  obtain ⟨beside, exchanged⟩ :=
    reconciles_independent (fun _ => { limit := 1 }) limit Sample.kept_quarter
  let calls (key : Key) := (attempt { limit := 1 } limit key).calls Memory.answer Sample.quarter
  obtain ⟨turns, ownSpent, otherSpent⟩ : ∃ turns, (calls Memory.Sample.key).length ≤ turns ∧
      (calls Sample.neighbour).length ≤ turns := ⟨_, Nat.le_add_right _ _, Nat.le_add_left _ _⟩
  obtain ⟨ownTurns, otherTurns⟩ := Sample.count_inTurns turns
  obtain ⟨ownResult, _⟩ := beside (Sample.inTurns turns) Memory.Sample.key
  obtain ⟨otherResult, otherLeft⟩ := beside (Sample.inTurns turns) Sample.neighbour
  rw [ownTurns, if_pos ownSpent, created] at ownResult
  rw [otherTurns, if_pos otherSpent, Sample.removed_quarter] at otherResult
  rw [otherTurns, Sample.removed_quarter] at otherLeft
  have different : Memory.Sample.key ≠ Sample.neighbour := by decide
  obtain ⟨ownUnmoved, _, _⟩ := exchanged Memory.Sample.key Sample.neighbour different
  refine ⟨limit, turns, ownResult, otherResult, ?_, ownUnmoved.trans created⟩
  have left := otherLeft otherSpent
  rw [Memory.StoreAlike, Memory.get?_cleared, Option.map_none, Option.map_eq_none_iff] at left
  exact left

end Company

end Cluster

end ShootKubeconfig
