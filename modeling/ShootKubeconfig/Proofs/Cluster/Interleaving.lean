import ShootKubeconfig.Proofs.Cluster.EndState
import ShootKubeconfig.Proofs.Cluster.Registry

/-!
Reconciles side by side, in a cluster that others change as well.

Between two calls of one reconcile anything may happen: calls of other reconciles, of the same key
or of others, and changes by anybody else. What carries the argument is that every ConfigMap that a
reconcile has read is still recalled by its version when the reconcile writes.
-/

namespace ShootKubeconfig.Cluster

open Reconcile

/-- A reconcile under way: what it has asked and been told, and how it goes on. -/
structure Run where
  limit : Nat
  key : Key
  seen : List Exchange := []
  program : Program Outcome

namespace Run

def start (admission : Admission) (limit : Nat) (key : Key) : Run :=
  { limit, key, program := attempt admission limit key }

def told (run : Run) {call : Call} (next : call.Reply → Program Outcome) (answer : Answer call) :
    Run :=
  { run with
    seen := run.seen ++ [⟨call, answer⟩]
    program := Program.resume next answer }

/-- A reconcile goes on as it should, and what it has read is still recalled. -/
structure Sound (run : Run) (registry : Registry) : Prop where
  upheld : Program.Upholds (Due run.limit run.key) Concluded run.seen run.program
  filed : ∀ exchange ∈ run.seen, exchange.Filed
  recalled : ∀ asked configMap,
    (⟨.configMap asked, .ok (some configMap)⟩ : Exchange) ∈ run.seen →
      registry.Recalls asked configMap

end Run

structure World where
  registry : Registry
  runs : Nat → Option Run

namespace World

def setRun (world : World) (name : Nat) (run : Option Run) : World :=
  { world with runs := fun other => if other = name then run else world.runs other }

inductive Move (world : World) : World → Prop
  | start (name : Nat) (admission : Admission) (limit : Nat) (key : Key) :
      Move world (world.setRun name (some (.start admission limit key)))
  | call {name : Nat} {run : Run} {call : Call} {next : call.Reply → Program Outcome}
      {answer : Answer call} {after : Registry} (running : world.runs name = some run)
      (asks : run.program = .ask call next)
      (answers : world.registry.Answers call answer after) :
      Move world ({ world with registry := after }.setRun name (some (run.told next answer)))
  | put {object : ConfigMap} {after : Registry} (puts : world.registry.Puts object after) :
      Move world { world with registry := after }
  | remove (key : Key) : Move world { world with registry := world.registry.remove key }
  | drop (name : Nat) : Move world (world.setRun name none)

/-- What may come about from a cluster without reconciles. -/
inductive Reachable : World → Prop
  | idle {registry : Registry} (sound : registry.Sound) : Reachable ⟨registry, fun _ => none⟩
  | move {world after : World} (reachable : Reachable world) (moves : world.Move after) :
      Reachable after

structure Sound (world : World) : Prop where
  registry : world.registry.Sound
  runs : ∀ name run, world.runs name = some run → run.Sound world.registry

end World

section Sound

variable {registry after : Registry} {run : Run}

theorem Run.sound_start (admission : Admission) (limit : Nat) (key : Key) :
    (Run.start admission limit key).Sound registry where
  upheld := upholds_attempt limit key admission
  filed := by simp [Run.start]
  recalled := by simp [Run.start]

private theorem Run.Sound.mono (sound : run.Sound registry)
    (recalls : ∀ key configMap, registry.Recalls key configMap → after.Recalls key configMap) :
    run.Sound after where
  upheld := sound.upheld
  filed := sound.filed
  recalled := fun asked configMap read => recalls asked configMap (sound.recalled _ _ read)

theorem Run.Sound.told (sound : run.Sound registry) (registrySound : registry.Sound) {call : Call}
    {next : call.Reply → Program Outcome} {answer : Answer call}
    (asks : run.program = .ask call next) (answers : registry.Answers call answer after) :
    (run.told next answer).Sound after where
  upheld := by
    have upheld := sound.upheld
    rw [asks] at upheld
    exact upheld.resume answer
  filed := by
    intro exchange member
    rcases List.mem_append.mp member with earlier | last
    · exact sound.filed exchange earlier
    · rw [List.mem_singleton.mp last]
      exact registrySound.filed answers
  recalled := by
    intro asked configMap member
    rcases List.mem_append.mp member with earlier | last
    · exact (sound.recalled asked configMap earlier).answers answers
    · exact registrySound.recalls_read answers (List.mem_singleton.mp last).symm

private theorem World.Sound.setRun {world : World} (sound : world.Sound) (name : Nat) {run : Option Run}
    (runSound : ∀ started, run = some started → started.Sound world.registry) :
    (world.setRun name run).Sound where
  registry := sound.registry
  runs := by
    intro other running found
    unfold World.setRun at found
    dsimp only at found
    split at found
    · exact runSound running found
    · exact sound.runs other running found

private theorem World.Sound.withRegistry {world : World} (sound : world.Sound) (afterSound : after.Sound)
    (recalls : ∀ key configMap, world.registry.Recalls key configMap →
      after.Recalls key configMap) : { world with registry := after }.Sound where
  registry := afterSound
  runs := fun name run running => (sound.runs name run running).mono recalls

theorem World.Sound.move {world after : World} (sound : world.Sound) (moves : world.Move after) :
    after.Sound := by
  cases moves with
  | start name admission limit key =>
      apply sound.setRun
      rintro _ ⟨⟩
      exact Run.sound_start admission limit key
  | @call name run call next answer after running asks answers =>
      -- the store moves on for all runs, and one of them with it
      have othersSound := sound.withRegistry (sound.registry.answers answers)
        (fun _ _ recalls => recalls.answers answers)
      apply othersSound.setRun
      rintro _ ⟨⟩
      exact (sound.runs name run running).told sound.registry asks answers
  | put puts =>
      exact sound.withRegistry (sound.registry.puts puts) (fun _ _ recalls => recalls.puts puts)
  | remove key =>
      exact sound.withRegistry (sound.registry.remove key) (fun _ _ recalls => recalls.remove key)
  | drop name =>
      apply sound.setRun
      rintro _ ⟨⟩

theorem World.Reachable.sound {world : World} (reachable : world.Reachable) : world.Sound := by
  induction reachable with
  | idle sound => exact ⟨sound, by simp⟩
  | move _ moves ih => exact ih.move moves

end Sound

section Writes

variable {registry after : Registry} {run : Run} {object : ConfigMap}

theorem Run.Sound.backed (sound : run.Sound registry) {call : Call}
    {next : call.Reply → Program Outcome} (asks : run.program = .ask call next) :
    Backed run.limit run.key run.seen call := by
  have upheld := sound.upheld
  rw [asks] at upheld
  exact upheld.isDue.backed

theorem Run.Sound.replaces (sound : run.Sound registry)
    {next : (Call.replace object).Reply → Program Outcome}
    (asks : run.program = .ask (.replace object) next) :
    ∃ existing desired shoot owner,
      (⟨.configMap run.key.artifact, .ok (some existing)⟩ : Exchange) ∈ run.seen ∧
        registry.Recalls run.key.artifact existing ∧
        (⟨.shoot run.key, .ok (some shoot)⟩ : Exchange) ∈ run.seen ∧
        Artifact.ownerReference shoot = .ok owner ∧
        object = Artifact.merged existing desired owner := by
  obtain ⟨existing, desired, room, asked, merged, _, _⟩ := sound.backed asks
  obtain ⟨shoot, _, _, _, shootRead, _, _, _, _, _, made⟩ := asked
  obtain ⟨owner, referred, same⟩ := Artifact.merged_of_merge_desired made merged
  exact ⟨existing, desired, shoot, owner, room.1, sound.recalled _ _ room.1, shootRead, referred,
    same⟩

theorem Run.Sound.creates (sound : run.Sound registry)
    {next : (Call.create object).Reply → Program Outcome}
    (asks : run.program = .ask (.create object) next) :
    (⟨.configMap run.key.artifact, .ok none⟩ : Exchange) ∈ run.seen ∧
      object.metadata.key = run.key.artifact := by
  obtain ⟨room, asked, _⟩ := sound.backed asks
  obtain ⟨shoot, _, _, _, shootRead, _, _, _, _, _, made⟩ := asked
  have shootFiled : shoot.metadata.key = run.key := sound.filed _ shootRead
  refine ⟨room.1, ?_⟩
  rw [Artifact.key_desired made, shootFiled]

/-- A race is lost exactly if what is stored is no longer what has been read. -/
theorem Run.Sound.loses_iff (sound : run.Sound registry) {call : Call}
    {next : call.Reply → Program Outcome} (asks : run.program = .ask call next)
    (puts : call = .create object ∨ call = .replace object) :
    ∃ found, (⟨.configMap run.key.artifact, .ok found⟩ : Exchange) ∈ run.seen ∧
      (registry.Loses call ↔ registry.configMaps.get? run.key.artifact ≠ found) := by
  rcases puts with rfl | rfl
  · obtain ⟨read, sameKey⟩ := sound.creates asks
    refine ⟨none, read, ?_⟩
    rw [← sameKey]
    exact Iff.rfl
  · obtain ⟨existing, _, _, _, read, recalls, _, _, rfl⟩ := sound.replaces asks
    exact ⟨some existing, read, recalls.loses_replace_iff
      ((Artifact.key_merged existing _ _).trans recalls.key)
      (Artifact.resourceVersion_merged existing _ _)⟩

theorem World.Reachable.told {world : World} (reachable : world.Reachable)
    (same : world.registry = registry) {name : Nat} (running : world.runs name = some run)
    {call : Call} {next : call.Reply → Program Outcome} (asks : run.program = .ask call next)
    {answer : Answer call} (answers : registry.Answers call answer registry) :
    ∃ (later : World) (further : Run), later.Reachable ∧ later.registry = registry ∧
      later.runs name = some further ∧ further.key = run.key ∧
      further.program = Program.resume next answer := by
  subst same
  exact ⟨_, run.told next answer, .move reachable (.call running asks answers), rfl, if_pos rfl,
    rfl, rfl⟩

private theorem publish_replace {limit : Nat} {key : Key} {shoot : Shoot} {state : ShootState}
    {found : Option ConfigMap} {text : String} {existing desired : ConfigMap}
    (wanted : Wanted key shoot state found text) (made : Artifact.desired shoot text = .ok desired)
    (merged : Artifact.merge existing desired = .ok (some object))
    (fits : Artifact.size object ≤ limit) :
    ∃ next, publish limit key shoot (some existing) state = .ask .clusterIdentity next ∧
      next found = .ask (.replace object) fun _ => .done .updated := by
  obtain ⟨authority, endpoints, identity, ready, identified, computed⟩ :=
    wanted_iff_computed.mp ⟨text, wanted, made⟩
  unfold publish gardenIdentity
  simp only [Program.bind_eq, ready, Program.ofExcept, Program.done_bind, Program.ask_bind]
  refine ⟨_, rfl, ?_⟩
  simp only [identified, computed, Program.done_bind]
  unfold write
  simp only [Program.bind_eq, merged, Artifact.ensureSize_eq_ok_iff.mpr fits, Program.ofExcept,
    Program.done_bind]

/-- A reconcile that passes every gate comes to its replacement if nobody interferes. -/
theorem World.Reachable.replaces {world : World} (reachable : world.Reachable) (name : Nat)
    {admission : Admission} {limit : Nat} {key : Key} {shoot : Shoot} {state : ShootState}
    {found : Option ConfigMap} {text : String} {existing desired : ConfigMap}
    (admitted : (admission.enter? key.namespaceName).isSome = true)
    (shootFiled : shoot.metadata.key = key) (shootStays : shoot.terminating = false)
    (stateStays : state.terminating = false)
    (stored : world.registry.configMaps.get? key.artifact = some existing)
    (wanted : Wanted key shoot state found text) (made : Artifact.desired shoot text = .ok desired)
    (merged : Artifact.merge existing desired = .ok (some object))
    (fits : Artifact.size object ≤ limit) :
    ∃ (later : World) (run : Run) (next : (Call.replace object).Reply → Program Outcome),
      later.Reachable ∧ later.registry = world.registry ∧ later.runs name = some run ∧
        run.key = key ∧ run.program = .ask (.replace object) next := by
  obtain ⟨next, published, replaces⟩ := publish_replace wanted made merged fits
  have shootTold : world.registry.Answers (.shoot key) (.ok (some shoot)) world.registry :=
    .told rfl (by simp) _ shootFiled
  have read : world.registry.Answers (.configMap key.artifact) (.ok (some existing))
      world.registry := by
    rw [← stored]
    exact .read key.artifact
  have stateTold : world.registry.Answers (.shootState key) (.ok (some state)) world.registry :=
    .told rfl (by simp) _ trivial
  have identityTold : world.registry.Answers .clusterIdentity (.ok found) world.registry := by
    refine .told rfl (by simp) _ ?_
    cases found <;> trivial
  have attempted : (Run.start admission limit key).program = reconcile limit key := by
    obtain ⟨entered, enters⟩ := Option.isSome_iff_exists.mp admitted
    simp [Run.start, attempt, enters]
  have started := reachable.move (.start name admission limit key)
  obtain ⟨_, _, reachable, same, running, keyFirst, program⟩ :=
    started.told rfl (if_pos rfl) attempted shootTold
  simp only [Program.resume, shootStays] at program
  obtain ⟨_, _, reachable, same, running, keySecond, program⟩ :=
    reachable.told same running program read
  obtain ⟨_, _, reachable, same, running, keyThird, program⟩ :=
    reachable.told same running program stateTold
  simp only [Program.resume, stateStays] at program
  obtain ⟨later, further, reachable, same, running, keyFourth, program⟩ :=
    reachable.told same running (program.trans published) identityTold
  refine ⟨later, further, _, reachable, same, running, ?_, program.trans replaces⟩
  rw [keyFourth, keyThird, keySecond, keyFirst]
  rfl

end Writes

namespace Sample

open Memory.Sample

def labelled : ConfigMap where
  metadata := {
    name := some "foo.kubeconfig"
    inNamespace? := some "garden-dev"
    labels := some (.singleton "team" "blue") }

def registry : Registry :=
  Registry.put { configMaps := .empty, issued := fun _ => False } labelled "1"

private theorem reachable_registry : World.Reachable ⟨registry, fun _ => none⟩ := by
  have sound : Registry.Sound { configMaps := .empty, issued := fun _ => False } := by
    intro key stored found
    cases found
  exact .move (.idle sound) (.put (.intro id))

private theorem replaces_labelled :
    ∃ (world : World) (run : Run) (object : ConfigMap)
      (next : (Call.replace object).Reply → Program Outcome),
      world.Reachable ∧ world.registry = registry ∧ world.runs 0 = some run ∧ run.key = key ∧
        run.program = .ask (.replace object) next ∧ ¬registry.Loses (.replace object) := by
  obtain ⟨text, wanted⟩ := exists_wanted_iff.mpr provided_garden
  obtain ⟨desired, made⟩ : ∃ desired, Artifact.desired shoot text = .ok desired := ⟨_, rfl⟩
  obtain ⟨object, merged⟩ :
      ∃ object, Artifact.merge (labelled.withVersion "1") desired = .ok (some object) := by
    obtain ⟨owner, _, rfl⟩ := Artifact.desired_eq_ok_iff.mp made
    refine ⟨_, Artifact.merge_eq_some_iff.mpr ⟨owner, rfl, rfl, rfl, ?_⟩⟩
    intro same
    cases congrArg ConfigMap.data same
  have found : registry.configMaps.get? key.artifact = some (labelled.withVersion "1") := rfl
  have inTime : ¬registry.Loses (.replace object) := by
    intro late
    have recalls := reachable_registry.sound.registry _ _ found
    exact (recalls.loses_replace_iff (Artifact.key_merge merged)
      (Artifact.resourceVersion_merge merged)).mp late found
  have admitted : (({ limit := 1 } : Admission).enter? key.namespaceName).isSome = true := rfl
  obtain ⟨world, run, next, reachable, same, running, sameKey, asks⟩ :=
    reachable_registry.replaces 0 admitted rfl rfl rfl found wanted made merged
      (Nat.le_refl (Artifact.size object))
  exact ⟨world, run, object, next, reachable, same, running, sameKey, asks, inTime⟩

end Sample

/-- Whatever else happens in a cluster, a reconcile loses no update of anybody. A replacement that
succeeds is made of what is stored right before it, a creation that succeeds finds nothing there,
and either comes too late exactly if what is stored is no longer what has been read: then nothing
is written, and the reconcile ends with a failure that may pass by itself. -/
theorem no_lost_update {world : World} (reachable : world.Reachable) {name : Nat} {run : Run}
    (running : world.runs name = some run) {call : Call} {next : call.Reply → Program Outcome}
    (asks : run.program = .ask call next) {answer : Answer call} {after : Registry}
    (answers : world.registry.Answers call answer after) :
    (∀ object, call = .replace object → answer.isOk = true →
      ∃ before stored shoot owner,
        world.registry.configMaps.get? run.key.artifact = some before ∧
        after.configMaps.get? run.key.artifact = some stored ∧
        (⟨.shoot run.key, .ok (some shoot)⟩ : Exchange) ∈ run.seen ∧
        Artifact.ownerReference shoot = .ok owner ∧
        Artifact.Overwrites before stored owner ∧
        (∃ version, stored.metadata.resourceVersion = some version ∧
          ¬world.registry.issued version) ∧
        ∀ other, other ≠ run.key.artifact →
          after.configMaps.get? other = world.registry.configMaps.get? other) ∧
    (∀ object, call = .create object → answer.isOk = true →
      object.metadata.key = run.key.artifact ∧
        world.registry.configMaps.get? run.key.artifact = none) ∧
    (∀ object, call = .create object ∨ call = .replace object →
      ∃ found, (⟨.configMap run.key.artifact, .ok found⟩ : Exchange) ∈ run.seen ∧
        (world.registry.Loses call ↔
          world.registry.configMaps.get? run.key.artifact ≠ found) ∧
        (world.registry.Loses call → after = world.registry ∧
          ∃ failure, (run.told next answer).program = .fail failure ∧
            failure.failureClass = .transient)) := by
  have sound : run.Sound world.registry := reachable.sound.runs name run running
  refine ⟨?_, ?_, ?_⟩
  · rintro object rfl succeeded
    obtain ⟨inTime, puts⟩ := Registry.puts_of_isOk (.inr rfl) answers succeeded
    obtain ⟨existing, desired, shoot, owner, _, recalls, shootRead, referred, rfl⟩ :=
      sound.replaces asks
    have sameKey : (Artifact.merged existing desired owner).metadata.key = run.key.artifact := by
      rw [Artifact.key_merged, recalls.key]
    have stillStored : world.registry.configMaps.get? run.key.artifact = some existing := by
      rw [recalls.loses_replace_iff sameKey rfl] at inTime
      exact Decidable.not_not.mp inTime
    cases puts with
    | @intro version fresh =>
        refine ⟨existing, (Artifact.merged existing desired owner).withVersion version, shoot,
          owner, stillStored, ?_, shootRead, referred,
          Artifact.overwrites_merged existing desired owner version, ⟨version, rfl, fresh⟩, ?_⟩
        · rw [Registry.get?_put, if_pos sameKey.symm]
        · intro other different
          rw [Registry.get?_put, if_neg]
          intro same
          exact different (same.trans sameKey)
  · rintro object rfl succeeded
    obtain ⟨inTime, _⟩ := Registry.puts_of_isOk (.inl rfl) answers succeeded
    obtain ⟨_, sameKey⟩ := sound.creates asks
    refine ⟨sameKey, ?_⟩
    rw [← sameKey]
    exact Decidable.not_not.mp inTime
  · intro object puts
    obtain ⟨found, read, changed⟩ := sound.loses_iff asks puts
    refine ⟨found, read, changed, ?_⟩
    intro late
    obtain ⟨unchanged, failure, rfl, transient⟩ := Registry.answers_of_loses late answers
    exact ⟨unchanged, failure, rfl, transient⟩

theorem no_lost_update_sample :
    ∃ (world : World) (run : Run) (stored : ConfigMap) (owner : OwnerReference),
      world.Reachable ∧ world.runs 0 = some run ∧
        world.registry.configMaps.get? run.key.artifact =
          some (Sample.labelled.withVersion "1") ∧
        Artifact.Overwrites (Sample.labelled.withVersion "1") stored owner := by
  obtain ⟨world, run, object, next, reachable, same, running, sameKey, asks, inTime⟩ :=
    Sample.replaces_labelled
  have fresh : ¬Sample.registry.issued "2" := by
    rintro (first | never)
    · exact absurd first (by decide)
    · exact never
  have answers : world.registry.Answers (.replace object) (.ok ())
      (Sample.registry.put object "2") := by
    rw [same]
    exact .replaced inTime (.intro fresh)
  obtain ⟨replaced, _, _⟩ := no_lost_update reachable running asks answers
  obtain ⟨before, stored, _, owner, found, _, _, _, overwrites, _, _⟩ := replaced object rfl rfl
  have stillLabelled : before = Sample.labelled.withVersion "1" := by
    rw [same, sameKey] at found
    exact (Option.some.inj found).symm
  subst stillLabelled
  exact ⟨world, run, stored, owner, reachable, running, found, overwrites⟩

end ShootKubeconfig.Cluster
