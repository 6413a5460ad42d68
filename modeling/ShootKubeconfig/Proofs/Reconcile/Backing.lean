import Mathlib.Tactic.MkIffOfInductiveProp
import ShootKubeconfig.Cluster.Garden
import ShootKubeconfig.Proofs.Artifact.Merge
import ShootKubeconfig.Proofs.Reconcile.Course
import ShootKubeconfig.Proofs.Reconcile.Wanted

/-!
What a reconcile has read before it writes, in a cluster that may answer anything.

Others may change the cluster between two calls, and any call may fail. A reconcile writes at most
once, as its last call, only on the ground of what it has read itself, and it tells what it wrote.
-/

namespace ShootKubeconfig.Reconcile

/-- How a reconcile ends that succeeds with a write as its last call. -/
def Call.written? : Call → Option Outcome
  | .create _ => some .created
  | .replace _ => some .updated
  | .delete _ => some .cleanup
  | _ => none

@[simp] theorem Call.written?_isSome (call : Call) : call.written?.isSome = call.isWrite := by
  cases call <;> rfl

def Outcome.hasWritten : Outcome → Bool
  | .created | .updated | .cleanup => true
  | _ => false

/-- An object that is returned for a key is kept under it. -/
def Exchange.Filed : Exchange → Prop
  | ⟨.shoot key, .ok (some shoot)⟩ => shoot.metadata.key = key
  | ⟨.configMap key, .ok (some configMap)⟩ => configMap.metadata.key = key
  | _ => True

def Unwritten (seen : List Exchange) : Prop :=
  ∀ exchange ∈ seen, exchange.call.isWrite = false

def QuotasUnread (seen : List Exchange) : Prop :=
  ∀ exchange ∈ seen, ∀ namespaceName, exchange.call ≠ .resourceQuotas namespaceName

/-- A shoot and its state have been read, neither of them about to go, and with the identity of the
garden they ask for an object. -/
def AskedFor (key : Key) (seen : List Exchange) (object : ConfigMap) : Prop :=
  ∃ shoot state found text,
    (⟨.shoot key, .ok (some shoot)⟩ : Exchange) ∈ seen ∧ shoot.terminating = false ∧
      (⟨.shootState key, .ok (some state)⟩ : Exchange) ∈ seen ∧ state.terminating = false ∧
      (⟨.clusterIdentity, .ok found⟩ : Exchange) ∈ seen ∧
      Wanted key shoot state found text ∧ Artifact.desired shoot text = .ok object

/-- A shoot or its state has been read as absent, or as about to go. -/
def Gone (key : Key) (seen : List Exchange) : Prop :=
  (∃ found : Option Shoot, (⟨.shoot key, .ok found⟩ : Exchange) ∈ seen ∧
    ∀ shoot, found = some shoot → shoot.terminating = true) ∨
  ∃ found : Option ShootState, (⟨.shootState key, .ok found⟩ : Exchange) ∈ seen ∧
    ∀ state, found = some state → state.terminating = true

/-- There is room for what has been read under the key of the kubeconfig: an object that is there
needs none, and without one the quotas have been asked. -/
def HasRoom (key : Key) (seen : List Exchange) : Option ConfigMap → Prop
  | some existing =>
      (⟨.configMap key.artifact, .ok (some existing)⟩ : Exchange) ∈ seen ∧ QuotasUnread seen
  | none =>
      (⟨.configMap key.artifact, .ok none⟩ : Exchange) ∈ seen ∧
        ∃ quotas, (⟨.resourceQuotas key.namespaceName, .ok quotas⟩ : Exchange) ∈ seen ∧
          Quota.hasCapacity Quota.configMapCount quotas = .ok true

/-- What a call rests on. -/
def Backed (limit : Nat) (key : Key) (seen : List Exchange) : Call → Prop
  | .shoot asked | .shootState asked => asked = key
  | .configMap asked => asked = key.artifact
  | .resourceQuotas namespaceName => namespaceName = key.namespaceName
  | .clusterIdentity => True
  | .create object =>
      HasRoom key seen none ∧ AskedFor key seen object ∧ Artifact.size object ≤ limit
  | .replace object =>
      ∃ existing desired,
        HasRoom key seen (some existing) ∧ AskedFor key seen desired ∧
          Artifact.merge existing desired = .ok (some object) ∧
          object.metadata.resourceVersion = existing.metadata.resourceVersion ∧
          Artifact.size object ≤ limit
  | .delete target => target = key.artifact ∧ Gone key seen

/-- A call is due if nothing has been written before it and it is backed. -/
structure Due (limit : Nat) (key : Key) (seen : List Exchange) (call : Call) : Prop where
  unwritten : Unwritten seen
  backed : Backed limit key seen call

/-- The exchange with which a reconcile ends that has written. -/
@[mk_iff]
inductive Written : Outcome → Exchange → Prop
  | created (object : ConfigMap) : Written .created ⟨.create object, .ok ()⟩
  | updated (object : ConfigMap) : Written .updated ⟨.replace object, .ok ()⟩
  | cleanup (target : Key) (existed : Bool) : Written .cleanup ⟨.delete target, .ok existed⟩

/-- A reconcile that writes ends with that, and its result is the answer. -/
inductive Concluded (seen : List Exchange) : Result → Prop
  | unwritten {result : Result} (unwritten : Unwritten seen)
      (idle : ∀ outcome, result = .ok outcome → outcome.hasWritten = false) :
      Concluded seen result
  | written {before : List Exchange} {call : Call} {outcome : Outcome} (answer : Answer call)
      (unwritten : Unwritten before) (split : seen = before ++ [⟨call, answer⟩])
      (writes : call.written? = some outcome) : Concluded seen (answer.map fun _ => outcome)

theorem Unwritten.append {seen : List Exchange} (unwritten : Unwritten seen) {call : Call}
    (reads : call.isWrite = false) (answer : Answer call) :
    Unwritten (seen ++ [⟨call, answer⟩]) := by
  intro exchange member
  rcases List.mem_append.mp member with earlier | last
  · exact unwritten exchange earlier
  · rw [List.mem_singleton.mp last]
    exact reads

theorem QuotasUnread.append {seen : List Exchange} (unread : QuotasUnread seen) {call : Call}
    (other : ∀ namespaceName, call ≠ .resourceQuotas namespaceName) (answer : Answer call) :
    QuotasUnread (seen ++ [⟨call, answer⟩]) := by
  intro exchange member
  rcases List.mem_append.mp member with earlier | last
  · exact unread exchange earlier
  · rw [List.mem_singleton.mp last]
    exact other

theorem HasRoom.append {key : Key} {seen : List Exchange} {existing : Option ConfigMap}
    (room : HasRoom key seen existing) {call : Call}
    (other : ∀ namespaceName, call ≠ .resourceQuotas namespaceName) (answer : Answer call) :
    HasRoom key (seen ++ [⟨call, answer⟩]) existing := by
  cases existing with
  | some existing => exact ⟨List.mem_append_left _ room.1, room.2.append other answer⟩
  | none =>
      obtain ⟨absent, quotas, read, capacity⟩ := room
      exact ⟨List.mem_append_left _ absent, quotas, List.mem_append_left _ read, capacity⟩

theorem mem_append_self (seen : List Exchange) (exchange : Exchange) :
    exchange ∈ seen ++ [exchange] :=
  List.mem_append_right seen List.mem_cons_self

private theorem concluded_failure {seen : List Exchange} (unwritten : Unwritten seen) (failure : Failure) :
    Concluded seen (.error failure) :=
  .unwritten unwritten (by simp)

private theorem concluded_unwritten {seen : List Exchange} {outcome : Outcome}
    (unwritten : Unwritten seen) (idle : outcome.hasWritten = false) :
    Concluded seen (.ok outcome) := by
  refine .unwritten unwritten ?_
  intro other same
  cases same
  exact idle

section Upholds

variable {limit : Nat} {key : Key} {seen : List Exchange} {shoot : Shoot} {state : ShootState}
  {existing : Option ConfigMap} {object : ConfigMap}

private theorem upholds_writing {call : Call} {outcome : Outcome} (due : Due limit key seen call)
    (writes : call.written? = some outcome) :
    Program.Upholds (Due limit key) Concluded seen (.ask call fun _ => .done outcome) := by
  refine .ask due ?_ ?_
  · intro failure
    exact .written (.error failure) due.unwritten rfl writes
  · intro reply
    exact .done (.written (.ok reply) due.unwritten rfl writes)

private theorem upholds_cleanup (unwritten : Unwritten seen) (gone : Gone key seen) :
    Program.Upholds (Due limit key) Concluded seen (cleanup key) :=
  upholds_writing ⟨unwritten, rfl, gone⟩ rfl

private theorem upholds_write (unwritten : Unwritten seen) (room : HasRoom key seen existing)
    (asked : AskedFor key seen object) :
    Program.Upholds (Due limit key) Concluded seen (write limit existing object) := by
  cases existing with
  | none =>
      unfold write
      simp only [Program.bind_eq]
      apply Program.upholds_ofExcept_bind
      · intro failure _
        exact concluded_failure unwritten failure
      · intro _ sized
        have fits : Artifact.size object ≤ limit := Artifact.ensureSize_eq_ok_iff.mp sized
        exact upholds_writing ⟨unwritten, room, asked, fits⟩ rfl
  | some existing =>
      unfold write
      simp only [Program.bind_eq]
      apply Program.upholds_ofExcept_bind
      · intro failure _
        exact concluded_failure unwritten failure
      · intro merge merged
        cases merge with
        | none => exact .done (concluded_unwritten unwritten (by decide))
        | some result =>
            apply Program.upholds_ofExcept_bind
            · intro failure _
              exact concluded_failure unwritten failure
            · intro _ sized
              have fits : Artifact.size result ≤ limit := Artifact.ensureSize_eq_ok_iff.mp sized
              have sameVersion := Artifact.resourceVersion_merge merged
              exact upholds_writing
                ⟨unwritten, existing, object, room, asked, merged, sameVersion, fits⟩ rfl

private theorem upholds_publish (unwritten : Unwritten seen) (room : HasRoom key seen existing)
    (shootRead : (⟨.shoot key, .ok (some shoot)⟩ : Exchange) ∈ seen)
    (shootStays : shoot.terminating = false)
    (stateRead : (⟨.shootState key, .ok (some state)⟩ : Exchange) ∈ seen)
    (stateStays : state.terminating = false) :
    Program.Upholds (Due limit key) Concluded seen (publish limit key shoot existing state) := by
  unfold publish
  simp only [Program.bind_eq]
  apply Program.upholds_ofExcept_bind
  · intro failure _
    exact concluded_failure unwritten failure
  · intro readiness computed
    cases readiness with
    | postponed outcome =>
        refine .done (concluded_unwritten unwritten ?_)
        rcases postponed_of_readiness computed with rfl | rfl <;> rfl
    | ready authority endpoints =>
        have stillUnwritten (answer : Answer .clusterIdentity) :
            Unwritten (seen ++ [⟨.clusterIdentity, answer⟩]) := unwritten.append rfl answer
        refine .ask ⟨unwritten, trivial⟩ ?_ ?_
        · intro failure
          exact concluded_failure (stillUnwritten (.error failure)) failure
        · intro found
          apply Program.upholds_ofExcept_bind
          · intro failure _
            exact concluded_failure (stillUnwritten (.ok found)) failure
          · intro identity identified
            apply Program.upholds_ofExcept_bind
            · intro failure _
              exact concluded_failure (stillUnwritten (.ok found)) failure
            · intro object made
              obtain ⟨text, wanted, desired⟩ := wanted_iff_computed.mpr
                ⟨authority, endpoints, identity, computed, identified, made⟩
              refine upholds_write (stillUnwritten (.ok found)) (room.append (by simp) _) ?_
              exact ⟨shoot, state, found, text, List.mem_append_left _ shootRead, shootStays,
                List.mem_append_left _ stateRead, stateStays, mem_append_self seen _, wanted,
                desired⟩

private theorem upholds_reconcileState (unwritten : Unwritten seen) (room : HasRoom key seen existing)
    (shootRead : (⟨.shoot key, .ok (some shoot)⟩ : Exchange) ∈ seen)
    (shootStays : shoot.terminating = false) :
    Program.Upholds (Due limit key) Concluded seen (reconcileState limit key shoot existing) := by
  refine .ask ⟨unwritten, rfl⟩ ?_ ?_
  · intro failure
    exact concluded_failure (unwritten.append rfl _) failure
  · intro found
    cases found with
    | none =>
        refine upholds_cleanup (unwritten.append rfl _) (.inr ⟨none, mem_append_self seen _, ?_⟩)
        simp
    | some state =>
        dsimp only
        split
        next leaving =>
            refine upholds_cleanup (unwritten.append rfl _)
              (.inr ⟨some state, mem_append_self seen _, ?_⟩)
            simpa using leaving
        next staying =>
            exact upholds_publish (unwritten.append rfl _) (room.append (by simp) _)
              (List.mem_append_left _ shootRead) shootStays (mem_append_self seen _)
              (eq_false_of_ne_true staying)

private theorem upholds_reconcileShoot (unwritten : Unwritten seen) (unread : QuotasUnread seen)
    (shootRead : (⟨.shoot key, .ok (some shoot)⟩ : Exchange) ∈ seen)
    (shootStays : shoot.terminating = false) :
    Program.Upholds (Due limit key) Concluded seen (reconcileShoot limit key shoot) := by
  refine .ask ⟨unwritten, rfl⟩ ?_ ?_
  · intro failure
    exact concluded_failure (unwritten.append rfl _) failure
  · intro found
    have asked := mem_append_self seen ⟨.configMap key.artifact, .ok found⟩
    have stillUnwritten : Unwritten (seen ++ [⟨.configMap key.artifact, .ok found⟩]) :=
      unwritten.append rfl (.ok found)
    have stillRead := List.mem_append_left [⟨.configMap key.artifact, .ok found⟩] shootRead
    cases found with
    | some existing =>
        exact upholds_reconcileState stillUnwritten ⟨asked, unread.append (by simp) _⟩ stillRead
          shootStays
    | none =>
        refine .ask ⟨stillUnwritten, rfl⟩ ?_ ?_
        · intro failure
          exact concluded_failure (stillUnwritten.append rfl _) failure
        · intro quotas
          apply Program.upholds_ofExcept_bind
          · intro failure _
            exact concluded_failure (stillUnwritten.append rfl _) failure
          · intro capacity computed
            cases capacity with
            | false => exact .done (concluded_unwritten (stillUnwritten.append rfl _) rfl)
            | true =>
                refine upholds_reconcileState (stillUnwritten.append rfl _) ?_
                  (List.mem_append_left _ stillRead) shootStays
                exact ⟨List.mem_append_left _ asked, quotas, mem_append_self _ _,
                  mapError_eq_ok_iff.mp computed⟩

private theorem upholds_reconcile : Program.Upholds (Due limit key) Concluded [] (reconcile limit key) := by
  have nothingWritten : Unwritten [] := by simp [Unwritten]
  refine .ask ⟨nothingWritten, rfl⟩ ?_ ?_
  · intro failure
    exact concluded_failure (nothingWritten.append rfl _) failure
  · intro found
    have asked := mem_append_self [] ⟨.shoot key, .ok found⟩
    cases found with
    | none =>
        refine upholds_cleanup (nothingWritten.append rfl _) (.inl ⟨none, asked, ?_⟩)
        simp
    | some shoot =>
        dsimp only
        split
        next leaving =>
            refine upholds_cleanup (nothingWritten.append rfl _) (.inl ⟨some shoot, asked, ?_⟩)
            simpa using leaving
        next staying =>
            exact upholds_reconcileShoot (nothingWritten.append rfl _) (by simp [QuotasUnread])
              asked (eq_false_of_ne_true staying)

variable (limit key) in
theorem upholds_attempt (admission : Admission) :
    Program.Upholds (Due limit key) Concluded [] (attempt admission limit key) := by
  unfold attempt
  cases admission.enter? key.namespaceName with
  | none => exact .done (concluded_unwritten (by simp [Unwritten]) rfl)
  | some admitted => exact upholds_reconcile

end Upholds

section Concluded

variable {exchanges : List Exchange} {result : Result}

private theorem Unwritten.written?_eq_none {seen : List Exchange} (unwritten : Unwritten seen)
    {exchange : Exchange} (member : exchange ∈ seen) : exchange.call.written? = none := by
  rw [← Option.not_isSome_iff_eq_none, Call.written?_isSome, unwritten exchange member]
  decide

theorem Concluded.last (concluded : Concluded exchanges result) {before after : List Exchange}
    {exchange : Exchange} (split : exchanges = before ++ exchange :: after)
    (writes : exchange.call.isWrite = true) : after = [] := by
  cases concluded with
  | unwritten unwritten idle =>
      have reads := unwritten exchange (by simp [split])
      rw [writes] at reads
      cases reads
  | @written earlier call outcome answer unwritten splitLast writesLast =>
      rw [split] at splitLast
      rcases List.eq_nil_or_concat after with rfl | ⟨others, final, rfl⟩
      · rfl
      · -- one that is not last would be among the exchanges before the write
        have joined : (before ++ exchange :: others) ++ [final] = earlier ++ [⟨call, answer⟩] := by
          simpa using splitLast
        have sameEarlier : before ++ exchange :: others = earlier :=
          (List.append_inj' joined rfl).1
        have reads := unwritten exchange (by simp [← sameEarlier])
        rw [writes] at reads
        cases reads

theorem Concluded.writes_length (concluded : Concluded exchanges result) :
    (exchanges.filter fun exchange => exchange.call.isWrite).length ≤ 1 := by
  have none_of {seen : List Exchange} (unwritten : Unwritten seen) :
      (seen.filter fun exchange => exchange.call.isWrite) = [] := by
    rw [List.filter_eq_nil_iff]
    intro exchange member
    simp [unwritten exchange member]
  cases concluded with
  | unwritten unwritten idle => simp [none_of unwritten]
  | written answer unwritten split writes =>
      rw [split, List.filter_append, none_of unwritten]
      exact List.length_filter_le _ _

private theorem written_ok_iff {call : Call} {reply : call.Reply} {outcome : Outcome} :
    Written outcome ⟨call, .ok reply⟩ ↔ call.written? = some outcome := by
  constructor
  · rintro (_ | _ | _) <;> rfl
  · intro writes
    cases call with
    | create object => cases writes; exact .created object
    | replace object => cases writes; exact .updated object
    | delete target => cases writes; exact .cleanup target reply
    | _ => cases writes

private theorem Written.written?_eq {exchange : Exchange} {outcome : Outcome}
    (written : Written outcome exchange) : exchange.call.written? = some outcome := by
  cases written <;> rfl

theorem Concluded.result_iff (concluded : Concluded exchanges result) {outcome : Outcome}
    (hasWritten : outcome.hasWritten = true) :
    result = .ok outcome ↔ ∃ exchange ∈ exchanges, Written outcome exchange := by
  cases concluded with
  | unwritten unwritten idle =>
      constructor
      · intro same
        rw [idle outcome same] at hasWritten
        cases hasWritten
      · rintro ⟨exchange, member, written⟩
        have writes := written.written?_eq
        rw [unwritten.written?_eq_none member] at writes
        cases writes
  | @written before call other answer unwritten split writes =>
      constructor
      · intro same
        cases answer with
        | error failure => cases same
        | ok reply =>
            cases same
            exact ⟨⟨call, .ok reply⟩, by simp [split], written_ok_iff.mpr writes⟩
      · rintro ⟨exchange, member, written⟩
        rw [split] at member
        rcases List.mem_append.mp member with earlier | final
        · have writesOutcome := written.written?_eq
          rw [unwritten.written?_eq_none earlier] at writesOutcome
          cases writesOutcome
        · cases List.mem_singleton.mp final
          cases answer with
          | error failure => cases written
          | ok reply =>
              cases writes.symm.trans (written_ok_iff.mp written)
              rfl

end Concluded

theorem Backed.target {limit : Nat} {key : Key} {before : List Exchange} {call : Call}
    (backed : Backed limit key before call) (filed : ∀ exchange ∈ before, exchange.Filed)
    (writes : call.isWrite = true) : Cluster.Garden.target? call = some key.artifact := by
  cases call with
  | create object =>
      obtain ⟨_, ⟨shoot, _, _, text, shootRead, _, _, _, _, _, made⟩, _⟩ := backed
      have shootFiled : shoot.metadata.key = key := filed _ shootRead
      show some object.metadata.key = _
      rw [Artifact.key_desired made, shootFiled]
  | replace object =>
      obtain ⟨existing, _, room, _, merged, _, _⟩ := backed
      have existingFiled : existing.metadata.key = key.artifact := filed _ room.1
      show some object.metadata.key = _
      rw [Artifact.key_merge merged, existingFiled]
  | delete target => exact congrArg some backed.1
  | _ => cases writes

/-- Whatever a cluster answers, a reconcile writes at most once, last of all, under the key of the
kubeconfig and on the ground of what it has read itself; its result tells of the write if that has
succeeded, and only then. -/
theorem write_backed (admission : Admission) (limit : Nat) (key : Key)
    {exchanges : List Exchange} {result : Result}
    (course : Program.Course (attempt admission limit key) exchanges result)
    (filed : ∀ exchange ∈ exchanges, exchange.Filed) :
    (exchanges.filter fun exchange => exchange.call.isWrite).length ≤ 1 ∧
      (∀ before exchange after, exchanges = before ++ exchange :: after →
        exchange.call.isWrite = true →
          after = [] ∧ Cluster.Garden.target? exchange.call = some key.artifact ∧
            Backed limit key before exchange.call) ∧
      (result = .ok .created ↔ ∃ object, (⟨.create object, .ok ()⟩ : Exchange) ∈ exchanges) ∧
      (result = .ok .updated ↔ ∃ object, (⟨.replace object, .ok ()⟩ : Exchange) ∈ exchanges) ∧
      (result = .ok .cleanup ↔
        ∃ target existed, (⟨.delete target, .ok existed⟩ : Exchange) ∈ exchanges) ∧
      (result ≠ .ok .created → result ≠ .ok .updated → result ≠ .ok .cleanup →
        ∀ exchange ∈ exchanges, exchange.call.isWrite = true →
          ∃ failure, exchange.answer = .error failure) := by
  have upheld := upholds_attempt limit key admission
  have concluded : Concluded exchanges result := upheld.ends_course course
  refine ⟨concluded.writes_length, ?_, ?_, ?_, ?_, ?_⟩
  · intro before exchange after split writes
    have backed : Backed limit key before exchange.call := (upheld.due_course course split).backed
    have filedBefore : ∀ exchange ∈ before, exchange.Filed := by
      intro earlier member
      exact filed earlier (by simp [split, member])
    exact ⟨concluded.last split writes, backed.target filedBefore writes, backed⟩
  · rw [concluded.result_iff rfl]
    simp [written_iff]
  · rw [concluded.result_iff rfl]
    simp [written_iff]
  · rw [concluded.result_iff rfl]
    constructor
    · rintro ⟨_, member, written⟩
      cases written
      exact ⟨_, _, member⟩
    · rintro ⟨target, existed, member⟩
      exact ⟨_, member, .cleanup target existed⟩
  · rintro notCreated notUpdated notCleanedUp ⟨call, answer⟩ member writes
    cases answer with
    | error failure => exact ⟨failure, rfl⟩
    | ok reply =>
        exfalso
        have ended {outcome : Outcome} (written : Written outcome ⟨call, .ok reply⟩)
            (hasWritten : outcome.hasWritten = true) : result = .ok outcome :=
          (concluded.result_iff hasWritten).mpr ⟨_, member, written⟩
        cases call with
        | create object => exact notCreated (ended (.created object) rfl)
        | replace object => exact notUpdated (ended (.updated object) rfl)
        | delete target => exact notCleanedUp (ended (.cleanup target reply) rfl)
        | _ => cases writes

theorem write_backed_stateless :
    let key : Key := ⟨"garden-dev", "foo"⟩
    let shoot : Shoot := {
      metadata := { name := some "foo", inNamespace? := some "garden-dev" }
      kubernetesVersion := "1.27.3" }
    let before : List Exchange := [
      ⟨.shoot key, .ok (some shoot)⟩, ⟨.configMap key.artifact, .ok none⟩,
      ⟨.resourceQuotas "garden-dev", .ok []⟩, ⟨.shootState key, .ok none⟩]
    Cluster.Garden.target? (.delete key.artifact) = some key.artifact ∧
      Backed 0 key before (.delete key.artifact) := by
  intro key shoot before
  have course : Program.Course (attempt { limit := 1 } 0 key)
      (before ++ [⟨.delete key.artifact, .ok false⟩]) (.ok .cleanup) := by
    refine .ask (.ok (some shoot) : Answer (.shoot key)) ?_
    refine .ask (.ok none : Answer (.configMap key.artifact)) ?_
    refine .ask (.ok [] : Answer (.resourceQuotas "garden-dev")) ?_
    refine .ask (.ok none : Answer (.shootState key)) ?_
    refine .ask (.ok false : Answer (.delete key.artifact)) ?_
    exact .done Outcome.cleanup
  obtain ⟨_, writes, _, _, _, _⟩ := write_backed { limit := 1 } 0 key course (by
    intro exchange member
    simp only [before, List.cons_append, List.nil_append, List.mem_cons, List.not_mem_nil,
      or_false] at member
    rcases member with rfl | rfl | rfl | rfl | rfl
    · rfl
    all_goals trivial)
  exact (writes before _ [] rfl rfl).2

end ShootKubeconfig.Reconcile
