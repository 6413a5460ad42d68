import ShootKubeconfig.Proofs.Cluster.EndState
import ShootKubeconfig.Proofs.Endpoints
import ShootKubeconfig.Proofs.Kubeconfig.Defect
import ShootKubeconfig.Proofs.Reconcile.Backing

/-!
How a reconcile ends that has come as far as to build a kubeconfig.

Everything but the identity of the garden has been computed by the time it is asked for. From then
on the request is fixed, and a defect of it ends the reconcile without a write.
-/

namespace ShootKubeconfig.Reconcile

def OnlyReply (call : Call) (reply : call.Reply) (seen : List Exchange) : Prop :=
  ∀ other, (⟨call, .ok other⟩ : Exchange) ∈ seen → other = reply

def Unanswered (call : Call) (seen : List Exchange) : Prop :=
  ∀ reply, (⟨call, .ok reply⟩ : Exchange) ∉ seen

/-- With the shoot and the identity that have been read, the request is fixed, and if there is no
object for it then the reconcile fails for the same reason and has written nothing. -/
def Submitted (key : Key) (seen : List Exchange) (result : Result) : Prop :=
  ∀ shoot found identity, (⟨.shoot key, .ok (some shoot)⟩ : Exchange) ∈ seen →
    (⟨.clusterIdentity, .ok found⟩ : Exchange) ∈ seen → identityIn found = .ok identity →
      ∃ authority endpoints, shoot.endpoints = .ok endpoints ∧
        ∀ failure, desired shoot (request key authority endpoints identity) = .error failure →
          result = .error failure ∧ Unwritten seen

section Seen

variable {call : Call} {seen : List Exchange}

private theorem mem_of_mem_append {exchange : Exchange} {answer : Answer call}
    (different : exchange.call ≠ call) (member : exchange ∈ seen ++ [⟨call, answer⟩]) :
    exchange ∈ seen := by
  rcases List.mem_append.mp member with earlier | last
  · exact earlier
  · rw [List.mem_singleton.mp last] at different
    exact absurd rfl different

theorem OnlyReply.append {other : Call} {reply : call.Reply} (only : OnlyReply call reply seen)
    (different : call ≠ other) (answer : Answer other) :
    OnlyReply call reply (seen ++ [⟨other, answer⟩]) := by
  intro further member
  exact only further (mem_of_mem_append different member)

theorem Unanswered.append {other : Call} (unanswered : Unanswered call seen)
    (different : call ≠ other) (answer : Answer other) :
    Unanswered call (seen ++ [⟨other, answer⟩]) := by
  intro reply member
  exact unanswered reply (mem_of_mem_append different member)

theorem Unanswered.onlyReply (unanswered : Unanswered call seen) (reply : call.Reply) :
    OnlyReply call reply (seen ++ [⟨call, .ok reply⟩]) := by
  intro other member
  rcases List.mem_append.mp member with earlier | last
  · exact absurd earlier (unanswered other)
  · cases List.mem_singleton.mp last
    rfl

theorem Unanswered.refused (unanswered : Unanswered call seen) (failure : Failure) :
    Unanswered call (seen ++ [⟨call, .error failure⟩]) := by
  intro other member
  rcases List.mem_append.mp member with earlier | last
  · exact unanswered other earlier
  · cases List.mem_singleton.mp last

end Seen

/-- Nothing has been written and the identity has not been answered yet. -/
structure Preparing (key : Key) (shoot : Shoot) (seen : List Exchange) : Prop where
  unwritten : Unwritten seen
  unidentified : Unanswered .clusterIdentity seen
  shootRead : OnlyReply (.shoot key) (some shoot) seen

theorem Preparing.append {key : Key} {shoot : Shoot} {seen : List Exchange}
    (preparing : Preparing key shoot seen) {call : Call} (reads : call.isWrite = false)
    (notIdentity : Call.clusterIdentity ≠ call) (notShoot : Call.shoot key ≠ call)
    (answer : Answer call) : Preparing key shoot (seen ++ [⟨call, answer⟩]) where
  unwritten := preparing.unwritten.append reads answer
  unidentified := preparing.unidentified.append notIdentity answer
  shootRead := preparing.shootRead.append notShoot answer

def Anything (_ : List Exchange) (_ : Call) : Prop := True

section Submitted

variable {limit : Nat} {key : Key} {shoot : Shoot} {state : ShootState}
  {existing : Option ConfigMap} {seen : List Exchange}

private theorem submitted_of_unidentified (unidentified : Unanswered .clusterIdentity seen)
    (result : Result) : Submitted key seen result := by
  intro shoot found identity _ identityRead
  exact absurd identityRead (unidentified found)

private theorem submitted_of_read {found : Option ConfigMap} {identity : String} {authority : Octets}
    {endpoints : List Kubeconfig.Endpoint} {result : Result}
    (shootRead : OnlyReply (.shoot key) (some shoot) seen)
    (identityRead : OnlyReply .clusterIdentity found seen)
    (reachable : shoot.endpoints = .ok endpoints) (identified : identityIn found = .ok identity)
    (failed : ∀ failure, desired shoot (request key authority endpoints identity) =
      .error failure → result = .error failure ∧ Unwritten seen) :
    Submitted key seen result := by
  intro otherShoot otherFound otherIdentity shootMember identityMember otherIdentified
  cases shootRead _ shootMember
  cases identityRead _ identityMember
  cases identified.symm.trans otherIdentified
  exact ⟨authority, endpoints, reachable, failed⟩

private theorem upholds_call {call : Call} {outcome : Outcome} {ends : List Exchange → Result → Prop}
    (ended : ∀ (answer : Answer call) (result : Result), ends (seen ++ [⟨call, answer⟩]) result) :
    Program.Upholds Anything ends seen (.ask call fun _ => .done outcome) :=
  .ask trivial (fun _ => ended _ _) fun _ => .done (ended _ _)

private theorem submits_cleanup (unidentified : Unanswered .clusterIdentity seen) :
    Program.Upholds Anything (Submitted key) seen (cleanup key) := by
  apply upholds_call
  intro answer result
  exact submitted_of_unidentified (unidentified.append (by simp) answer) result

private theorem submits_write {object : ConfigMap} (unwritten : ∀ result, Submitted key seen result)
    (written : ∀ (call : Call) (answer : Answer call) (result : Result), call.isWrite = true →
      Submitted key (seen ++ [⟨call, answer⟩]) result) :
    Program.Upholds Anything (Submitted key) seen (write limit existing object) := by
  cases existing with
  | none =>
      apply Program.upholds_ofExcept_bind
      · intro failure _
        exact unwritten _
      · intro _ _
        exact upholds_call fun answer result => written _ answer result rfl
  | some existing =>
      apply Program.upholds_ofExcept_bind
      · intro failure _
        exact unwritten _
      · intro merged _
        cases merged with
        | none => exact .done (unwritten _)
        | some merged =>
            apply Program.upholds_ofExcept_bind
            · intro failure _
              exact unwritten _
            · intro _ _
              exact upholds_call fun answer result => written _ answer result rfl

private theorem submits_publish (preparing : Preparing key shoot seen) :
    Program.Upholds Anything (Submitted key) seen (publish limit key shoot existing state) := by
  unfold publish
  simp only [Program.bind_eq]
  apply Program.upholds_ofExcept_bind
  · intro failure _
    exact submitted_of_unidentified preparing.unidentified _
  · intro readiness computed
    cases readiness with
    | postponed outcome => exact .done (submitted_of_unidentified preparing.unidentified _)
    | ready authority endpoints =>
        obtain ⟨_, _, _, reachable⟩ := readiness_eq_ready_iff.mp computed
        refine .ask trivial ?_ ?_
        · intro failure
          exact submitted_of_unidentified (preparing.unidentified.refused failure) _
        · intro found
          have unwritten := preparing.unwritten.append rfl (.ok found : Answer .clusterIdentity)
          have identityRead := preparing.unidentified.onlyReply found
          have shootRead :=
            preparing.shootRead.append (by simp) (.ok found : Answer .clusterIdentity)
          apply Program.upholds_ofExcept_bind
          · intro failure unidentified _ otherFound identity _ otherRead identified
            rw [identityRead otherFound otherRead, unidentified] at identified
            cases identified
          · intro identity identified
            apply Program.upholds_ofExcept_bind
            · intro failure computed
              apply submitted_of_read shootRead identityRead reachable identified
              intro other otherComputed
              cases computed.symm.trans otherComputed
              exact ⟨rfl, unwritten⟩
            · intro object computed
              have succeeded (failure : Failure) :
                  desired shoot (request key authority endpoints identity) ≠ .error failure := by
                simp [computed]
              apply submits_write
              · intro result
                apply submitted_of_read shootRead identityRead reachable identified
                intro failure failed
                exact absurd failed (succeeded failure)
              · intro call answer result writes
                apply submitted_of_read (shootRead.append _ answer) (identityRead.append _ answer)
                  reachable identified
                · intro failure failed
                  exact absurd failed (succeeded failure)
                · rintro rfl
                  cases writes
                · rintro rfl
                  cases writes

private theorem submits_reconcileState (preparing : Preparing key shoot seen) :
    Program.Upholds Anything (Submitted key) seen (reconcileState limit key shoot existing) := by
  refine .ask trivial ?_ ?_
  · intro failure
    exact submitted_of_unidentified (preparing.unidentified.append (by simp) _) _
  · intro found
    have still := preparing.append rfl (by simp) (by simp) (.ok found : Answer (.shootState key))
    cases found with
    | none => exact submits_cleanup still.unidentified
    | some state =>
        dsimp only
        split
        · exact submits_cleanup still.unidentified
        · exact submits_publish still

private theorem submits_reconcileShoot (preparing : Preparing key shoot seen) :
    Program.Upholds Anything (Submitted key) seen (reconcileShoot limit key shoot) := by
  refine .ask trivial ?_ ?_
  · intro failure
    exact submitted_of_unidentified (preparing.unidentified.append (by simp) _) _
  · intro found
    have still :=
      preparing.append rfl (by simp) (by simp) (.ok found : Answer (.configMap key.artifact))
    cases found with
    | some existing => exact submits_reconcileState still
    | none =>
        refine .ask trivial ?_ ?_
        · intro failure
          exact submitted_of_unidentified (still.unidentified.append (by simp) _) _
        · intro quotas
          have after := still.append rfl (by simp) (by simp)
            (.ok quotas : Answer (.resourceQuotas key.namespaceName))
          apply Program.upholds_ofExcept_bind
          · intro failure _
            exact submitted_of_unidentified after.unidentified _
          · intro capacity _
            cases capacity with
            | false => exact .done (submitted_of_unidentified after.unidentified _)
            | true => exact submits_reconcileState after

theorem submits_attempt (admission : Admission) :
    Program.Upholds Anything (Submitted key) [] (attempt admission limit key) := by
  have start : Unanswered .clusterIdentity [] := by simp [Unanswered]
  unfold attempt
  cases admission.enter? key.namespaceName with
  | none => exact .done (submitted_of_unidentified start _)
  | some admitted =>
      refine .ask trivial ?_ ?_
      · intro failure
        exact submitted_of_unidentified (start.append (by simp) _) _
      · intro found
        have unidentified := start.append (by simp) (.ok found : Answer (.shoot key))
        cases found with
        | none => exact submits_cleanup unidentified
        | some shoot =>
            dsimp only
            split
            · exact submits_cleanup unidentified
            · apply submits_reconcileShoot
              refine ⟨?_, unidentified, ?_⟩
              · simp [Unwritten, Call.isWrite]
              · apply Unanswered.onlyReply
                simp [Unanswered]

end Submitted

/-- All that a kubeconfig is built from has been read, and the version of the shoot is one. -/
structure ReachesBuilder (key : Key) (exchanges : List Exchange) (shoot : Shoot) : Prop where
  shootRead : (⟨.shoot key, .ok (some shoot)⟩ : Exchange) ∈ exchanges
  identified : ∃ found identity, (⟨.clusterIdentity, .ok found⟩ : Exchange) ∈ exchanges ∧
    identityIn found = .ok identity
  chosen : ∃ format, Kubeconfig.Format.ofKubernetesVersion shoot.kubernetesVersion = .ok format

section ReachesBuilder

variable {limit : Nat} {key : Key} {shoot : Shoot} {exchanges : List Exchange} {result : Result}
  {admission : Admission}

theorem desired_of_build_error {request : Kubeconfig.Request} {format : Kubeconfig.Format}
    {failure : Kubeconfig.Failure}
    (chosen : Kubeconfig.Format.ofKubernetesVersion shoot.kubernetesVersion = .ok format)
    (failed : request.build format = .error failure) :
    desired shoot request = .error (.kubeconfig failure) := by
  unfold desired
  rw [chosen]
  change (Except.mapError Failure.kubeconfig (request.build format) >>= _) = _
  rw [failed]
  rfl

theorem ReachesBuilder.fails (reaches : ReachesBuilder key exchanges shoot)
    (course : Program.Course (attempt admission limit key) exchanges result) :
    ∃ request : Kubeconfig.Request, shoot.endpoints = .ok request.endpoints ∧
      ∀ failure, request.FirstDefect failure →
        result = .error (.kubeconfig failure) ∧ Unwritten exchanges := by
  obtain ⟨found, identity, identityRead, identified⟩ := reaches.identified
  obtain ⟨format, chosen⟩ := reaches.chosen
  have submitted : Submitted key exchanges result := (submits_attempt admission).ends_course course
  obtain ⟨authority, endpoints, reachable, fails⟩ :=
    submitted shoot found identity reaches.shootRead identityRead identified
  refine ⟨request key authority endpoints identity, reachable, ?_⟩
  intro failure defect
  exact fails _ (desired_of_build_error chosen (Kubeconfig.Request.build_eq_error_iff.mpr defect))

theorem ReachesBuilder.fails_of_hostless (reaches : ReachesBuilder key exchanges shoot)
    (course : Program.Course (attempt admission limit key) exchanges result) {index : Nat}
    {address : AdvertisedAddress} (found : shoot.advertisedAddresses[index]? = some address)
    (hostless : Uri.authority address.url = .ok none) :
    ∃ endpoints failure, shoot.endpoints = .ok endpoints ∧
      Kubeconfig.EndpointDefect 0 endpoints failure ∧ result = .error (.kubeconfig failure) ∧
      Unwritten exchanges := by
  obtain ⟨request, reachable, fails⟩ := reaches.fails course
  obtain ⟨endpoint, foundEndpoint, made⟩ := exists_endpoint_at reachable found
  have incomplete : ¬∀ endpoint ∈ request.endpoints, endpoint.Complete := by
    intro complete
    apply (complete endpoint (List.mem_of_getElem? foundEndpoint)).2
    obtain ⟨authority, read, rfl⟩ := AdvertisedAddress.endpoint_eq_ok_iff.mp made
    cases hostless.symm.trans read
    rfl
  rcases request.complete_or_firstDefect with complete | ⟨failure, defect⟩
  · exact absurd complete.endpoints incomplete
  · obtain ⟨failed, unwritten⟩ := fails failure defect
    refine ⟨request.endpoints, failure, reachable, ?_, failed, unwritten⟩
    cases defect with
    | endpoint defect => exact defect
    | endpoints silent => simp [silent] at foundEndpoint
    | namespaceName _ complete _ => exact absurd complete incomplete
    | shootName _ complete _ _ => exact absurd complete incomplete
    | gardenIdentity _ complete _ _ _ => exact absurd complete incomplete

theorem course_of_defect {state : ShootState} {found : Option ConfigMap} {identity : String}
    {quotas : List ResourceQuota} {authority : Octets} {endpoints : List Kubeconfig.Endpoint}
    {failure : Failure} (admitted : (admission.enter? key.namespaceName).isSome = true)
    (shootStays : shoot.terminating = false)
    (room : Quota.hasCapacity Quota.configMapCount quotas = .ok true)
    (stateStays : state.terminating = false)
    (ready : readiness shoot state = .ok (.ready authority endpoints))
    (identified : identityIn found = .ok identity)
    (failed : desired shoot (request key authority endpoints identity) = .error failure) :
    Program.Course (attempt admission limit key)
      [⟨.shoot key, .ok (some shoot)⟩, ⟨.configMap key.artifact, .ok none⟩,
        ⟨.resourceQuotas key.namespaceName, .ok quotas⟩, ⟨.shootState key, .ok (some state)⟩,
        ⟨.clusterIdentity, .ok found⟩]
      (.error failure) := by
  obtain ⟨entered, entering⟩ := Option.isSome_iff_exists.mp admitted
  unfold attempt
  rw [entering]
  refine .ask (.ok (some shoot) : Answer (.shoot key)) ?_
  simp only [Program.resume, shootStays]
  refine .ask (.ok none : Answer (.configMap key.artifact)) ?_
  refine .ask (.ok quotas : Answer (.resourceQuotas key.namespaceName)) ?_
  simp only [Program.resume, room]
  refine .ask (.ok (some state) : Answer (.shootState key)) ?_
  simp only [Program.resume, stateStays]
  change Program.Course (publish limit key shoot none state) _ _
  unfold publish
  rw [ready]
  refine .ask (.ok found : Answer .clusterIdentity) ?_
  simp only [Program.resume]
  rw [identified]
  change Program.Course
    ((Program.ofExcept (desired shoot (request key authority endpoints identity))).bind
      (write limit none)) _ _
  rw [failed]
  exact .fail failure

end ReachesBuilder

/-- A kubeconfig is built of complete requests only, and of any other the first defect is told,
whatever the format is. So a shoot that advertises a URL without a host never gets a kubeconfig. -/
theorem build_fails_closed :
    (∀ (request : Kubeconfig.Request) (format : Kubeconfig.Format),
        ((∃ text, request.build format = .ok text) ↔ request.Complete) ∧
        (∀ failure, request.build format = .error failure ↔ request.FirstDefect failure) ∧
        ∀ text, request.build format = .ok text →
          ∃ first, request.endpoints[0]? = some first ∧
            (request.document format).currentContext = request.contextName first) ∧
      ∀ (admission : Admission) (limit : Nat) (key : Key) (exchanges : List Exchange)
        (result : Result) (shoot : Shoot) (index : Nat) (address : AdvertisedAddress),
        Program.Course (attempt admission limit key) exchanges result →
          ReachesBuilder key exchanges shoot →
          shoot.advertisedAddresses[index]? = some address →
          Uri.authority address.url = .ok none →
            ∃ endpoints failure, shoot.endpoints = .ok endpoints ∧
              Kubeconfig.EndpointDefect 0 endpoints failure ∧
              result = .error (.kubeconfig failure) ∧
              (Failure.kubeconfig failure).failureClass = .validation ∧
              ∀ exchange ∈ exchanges, exchange.call.isWrite = false := by
  constructor
  · intro request format
    refine ⟨?_, fun failure => Kubeconfig.Request.build_eq_error_iff, ?_⟩
    · rw [← Kubeconfig.Request.defect?_eq_none_iff_complete]
      simp only [Kubeconfig.Request.build_eq_ok_iff, exists_and_left, exists_eq, and_true]
    · intro text built
      have complete := Kubeconfig.Request.defect?_eq_none_iff_complete.mp
        (Kubeconfig.Request.build_eq_ok_iff.mp built).1
      obtain ⟨first, rest, split⟩ := List.exists_cons_of_ne_nil complete.someEndpoint
      exact ⟨first, by rw [split]; rfl, by rw [Kubeconfig.Request.document, split]; rfl⟩
  · intro admission limit key exchanges result shoot index address course reaches found hostless
    obtain ⟨endpoints, failure, reachable, defect, failed, unwritten⟩ :=
      reaches.fails_of_hostless course found hostless
    exact ⟨endpoints, failure, reachable, defect, failed, rfl, unwritten⟩

namespace Sample

open Cluster.Memory.Sample

def halfway : Shoot where
  metadata := shoot.metadata
  kubernetesVersion := shoot.kubernetesVersion
  status := some {
    advertisedAddresses := [⟨"external", "https://api.foo.example"⟩, ⟨"relative", "/just/a/path"⟩] }

def halfwayExchanges : List Exchange := [
  ⟨.shoot key, .ok (some halfway)⟩, ⟨.configMap key.artifact, .ok none⟩,
  ⟨.resourceQuotas key.namespaceName, .ok []⟩, ⟨.shootState key, .ok (some state)⟩,
  ⟨.clusterIdentity, .ok (some identity)⟩]

def halfwayEndpoints : List Kubeconfig.Endpoint :=
  [⟨"external", "api.foo.example"⟩, ⟨"relative", ""⟩]

private theorem endpoints_halfway : halfway.endpoints.toOption = some halfwayEndpoints := by
  decide +kernel

private theorem exists_format_halfway :
    ∃ format, Kubeconfig.Format.ofKubernetesVersion halfway.kubernetesVersion = .ok format := by
  obtain ⟨version, read⟩ := Option.isSome_iff_exists.mp version_read
  exact ⟨_, Kubeconfig.Format.ofKubernetesVersion_eq_ok_iff.mpr
    ⟨version, toOption_eq_some_iff.mp read, rfl⟩⟩

private theorem reachesBuilder_halfway : ReachesBuilder key halfwayExchanges halfway where
  shootRead := by simp [halfwayExchanges]
  identified := ⟨some identity, "landscape", by simp [halfwayExchanges], rfl⟩
  chosen := exists_format_halfway

private theorem course_halfway :
    Program.Course (attempt { limit := 1 } 0 key) halfwayExchanges
      (.error (.kubeconfig (.endpointHostMissing 1))) := by
  obtain ⟨authority, provisioned, trusted⟩ :=
    bind_eq_ok_iff.mp (toOption_eq_some_iff.mp trusted_state)
  obtain ⟨format, chosen⟩ := exists_format_halfway
  have reachable := toOption_eq_some_iff.mp endpoints_halfway
  have ready := readiness_eq_ready_iff.mpr ⟨by decide, provisioned, trusted, reachable⟩
  have failed : desired halfway (request key authority halfwayEndpoints "landscape") =
      .error (.kubeconfig (.endpointHostMissing 1)) := desired_of_build_error chosen rfl
  exact course_of_defect rfl rfl rfl rfl ready rfl failed

end Sample

theorem build_fails_closed_sample :
    ∃ endpoints failure, Sample.halfway.endpoints = .ok endpoints ∧
      Kubeconfig.EndpointDefect 0 endpoints failure ∧ failure = .endpointHostMissing 1 ∧
      ∀ exchange ∈ Sample.halfwayExchanges, exchange.call.isWrite = false := by
  have hostless : Uri.authority "/just/a/path" = .ok none :=
    toOption_eq_some_iff.mp (by decide +kernel)
  obtain ⟨endpoints, failure, reachable, defect, failed, _, unwritten⟩ :=
    build_fails_closed.2 { limit := 1 } 0 _ _ _ _ 1 _ Sample.course_halfway
      Sample.reachesBuilder_halfway rfl hostless
  cases failed
  exact ⟨endpoints, _, reachable, defect, rfl, unwritten⟩

end ShootKubeconfig.Reconcile
