import ShootKubeconfig.Proofs.Admission
import ShootKubeconfig.Reconcile.Pool
import ShootKubeconfig.Reconcile.Shoot

/-!
How many reconciles are under way at the same time.

Any number of reconciles, of any keys, take their steps in any order, and each may be dropped at
any point. A reconcile takes a worker and then a ticket, and gives them back in the opposite order.
Nothing is said of how long a step takes, nor of who goes first.
-/

namespace ShootKubeconfig.Reconcile

inductive Progress where
  /-- For a worker. -/
  | waiting
  /-- With a worker, before it asks for a ticket. -/
  | seated
  | admitted (program : Program Outcome)
  /-- With a worker, but without a ticket or with none any more. -/
  | leaving

structure Job where
  key : Key
  progress : Progress

namespace Job

def hasWorker (job : Job) : Bool :=
  match job.progress with
  | .waiting => false
  | _ => true

def ticket? (job : Job) : Option String :=
  match job.progress with
  | .admitted _ => some job.key.namespaceName
  | _ => none

def working (jobs : List Job) : Nat :=
  jobs.countP hasWorker

def tickets (jobs : List Job) : List String :=
  jobs.filterMap ticket?

private theorem working_append (front back : List Job) :
    working (front ++ back) = working front + working back :=
  List.countP_append

private theorem tickets_append (front back : List Job) :
    tickets (front ++ back) = tickets front ++ tickets back :=
  List.filterMap_append

private theorem tickets_middle (front middle back : List Job) :
    (tickets (front ++ middle ++ back)).Perm (tickets middle ++ tickets (front ++ back)) := by
  simp only [tickets_append, ← List.append_assoc]
  exact List.perm_append_comm.append_right _

end Job

structure Supply where
  freeWorkers : Nat
  admission : Admission

/-- One step of a job, where a ConfigMap has a limited size. After its last step a job is gone. -/
inductive Job.Step (limit : Nat) (key : Key) :
    Supply → Progress → Supply → Option Progress → Prop
  | seat (workers : Nat) (admission : Admission) :
      Step limit key ⟨workers + 1, admission⟩ .waiting ⟨workers, admission⟩ (some .seated)
  | giveUp (supply : Supply) : Step limit key supply .waiting supply none
  | enter {supply : Supply} {admission : Admission}
      (entered : supply.admission.enter? key.namespaceName = some admission) :
      Step limit key supply .seated { supply with admission }
        (some (.admitted (reconcile limit key)))
  | deny {supply : Supply} (full : supply.admission.enter? key.namespaceName = none) :
      Step limit key supply .seated supply (some .leaving)
  | abandon (supply : Supply) : Step limit key supply .seated supply (some .leaving)
  | goOn (supply : Supply) {call : Call} (next : call.Reply → Program Outcome)
      (answer : Answer call) :
      Step limit key supply (.admitted (.ask call next)) supply
        (some (.admitted (Program.resume next answer)))
  /-- Of a job that has come to its end, or is dropped before. -/
  | release {supply : Supply} {admission : Admission} (program : Program Outcome)
      (released : supply.admission.release? key.namespaceName = some admission) :
      Step limit key supply (.admitted program) { supply with admission } (some .leaving)
  | leave (supply : Supply) :
      Step limit key supply .leaving { supply with freeWorkers := supply.freeWorkers + 1 } none

structure Floor where
  supply : Supply
  jobs : List Job := []

namespace Floor

inductive Move (limit : Nat) (floor : Floor) : Floor → Prop
  | start (key : Key) : Move limit floor { floor with jobs := ⟨key, .waiting⟩ :: floor.jobs }
  | step {front back : List Job} {key : Key} {progress : Progress} {supply : Supply}
      {next : Option Progress} (jobs : floor.jobs = front ++ [⟨key, progress⟩] ++ back)
      (steps : Job.Step limit key floor.supply progress supply next) :
      Move limit floor ⟨supply, front ++ (next.map (Job.mk key)).toList ++ back⟩

/-- What may come about from workers and tickets of which none is taken. -/
inductive Reachable (settings : ShootSettings) (limit : Nat) : Floor → Prop
  | idle {pool : Pool Unit} (made : Pool.ofSettings? settings = some pool) :
      Reachable settings limit ⟨⟨pool.workers, pool.admission⟩, []⟩
  | move {floor after : Floor} (reachable : Reachable settings limit floor)
      (moves : floor.Move limit after) : Reachable settings limit after

/-- Workers and tickets are either there to be taken, or jobs have them. -/
structure Accounted (settings : ShootSettings) (floor : Floor) : Prop where
  workers : floor.supply.freeWorkers + Job.working floor.jobs = settings.maxConcurrent
  limit : floor.supply.admission.limit = settings.maxConcurrentPerNamespace
  tickets : floor.supply.admission.Accounts (Job.tickets floor.jobs)

end Floor

section Accounted

variable {settings : ShootSettings} {limit : Nat}

theorem Pool.ofSettings?_eq_some {ι : Type} {pool : Pool ι}
    (made : Pool.ofSettings? settings = some pool) :
    pool = {
      workers := settings.maxConcurrent
      admission := { limit := settings.maxConcurrentPerNamespace } } := by
  unfold Pool.ofSettings? at made
  split at made
  · exact (Option.some.inj made).symm
  · cases made

/-- What a job takes with a step is taken from the supply, and what it gives back is there again. -/
theorem Job.Step.accounts {key : Key} {supply after : Supply} {progress : Progress}
    {next : Option Progress} (steps : Job.Step limit key supply progress after next)
    {others : List String}
    (accounts : supply.admission.Accounts (tickets [⟨key, progress⟩] ++ others)) :
    after.freeWorkers + working (next.map (Job.mk key)).toList =
        supply.freeWorkers + working [⟨key, progress⟩] ∧
      after.admission.limit = supply.admission.limit ∧
      after.admission.Accounts (tickets (next.map (Job.mk key)).toList ++ others) := by
  cases steps with
  | seat workers admission => exact ⟨rfl, rfl, accounts⟩
  | giveUp => exact ⟨rfl, rfl, accounts⟩
  | enter entered =>
      refine ⟨rfl, ?_, accounts.enter entered⟩
      rw [(Admission.enter?_eq_some_iff.mp entered).2]
  | deny => exact ⟨rfl, rfl, accounts⟩
  | abandon => exact ⟨rfl, rfl, accounts⟩
  | goOn => exact ⟨rfl, rfl, accounts⟩
  | release program released =>
      obtain ⟨after, taken, sameLimit, remaining⟩ := accounts.release
      cases released.symm.trans taken
      exact ⟨rfl, sameLimit, remaining⟩
  | leave => exact ⟨rfl, rfl, accounts⟩

theorem Floor.Accounted.move {floor after : Floor} (accounted : floor.Accounted settings)
    (moves : floor.Move limit after) : after.Accounted settings := by
  cases moves with
  | start key => exact ⟨accounted.workers, accounted.limit, accounted.tickets⟩
  | @step front back key progress supply next jobs steps =>
      have workers := accounted.workers
      have tickets := accounted.tickets
      rw [jobs] at workers tickets
      -- all other jobs keep what they have, so that the balance of this one is that of the floor
      obtain ⟨balance, sameLimit, remaining⟩ :=
        steps.accounts (tickets.perm (Job.tickets_middle _ _ _))
      refine ⟨?_, sameLimit.trans accounted.limit, remaining.perm (Job.tickets_middle _ _ _).symm⟩
      simp only [Job.working_append] at workers ⊢
      omega

theorem Floor.Reachable.accounted {floor : Floor} (reachable : Reachable settings limit floor) :
    floor.Accounted settings := by
  induction reachable with
  | idle made =>
      rw [Pool.ofSettings?_eq_some made]
      exact ⟨rfl, rfl, Admission.accounts_empty _⟩
  | move _ moves ih => exact ih.move moves

end Accounted

namespace Pool

variable {ι : Type} {settings : ShootSettings}

def tickets (pool : Pool ι) : List String :=
  pool.admitted.map (·.namespaceName)

inductive Reachable [DecidableEq ι] (settings : ShootSettings) : Pool ι → Prop
  | idle {pool : Pool ι} (made : ofSettings? settings = some pool) : Reachable settings pool
  | enter {pool : Pool ι} (reachable : Reachable settings pool) (run : ι)
      (namespaceName : String) : Reachable settings (pool.enter run namespaceName)
  | advance {pool after : Pool ι} {place : Place ι} {admitted : Bool}
      (reachable : Reachable settings pool)
      (advances : pool.advance? = some (place, admitted, after)) : Reachable settings after
  | leave {pool after : Pool ι} {run : ι} (reachable : Reachable settings pool)
      (leaves : pool.leave? run = some after) : Reachable settings after

structure Accounted (settings : ShootSettings) (pool : Pool ι) : Prop where
  workers : pool.workers = settings.maxConcurrent
  seats : pool.admitted.length ≤ pool.workers
  limit : pool.admission.limit = settings.maxConcurrentPerNamespace
  tickets : pool.admission.Accounts pool.tickets

theorem Accounted.advance {pool after : Pool ι} {place : Place ι} {admitted : Bool}
    (accounted : pool.Accounted settings)
    (advances : pool.advance? = some (place, admitted, after)) : after.Accounted settings := by
  obtain ⟨workers, seats, limit, tickets⟩ := accounted
  unfold advance? hasFreeWorker at advances
  split at advances
  next free =>
      split at advances
      next => cases advances
      next first rest queue =>
          split at advances
          next =>
              cases advances
              exact ⟨workers, seats, limit, tickets⟩
          next admission entered =>
              cases advances
              refine ⟨workers, ?_, ?_, ?_⟩
              · rw [List.length_append]
                exact of_decide_eq_true free
              · rw [(Admission.enter?_eq_some_iff.mp entered).2]
                exact limit
              · refine (tickets.enter entered).perm ?_
                unfold Pool.tickets
                rw [List.map_append]
                exact (List.perm_append_singleton _ _).symm
  next => cases advances

/-- A run can leave wherever it is, and its ticket, if it has one, is taken back. -/
theorem Accounted.leave [DecidableEq ι] {pool : Pool ι} (accounted : pool.Accounted settings)
    (run : ι) : ∃ after, pool.leave? run = some after ∧ after.Accounted settings := by
  obtain ⟨workers, seats, limit, tickets⟩ := accounted
  unfold leave?
  cases found : pool.admitted.find? (isOf run) with
  | none => exact ⟨_, rfl, workers, seats, limit, tickets⟩
  | some place =>
      obtain ⟨isPlace, front, back, split, others⟩ := List.find?_eq_some_iff_append.mp found
      -- the place that is left is the first of the run, and it is its ticket that is taken back
      have erased : pool.admitted.eraseP (isOf run) = front ++ back := by
        rw [split, List.eraseP_append_right _ (by simpa using others),
          List.eraseP_cons_of_pos isPlace]
      have first : pool.tickets.Perm
          (place.namespaceName :: (front ++ back).map (·.namespaceName)) := by
        unfold Pool.tickets
        rw [split]
        exact List.perm_middle.map _
      obtain ⟨admission, released, sameLimit, remaining⟩ := (tickets.perm first).release
      refine ⟨{ pool with admission, admitted := front ++ back }, ?_, workers, ?_,
        sameLimit.trans limit, remaining⟩
      · simp [released, erased]
      · rw [split] at seats
        simp only [List.length_append, List.length_cons] at seats ⊢
        omega

theorem Reachable.accounted [DecidableEq ι] {pool : Pool ι} (reachable : Reachable settings pool) :
    pool.Accounted settings := by
  induction reachable with
  | idle made =>
      rw [ofSettings?_eq_some made]
      exact ⟨rfl, Nat.zero_le _, rfl, Admission.accounts_empty _⟩
  | enter _ run namespaceName ih => exact ⟨ih.workers, ih.seats, ih.limit, ih.tickets⟩
  | advance _ advances ih => exact ih.advance advances
  | leave _ leaves ih =>
      obtain ⟨after, left, accounted⟩ := ih.leave _
      cases leaves.symm.trans left
      exact accounted

end Pool

structure Ceilings (settings : ShootSettings) (admission : Admission) (working : Nat)
    (tickets : List String) : Prop where
  workers : working ≤ settings.maxConcurrent
  ofNamespace : ∀ namespaceName,
    tickets.count namespaceName ≤ settings.maxConcurrentPerNamespace
  inFlight : ∀ namespaceName, admission.inFlight namespaceName = tickets.count namespaceName
  release : ∀ namespaceName ∈ tickets, (admission.release? namespaceName).isSome = true
  tracked : tickets = [] → admission.tracked = 0

theorem ceilings_of_accounts {settings : ShootSettings} {admission : Admission} {working : Nat}
    {tickets : List String} (few : working ≤ settings.maxConcurrent)
    (limit : admission.limit = settings.maxConcurrentPerNamespace)
    (accounts : admission.Accounts tickets) : Ceilings settings admission working tickets where
  workers := few
  ofNamespace := fun namespaceName => limit ▸ accounts.bounded namespaceName
  inFlight := accounts.inFlight_eq
  release := by
    intro namespaceName member
    obtain ⟨_, released, _⟩ := (accounts.perm (List.perm_cons_erase member)).release
    simp [released]
  tracked := by
    rintro rfl
    exact accounts.tracked_eq_zero

/-- However reconciles take turns and wherever they end, no more of them have a worker than there
are, and no more of a namespace are admitted than may be. When all are gone all is as it was. -/
theorem concurrency_ceilings (settings : ShootSettings) :
    (∀ limit floor, Floor.Reachable settings limit floor →
      Ceilings settings floor.supply.admission (Job.working floor.jobs) (Job.tickets floor.jobs) ∧
        (floor.jobs = [] → floor.supply.admission.tracked = 0 ∧
          floor.supply.freeWorkers = settings.maxConcurrent)) ∧
    ∀ (ι : Type) [DecidableEq ι] (pool : Pool ι), Pool.Reachable settings pool →
      Ceilings settings pool.admission pool.admitted.length pool.tickets ∧
        pool.workers = settings.maxConcurrent ∧
        ∀ run, (pool.leave? run).isSome = true := by
  constructor
  · intro limit floor reachable
    obtain ⟨workers, sameLimit, tickets⟩ := reachable.accounted
    have ceilings := ceilings_of_accounts (Nat.le.intro ((Nat.add_comm _ _).trans workers))
      sameLimit tickets
    refine ⟨ceilings, fun none => ?_⟩
    rw [none] at ceilings workers
    exact ⟨ceilings.tracked rfl, workers⟩
  · intro ι _ pool reachable
    obtain ⟨workers, seats, limit, tickets⟩ := reachable.accounted
    refine ⟨ceilings_of_accounts (workers ▸ seats) limit tickets, workers, fun run => ?_⟩
    obtain ⟨_, left, _⟩ := reachable.accounted.leave run
    simp [left]

namespace Sample

def twoWorkers : ShootSettings := { maxConcurrent := 2, maxConcurrentPerNamespace := 1 }

def firstKey : Key := ⟨"garden-dev", "foo"⟩

def secondKey : Key := ⟨"garden-dev", "bar"⟩

/-- Two jobs have taken the workers, and the first of them the only ticket. -/
def crowded : Floor where
  supply := ⟨0, { limit := 1, counts := .singleton "garden-dev" 1 }⟩
  jobs := [⟨secondKey, .leaving⟩, ⟨firstKey, .admitted (reconcile 4096 firstKey)⟩]

private theorem reachable_crowded : Floor.Reachable twoWorkers 4096 crowded := by
  have idle : Floor.Reachable twoWorkers 4096 ⟨⟨2, { limit := 1 }⟩, []⟩ :=
    @Floor.Reachable.idle twoWorkers 4096 ⟨2, { limit := 1 }, [], []⟩ rfl
  have firstSeated := (idle.move (.start firstKey)).move
    (@Floor.Move.step _ _ [] [] _ _ _ _ rfl (.seat 1 _))
  have firstAdmitted := firstSeated.move
    (@Floor.Move.step _ _ [] [] _ _ _ _ rfl (.enter (by rfl)))
  have secondSeated := (firstAdmitted.move (.start secondKey)).move
    (@Floor.Move.step _ _ [] [_] _ _ _ _ rfl (.seat 0 _))
  exact secondSeated.move (@Floor.Move.step _ _ [] [_] _ _ _ _ rfl (.deny (by rfl)))

end Sample

theorem concurrency_ceilings_sample :
    Job.tickets Sample.crowded.jobs = ["garden-dev"] ∧
      Job.working Sample.crowded.jobs ≤ 2 ∧
      Sample.crowded.supply.admission.inFlight "garden-dev" = 1 ∧
      (Sample.crowded.supply.admission.release? "garden-dev").isSome = true := by
  obtain ⟨floors, _⟩ := concurrency_ceilings Sample.twoWorkers
  obtain ⟨ceilings, _⟩ := floors 4096 Sample.crowded Sample.reachable_crowded
  exact ⟨rfl, ceilings.workers, ceilings.inFlight "garden-dev",
    ceilings.release "garden-dev" (List.mem_singleton_self _)⟩

end ShootKubeconfig.Reconcile
