import ShootKubeconfig.Cluster.Garden
import ShootKubeconfig.Controller.Invocation
import ShootKubeconfig.Controller.Removal
import ShootKubeconfig.Controller.Schedule
import ShootKubeconfig.Controller.Trigger
import ShootKubeconfig.Reconcile.Pool
import ShootKubeconfig.Reconcile.Shoot

/-!
A controller at work in a garden, where time passes only when nothing is left to do.

A request is handled, and answered, when it has been under way for the latency of the garden. What
is due at one instant is done in the order in which it became due, so that reconciles that start
together take turns call by call.
-/

namespace ShootKubeconfig.Controller

open Cluster Reconcile Watch

inductive Origin where
  | cached (shoot : Shoot)
  | removed (removal : Removal)

inductive Stage where
  /-- For a worker. -/
  | waiting
  | asking (call : Call) (next : call.Reply → Program Outcome)
  /-- For an answer that comes too late. -/
  | timingOut
  | publishing (warning : Warning) (result : Result)
  /-- Before the next attempt. -/
  | pausing

structure Task where
  key : Key
  origin : Origin
  stage : Stage := .waiting

structure Simulation where
  configuration : Configuration
  /-- The milliseconds that have passed. -/
  now : Nat := 0
  latency : Span := .zero
  garden : Garden := {}
  watches : Watches := {}
  schedule : Schedule ObjectKey := {}
  pool : Pool Nat
  tasks : Table Nat Task := .empty
  agenda : Agenda Nat := {}
  nextTask : Nat := 0
  records : Records := {}
  /-- The notes that have been published, each the first about its subject. -/
  notes : List (Subject × Option Wording) := []
  /-- The warnings as they have been sent, the latest first. -/
  sent : List Warning := []
  /-- The calls that have written, the latest first. -/
  writes : List Call := []

namespace Simulation

/-- How many shoots are reconciled at the same time; a limit of zero is none. -/
def slotLimit : Nat := 2 ^ 16 - 1

def slots (simulation : Simulation) : Nat :=
  min simulation.configuration.shoot.maxConcurrent slotLimit

def request (simulation : Simulation) (key : ObjectKey) (time : Nat) : Simulation :=
  { simulation with schedule := simulation.schedule.request key time }

def requestAfter (simulation : Simulation) (key : ObjectKey) : Option Delay → Simulation
  | none => simulation
  | some delay => simulation.request key (simulation.now + delay.least.milliseconds)

/-- Lets the watches see what has happened, and requests what that gives cause to. -/
def see? (simulation : Simulation) (sightings : List Sighting) : Option Simulation :=
  sightings.foldlM (fun simulation sighting => do
    let (watches, keys) ← simulation.watches.see? sighting
    return keys.foldl (fun simulation key => simulation.request key simulation.now)
      { simulation with watches }) simulation

def putTask (simulation : Simulation) (name : Nat) (task : Task) : Simulation :=
  { simulation with tasks := simulation.tasks.insert name task }

def await (simulation : Simulation) (name : Nat) (task : Task) (span : Span) : Simulation :=
  { simulation.putTask name task with
    agenda := simulation.agenda.add (simulation.now + span.milliseconds) name }

def enter (simulation : Simulation) (name : Nat) (task : Task) : Simulation :=
  { simulation.putTask name { task with stage := .waiting } with
    pool := simulation.pool.enter name task.key.namespaceName }

def addTask (simulation : Simulation) (key : Key) (origin : Origin) : Simulation :=
  { simulation with nextTask := simulation.nextTask + 1 }.enter simulation.nextTask
    { key, origin }

def drop (simulation : Simulation) (name : Nat) : Simulation :=
  { simulation with tasks := simulation.tasks.erase name }

def free (simulation : Simulation) (key : ObjectKey) (result : Result) : Simulation :=
  let simulation :=
    simulation.requestAfter key (nextAttempt? simulation.configuration.shoot result)
  { simulation with schedule := simulation.schedule.finish key }

/-- Starts the reconcile of a key, for its shoot if that is cached. -/
def start (simulation : Simulation) (key : ObjectKey) : Simulation :=
  match simulation.watches.shoots.cache.get? key with
  | some shoot =>
      let records := simulation.records.start
      match key.inNamespace? with
      | some namespaceName =>
          { simulation with records }.addTask ⟨namespaceName, key.name⟩ (.cached shoot)
      | none =>
          { simulation with records := records.measure }.free key (.error namespaceMissing)
  | none =>
      let simulation := { simulation with schedule := simulation.schedule.finish key }
      match key.inNamespace? with
      | some namespaceName => simulation.addTask ⟨namespaceName, key.name⟩ (.removed {})
      | none => simulation

def startDue : Nat → Simulation → Simulation
  | 0, simulation => simulation
  | fuel + 1, simulation =>
      match simulation.schedule.take? simulation.slots simulation.now with
      | none => simulation
      | some (key, schedule) => startDue fuel ({ simulation with schedule }.start key)

def finishCached (simulation : Simulation) (name : Nat) (task : Task) (result : Result) :
    Simulation :=
  let records := simulation.records.finish task.key result
  ({ simulation with records }.drop name).free ⟨task.key.name, some task.key.namespaceName⟩ result

def conclude (simulation : Simulation) (name : Nat) (task : Task) (result : Result) :
    Simulation :=
  match task.origin with
  | .cached shoot =>
      match Warning.ofResult? shoot.metadata result with
      | none => simulation.finishCached name task result
      | some warning =>
          { simulation with records := simulation.records.warn warning }.await name
            { task with stage := .publishing warning result } simulation.latency
  | .removed removal =>
      let records := simulation.records.count task.key result
      let simulation := { simulation with records }
      match removal.next simulation.configuration.shoot result with
      | (removal, some pause) =>
          simulation.await name { task with origin := .removed removal, stage := .pausing }
            pause.least
      | (_, none) => simulation.drop name

def leave? (simulation : Simulation) (name : Nat) (task : Task) (result : Result) :
    Option Simulation := do
  let pool ← simulation.pool.leave? name
  return { simulation with pool }.conclude name task result

def isLate (simulation : Simulation) : Call → Bool
  | .clusterIdentity => identityPatience < simulation.latency
  | _ => false

def proceed? (simulation : Simulation) (name : Nat) (task : Task) :
    Program Outcome → Option Simulation
  | .done outcome => simulation.leave? name task (.ok outcome)
  | .fail failure => simulation.leave? name task (.error failure)
  | .ask call next =>
      match ApiRequest.ofCall call with
      | .error failure => simulation.leave? name task (.error failure)
      | .ok _ =>
          if simulation.isLate call then
            simulation.await name { task with stage := .timingOut } identityPatience
          else
            simulation.await name { task with stage := .asking call next } simulation.latency

def settle? : Nat → Simulation → Option Simulation
  | 0, simulation => some simulation
  | fuel + 1, simulation =>
      match simulation.pool.advance? with
      | none => some simulation
      | some (place, admitted, pool) => do
          let simulation := { simulation with pool }
          let task ← simulation.tasks.get? place.run
          let simulation ←
            if admitted then
              simulation.proceed? place.run task
                (reconcile simulation.configuration.maxObjectSize task.key)
            else some (simulation.conclude place.run task (.ok .admissionDenied))
          settle? fuel simulation

def settled? (simulation : Simulation) : Option Simulation :=
  simulation.settle? (simulation.pool.waiting.length + 1)

/-- Sends a warning. Of several about one subject all say what the first published one said. -/
def publish (simulation : Simulation) (warning : Warning) : Simulation :=
  let earlier := simulation.notes.lookup warning.regarding
  let message := { warning with note := earlier.getD warning.note }
  let published := !simulation.garden.refusals.contains Garden.eventName && earlier.isNone
  { simulation with
    sent := message :: simulation.sent
    notes :=
      if published then (warning.regarding, warning.note) :: simulation.notes
      else simulation.notes }

def handle? (simulation : Simulation) (name : Nat) (task : Task) (call : Call)
    (next : call.Reply → Program Outcome) : Option Simulation := do
  let effect := simulation.garden.handle call
  let writes := if effect.written then call :: simulation.writes else simulation.writes
  let simulation ←
    { simulation with garden := effect.garden, writes }.see? effect.sightings
  simulation.proceed? name task (Program.resume next effect.answer)

def resume? (simulation : Simulation) (name : Nat) (task : Task) : Option Simulation :=
  match task.stage with
  | .waiting => some simulation
  | .asking call next => simulation.handle? name task call next
  | .timingOut => simulation.leave? name task (.error .identityTimeout)
  | .publishing warning result => (simulation.publish warning).finishCached name task result
  | .pausing => simulation.enter name task

def step? (simulation : Simulation) : Option Simulation := do
  let simulation ←
    (simulation.startDue (simulation.schedule.due.entries.length + 1)).settled?
  match simulation.agenda.take? simulation.now with
  | none => return simulation
  | some (name, agenda) =>
      let simulation := { simulation with agenda }
      (← simulation.resume? name (← simulation.tasks.get? name)).settled?

def earlier : Option Nat → Option Nat → Option Nat
  | some first, some second => some (min first second)
  | first, second => first.or second

def nextTime? (simulation : Simulation) : Option Nat :=
  earlier simulation.agenda.nextTime? (simulation.schedule.nextTime? simulation.slots)

/-- Does all that is to be done before a time, which then it is. -/
def runUntil? (finish : Nat) : Nat → Simulation → Option Simulation
  | 0, simulation => some { simulation with now := finish }
  | fuel + 1, simulation =>
      match simulation.nextTime? with
      | none => some { simulation with now := finish }
      | some time =>
          if finish ≤ time then some { simulation with now := finish }
          else do
            runUntil? finish fuel (← { simulation with now := max simulation.now time }.step?)

/-- More is never done between two steps of a scenario. -/
def busiest : Nat := 60000

def run? (simulation : Simulation) (span : Span) : Option Simulation :=
  simulation.runUntil? (simulation.now + span.milliseconds) busiest

def ofGarden? (configuration : Configuration) (latency : Span) (garden : Garden) :
    Option Simulation := do
  let pool ← Pool.ofSettings? configuration.shoot
  { configuration, latency, garden, pool : Simulation }.see? garden.listing

end Simulation

end ShootKubeconfig.Controller
