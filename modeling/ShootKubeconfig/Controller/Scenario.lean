import ShootKubeconfig.Controller.Simulation

namespace ShootKubeconfig.Controller

open Cluster Reconcile Watch

inductive Edit where
  | put (object : Stored)
  | remove (kind : Kind) (key : Key)

def Edit.apply (garden : Garden) : Edit → Garden × List Sighting
  | .put object => garden.put object
  | .remove kind key => garden.remove kind key

inductive Action where
  /-- Changes that are made all at once. -/
  | edit (edits : List Edit)
  /-- Requests of one name are refused until the garden is healed. -/
  | refuse (request : String) (code : Nat)
  | heal
  | wait (span : Span)

/-- What a controller has done, the earliest first. -/
structure Report where
  writes : List Call
  warnings : List Warning
  failures : List FailureSeries
  deferrals : List String
  /-- The ConfigMaps that there are. -/
  configMaps : List Key

namespace Simulation

def begin? (configuration : Configuration) (latency : Span) (edits : List Edit) :
    Option Simulation :=
  ofGarden? configuration latency
    (edits.foldl (fun garden edit => (edit.apply garden).1) {})

/-- How long a step takes that is no pause of its own. -/
def stepTime : Span := .ofSeconds 1

def edit? (simulation : Simulation) (edit : Edit) : Option Simulation :=
  let (garden, sightings) := edit.apply simulation.garden
  { simulation with garden }.see? sightings

def act? (simulation : Simulation) : Action → Option (Simulation × Span)
  | .edit edits => return (← edits.foldlM edit? simulation, stepTime)
  | .refuse request code =>
      some ({ simulation with garden := simulation.garden.refuse request code }, stepTime)
  | .heal => some ({ simulation with garden := simulation.garden.heal }, stepTime)
  | .wait span => some (simulation, span)

def report (simulation : Simulation) (start : Simulation) : Report where
  writes := simulation.writes.reverse
  warnings := simulation.sent.reverse
  failures := simulation.records.metrics.failures.grownSince start.records.metrics.failures
  deferrals := simulation.records.metrics.deferrals.grownSince start.records.metrics.deferrals
  configMaps := simulation.garden.memory.configMaps.keys

def pass? (simulation : Simulation) (span : Span) : Option (Report × Simulation) := do
  let start := { simulation with writes := [], sent := [] }
  let simulation ← start.run? span
  return (simulation.report start, simulation)

def perform? (simulation : Simulation) (action : Action) : Option (Report × Simulation) := do
  let (simulation, span) ← simulation.act? action
  simulation.pass? span

end Simulation

end ShootKubeconfig.Controller
