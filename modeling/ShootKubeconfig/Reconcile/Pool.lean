import ShootKubeconfig.Admission
import ShootKubeconfig.Configuration

/-!
Reconciles that wait for a worker, and those that have one.

Workers are given out first come, first served. A reconcile with a worker needs a ticket of its
namespace; one that gets none ends there and then, and its worker is free again.
-/

namespace ShootKubeconfig.Reconcile

structure Place (ι : Type) where
  run : ι
  namespaceName : String
  deriving DecidableEq, Repr

structure Pool (ι : Type) where
  workers : Nat
  admission : Admission
  /-- The longest waiting comes first. -/
  waiting : List (Place ι) := []
  admitted : List (Place ι) := []

namespace Pool

/-- More workers than this can not be counted. -/
def maxWorkers : Nat := 2 ^ 61 - 1

def ofSettings? (settings : ShootSettings) : Option (Pool ι) :=
  if settings.maxConcurrent ≤ maxWorkers then
    some {
      workers := settings.maxConcurrent
      admission := { limit := settings.maxConcurrentPerNamespace } }
  else none

variable {ι : Type}

def enter (pool : Pool ι) (run : ι) (namespaceName : String) : Pool ι :=
  { pool with waiting := pool.waiting ++ [⟨run, namespaceName⟩] }

def hasFreeWorker (pool : Pool ι) : Bool :=
  pool.admitted.length < pool.workers

/-- Gives a free worker to whoever has waited longest, and tells whether it is admitted. -/
def advance? (pool : Pool ι) : Option (Place ι × Bool × Pool ι) :=
  if pool.hasFreeWorker then
    match pool.waiting with
    | [] => none
    | place :: waiting =>
        match pool.admission.enter? place.namespaceName with
        | none => some (place, false, { pool with waiting })
        | some admission =>
            some (place, true,
              { pool with admission, waiting, admitted := pool.admitted ++ [place] })
  else none

def isOf [DecidableEq ι] (run : ι) (place : Place ι) : Bool :=
  decide (place.run = run)

/-- Ends a run wherever it is, with its ticket taken back. -/
def leave? [DecidableEq ι] (pool : Pool ι) (run : ι) : Option (Pool ι) :=
  match pool.admitted.find? (isOf run) with
  | some place => do
      let admission ← pool.admission.release? place.namespaceName
      return { pool with admission, admitted := pool.admitted.eraseP (isOf run) }
  | none => some { pool with waiting := pool.waiting.eraseP (isOf run) }

end Pool

end ShootKubeconfig.Reconcile
