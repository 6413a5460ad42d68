import ShootKubeconfig.Time.Agenda

/-!
When which keys are reconciled.

A key is on the schedule once at most: the earlier of two requests stands. While a key is being
reconciled its next reconcile waits.
-/

namespace ShootKubeconfig.Controller

structure Schedule (κ : Type) where
  due : Agenda κ := {}
  running : List κ := []

namespace Schedule

variable {κ : Type} [DecidableEq κ]

def request (schedule : Schedule κ) (key : κ) (time : Nat) : Schedule κ :=
  match schedule.due.timeOf? key with
  | none => { schedule with due := schedule.due.add time key }
  | some existing =>
      if existing < time then schedule
      else { schedule with due := (schedule.due.remove key).add time key }

def startable (schedule : Schedule κ) : List (Nat × κ) :=
  schedule.due.entries.filter fun entry => entry.2 ∉ schedule.running

/-- A limit of zero is none. -/
def isFull (schedule : Schedule κ) (limit : Nat) : Bool :=
  limit ≠ 0 ∧ limit ≤ schedule.running.length

def nextTime? (schedule : Schedule κ) (limit : Nat) : Option Nat :=
  if schedule.isFull limit then none else schedule.startable.head?.map (·.1)

def take? (schedule : Schedule κ) (limit now : Nat) : Option (κ × Schedule κ) :=
  if schedule.isFull limit then none
  else
    match schedule.startable with
    | [] => none
    | (time, key) :: _ =>
        if time ≤ now then
          some (key, { due := schedule.due.remove key, running := key :: schedule.running })
        else none

def finish (schedule : Schedule κ) (key : κ) : Schedule κ :=
  { schedule with running := schedule.running.erase key }

end Schedule

end ShootKubeconfig.Controller
