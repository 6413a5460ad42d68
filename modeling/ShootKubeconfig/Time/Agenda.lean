namespace ShootKubeconfig

/-- What is due earlier comes earlier. Of things that are due at the same time, what was added
first comes first. -/
structure Agenda (α : Type) where
  entries : List (Nat × α) := []

namespace Agenda

def place (time : Nat) (thing : α) : List (Nat × α) → List (Nat × α)
  | [] => [(time, thing)]
  | (other, existing) :: rest =>
      if time < other then (time, thing) :: (other, existing) :: rest
      else (other, existing) :: place time thing rest

def add (agenda : Agenda α) (time : Nat) (thing : α) : Agenda α :=
  ⟨place time thing agenda.entries⟩

def nextTime? (agenda : Agenda α) : Option Nat :=
  agenda.entries.head?.map (·.1)

def take? (agenda : Agenda α) (now : Nat) : Option (α × Agenda α) :=
  match agenda.entries with
  | [] => none
  | (time, thing) :: rest => if time ≤ now then some (thing, ⟨rest⟩) else none

def timeOf? [DecidableEq α] (agenda : Agenda α) (thing : α) : Option Nat :=
  (agenda.entries.find? fun entry => entry.2 = thing).map (·.1)

def remove [DecidableEq α] (agenda : Agenda α) (thing : α) : Agenda α :=
  ⟨agenda.entries.filter fun entry => entry.2 ≠ thing⟩

end Agenda

end ShootKubeconfig
