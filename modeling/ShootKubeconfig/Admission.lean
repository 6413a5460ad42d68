import ShootKubeconfig.Table

namespace ShootKubeconfig

/-- How many tickets of each namespace are out. Only namespaces with tickets are counted. -/
structure Admission where
  limit : Nat
  counts : Dictionary Nat := .empty

namespace Admission

def inFlight (admission : Admission) (namespaceName : String) : Nat :=
  (admission.counts.get? namespaceName).getD 0

def tracked (admission : Admission) : Nat :=
  admission.counts.size

/-- One more ticket of a namespace, unless it already has as many as it may. -/
def enter? (admission : Admission) (namespaceName : String) : Option Admission :=
  let count := admission.inFlight namespaceName
  if count < admission.limit then
    some { admission with counts := admission.counts.insert namespaceName (count + 1) }
  else none

/-- Takes a ticket back, of which there has to be one. -/
def release? (admission : Admission) (namespaceName : String) : Option Admission :=
  match admission.counts.get? namespaceName with
  | none => none
  | some 0 => none
  | some 1 => some { admission with counts := admission.counts.erase namespaceName }
  | some (count + 2) =>
      some { admission with counts := admission.counts.insert namespaceName (count + 1) }

def denialMessage (namespaceName : String) : String :=
  s!"max count reached for namespace {namespaceName}"

/-- Tickets that are kept under names, each with its namespace. -/
structure Desk where
  admission : Admission
  tickets : Dictionary String := .empty

namespace Desk

/-- Takes back the ticket under a name, if there is one. -/
def release? (desk : Desk) (name : String) : Option (Desk × Bool) :=
  match desk.tickets.get? name with
  | none => some (desk, false)
  | some namespaceName => do
      let admission ← desk.admission.release? namespaceName
      return ({ admission, tickets := desk.tickets.erase name }, true)

/-- Keeps a new ticket under a name, and only then takes back the one that was kept there.
Without a new ticket all stays as it is. -/
def enter? (desk : Desk) (name namespaceName : String) : Option (Desk × Bool) :=
  match desk.admission.enter? namespaceName with
  | none => some (desk, false)
  | some admission => do
      let (desk, _) ← { desk with admission }.release? name
      return ({ desk with tickets := desk.tickets.insert name namespaceName }, true)

end Desk

end Admission

end ShootKubeconfig
