import Mathlib.Data.List.Dedup
import ShootKubeconfig.Admission

/-!
An admission as the account of the tickets that are out.

The tickets are a list with the namespace of each, in any order. Entering adds one of them and
releasing takes one away, and the counts follow. So they do for the tickets that are kept at a desk,
whatever is done there.
-/

namespace ShootKubeconfig.Admission

/-- An admission counts these tickets, and of no namespace are there more than there may be. -/
structure Accounts (admission : Admission) (tickets : List String) : Prop where
  counted : ∀ namespaceName, admission.counts.get? namespaceName =
    if tickets.count namespaceName = 0 then none else some (tickets.count namespaceName)
  bounded : ∀ namespaceName, tickets.count namespaceName ≤ admission.limit

section Accounts

variable {admission after : Admission} {tickets others : List String} {namespaceName : String}

theorem accounts_empty (limit : Nat) : Accounts { limit } [] where
  counted := by simp
  bounded := by simp

theorem Accounts.perm (accounts : admission.Accounts tickets) (perm : tickets.Perm others) :
    admission.Accounts others where
  counted := by
    intro namespaceName
    rw [← perm.count_eq]
    exact accounts.counted namespaceName
  bounded := by
    intro namespaceName
    rw [← perm.count_eq]
    exact accounts.bounded namespaceName

theorem Accounts.inFlight_eq (accounts : admission.Accounts tickets) (namespaceName : String) :
    admission.inFlight namespaceName = tickets.count namespaceName := by
  unfold inFlight
  rw [accounts.counted]
  split
  next none => simp [none]
  next => rfl

theorem enter?_eq_some_iff :
    admission.enter? namespaceName = some after ↔
      admission.inFlight namespaceName < admission.limit ∧
        after = { admission with
          counts :=
            admission.counts.insert namespaceName (admission.inFlight namespaceName + 1) } := by
  simp only [enter?]
  split
  · simp [*, eq_comm]
  · simp [*]

theorem Accounts.isSome_enter?_iff (accounts : admission.Accounts tickets) :
    (admission.enter? namespaceName).isSome = true ↔
      tickets.count namespaceName < admission.limit := by
  rw [← accounts.inFlight_eq]
  simp only [enter?]
  split <;> simp [*]

theorem Accounts.enter (accounts : admission.Accounts tickets)
    (entered : admission.enter? namespaceName = some after) :
    after.Accounts (namespaceName :: tickets) := by
  obtain ⟨room, rfl⟩ := enter?_eq_some_iff.mp entered
  rw [accounts.inFlight_eq] at room
  constructor
  · intro other
    rw [Table.get?_insert, accounts.inFlight_eq, accounts.counted, List.count_cons]
    by_cases same : other = namespaceName
    · simp [same]
    · simp [same, Ne.symm same]
  · intro other
    rw [List.count_cons]
    by_cases same : namespaceName = other
    · subst same
      rw [if_pos (beq_self_eq_true _)]
      exact room
    · simpa [same] using accounts.bounded other

/-- A ticket that is out can be taken back. -/
theorem Accounts.release (accounts : admission.Accounts (namespaceName :: tickets)) :
    ∃ after, admission.release? namespaceName = some after ∧ after.limit = admission.limit ∧
      after.Accounts tickets := by
  have bounded : ∀ other, tickets.count other ≤ admission.limit := fun other =>
    Nat.le_trans List.count_le_count_cons (accounts.bounded other)
  have found : admission.counts.get? namespaceName = some (tickets.count namespaceName + 1) := by
    rw [accounts.counted, List.count_cons_self]
    rfl
  unfold release?
  rw [found]
  -- the last ticket of a namespace takes its count with it
  cases rest : tickets.count namespaceName with
  | zero =>
      refine ⟨_, rfl, rfl, ?_, bounded⟩
      intro other
      rw [Table.get?_erase, accounts.counted, List.count_cons]
      by_cases same : other = namespaceName
      · simp [same, rest]
      · simp [same, Ne.symm same]
  | succ rest =>
      refine ⟨_, rfl, rfl, ?_, bounded⟩
      intro other
      rw [Table.get?_insert, accounts.counted, List.count_cons]
      by_cases same : other = namespaceName
      · simp [*]
      · simp [same, Ne.symm same]

theorem Accounts.mem_keys_iff (accounts : admission.Accounts tickets) :
    namespaceName ∈ admission.counts.keys ↔ namespaceName ∈ tickets := by
  rw [Table.mem_keys_iff, accounts.counted, ← List.count_pos_iff]
  split
  next none => simp [none]
  next some => simpa using Nat.pos_of_ne_zero some

theorem Accounts.tracked_eq (accounts : admission.Accounts tickets) :
    admission.tracked = tickets.dedup.length := by
  have sameNamespaces : admission.counts.keys.Perm tickets.dedup := by
    refine (List.perm_ext_iff_of_nodup (Table.nodup_keys _) (List.nodup_dedup _)).mpr ?_
    intro namespaceName
    rw [accounts.mem_keys_iff, List.mem_dedup]
  rw [← sameNamespaces.length_eq, Table.keys, List.length_map]
  rfl

theorem Accounts.tracked_eq_zero (accounts : admission.Accounts []) : admission.tracked = 0 :=
  accounts.tracked_eq

/-- Entering in one pass over the counts. A namespace without a count gets one of zero before it is
looked at, and loses it again if it is denied. -/
def enterInPlace (admission : Admission) (namespaceName : String) : Admission × Bool :=
  let count := admission.inFlight namespaceName
  let counts := admission.counts.insert namespaceName count
  if admission.limit ≤ count then
    ({ admission with
        counts := if count = 0 then counts.erase namespaceName else counts }, false)
  else ({ admission with counts := counts.insert namespaceName (count + 1) }, true)

private theorem Accounts.enterInPlace_eq (accounts : admission.Accounts tickets) (namespaceName : String) :
    admission.enterInPlace namespaceName =
      if tickets.count namespaceName < admission.limit then
        ({ admission with
            counts := admission.counts.insert namespaceName (tickets.count namespaceName + 1) },
          true)
      else (admission, false) := by
  unfold enterInPlace
  rw [accounts.inFlight_eq]
  by_cases room : tickets.count namespaceName < admission.limit
  · rw [if_neg (Nat.not_le.mpr room), if_pos room, Table.insert_insert]
  · rw [if_pos (Nat.not_lt.mp room), if_neg room]
    have counted := accounts.counted namespaceName
    -- the count is either the zero that has just been put there, or it was there before
    split
    next none =>
        rw [if_pos none] at counted
        rw [none, Table.erase_insert, Table.erase_of_get? counted]
    next some =>
        rw [if_neg some] at counted
        rw [Table.insert_of_get? counted]

theorem Accounts.enter?_eq_enterInPlace (accounts : admission.Accounts tickets)
    (namespaceName : String) :
    admission.enter? namespaceName =
      if tickets.count namespaceName < admission.limit then
        some (admission.enterInPlace namespaceName).1
      else none := by
  rw [accounts.enterInPlace_eq]
  unfold enter?
  rw [accounts.inFlight_eq]
  split
  next room => exact if_pos room
  next full => exact if_neg full

end Accounts

namespace Desk

def live (desk : Desk) : List String :=
  desk.tickets.values

inductive Step where
  | enter (name namespaceName : String)
  | release (name : String)

def perform? (desk : Desk) : Step → Option (Desk × Bool)
  | .enter name namespaceName => desk.enter? name namespaceName
  | .release name => desk.release? name

def performAll? (desk : Desk) : List Step → Option Desk
  | [] => some desk
  | step :: rest => do
      let (desk, _) ← desk.perform? step
      desk.performAll? rest

/-- The tickets after a step, told from the tickets alone. -/
def Step.change (limit : Nat) (tickets : Dictionary String) : Step → Dictionary String
  | .enter name namespaceName =>
      if tickets.values.count namespaceName < limit then tickets.insert name namespaceName
      else tickets
  | .release name => tickets.erase name

section Tickets

variable {tickets : Dictionary String} {name namespaceName other : String}

private theorem count_values_erase (different : tickets.get? name ≠ some other) :
    (tickets.erase name).values.count other = tickets.values.count other := by
  cases found : tickets.get? name with
  | none => rw [Table.erase_of_get? found]
  | some held =>
      have distinct : held ≠ other := fun same => different (same ▸ found)
      rw [← (Table.values_erase_perm found).count_eq, List.count_cons_of_ne distinct]

theorem values_insert_perm (tickets : Dictionary String) (name namespaceName : String) :
    (tickets.insert name namespaceName).values.Perm
      (namespaceName :: (tickets.erase name).values) := by
  rw [← Table.insert_erase]
  exact Table.values_insert_perm (by simp) namespaceName

private theorem count_values_insert (different : other ≠ namespaceName)
    (kept : tickets.get? name ≠ some other) :
    (tickets.insert name namespaceName).values.count other = tickets.values.count other := by
  rw [(values_insert_perm _ _ _).count_eq, List.count_cons_of_ne (Ne.symm different),
    count_values_erase kept]

end Tickets

section Step

variable {desk : Desk}

/-- Other tickets may be out that are not kept at the desk. -/
private theorem release?_of_accounts (others : List String)
    (accounts : desk.admission.Accounts (others ++ desk.live)) (name : String) :
    ∃ admission,
      desk.release? name =
        some (⟨admission, desk.tickets.erase name⟩, desk.tickets.contains name) ∧
      admission.limit = desk.admission.limit ∧
      admission.Accounts (others ++ (desk.tickets.erase name).values) := by
  unfold release? Table.contains
  cases found : desk.tickets.get? name with
  | none =>
      rw [Table.erase_of_get? found]
      exact ⟨desk.admission, rfl, rfl, accounts⟩
  | some namespaceName =>
      have first : (others ++ desk.live).Perm
          (namespaceName :: (others ++ (desk.tickets.erase name).values)) :=
        ((Table.values_erase_perm found).symm.append_left others).trans List.perm_middle
      obtain ⟨admission, released, sameLimit, remaining⟩ := (accounts.perm first).release
      exact ⟨admission, by simp [released], sameLimit, remaining⟩

private theorem enter?_of_full (accounts : desk.admission.Accounts desk.live) {namespaceName : String}
    (full : ¬desk.live.count namespaceName < desk.admission.limit) (name : String) :
    desk.enter? name namespaceName = some (desk, false) := by
  unfold enter?
  rw [← accounts.isSome_enter?_iff, Option.not_isSome_iff_eq_none] at full
  rw [full]

private theorem enter?_of_room (accounts : desk.admission.Accounts desk.live) {namespaceName : String}
    (room : desk.live.count namespaceName < desk.admission.limit) (name : String) :
    ∃ admission,
      desk.enter? name namespaceName =
        some (⟨admission, desk.tickets.insert name namespaceName⟩, true) ∧
      admission.limit = desk.admission.limit ∧
      admission.Accounts (desk.tickets.insert name namespaceName).values := by
  obtain ⟨entered, isEntered⟩ :=
    Option.isSome_iff_exists.mp (accounts.isSome_enter?_iff.mpr room)
  -- the new ticket is out before the one that was kept under the name is taken back
  have both : ({ desk with admission := entered } : Desk).admission.Accounts
      ([namespaceName] ++ desk.live) := accounts.enter isEntered
  obtain ⟨admission, released, sameLimit, remaining⟩ :=
    release?_of_accounts [namespaceName] both name
  refine ⟨admission, ?_, ?_, remaining.perm (values_insert_perm _ _ _).symm⟩
  · simp [enter?, isEntered, released, Table.insert_erase]
  · rw [sameLimit, (enter?_eq_some_iff.mp isEntered).2]

theorem enter?_spares (accounts : desk.admission.Accounts desk.live)
    (name namespaceName : String) :
    ∃ after,
      desk.enter? name namespaceName =
          some (after, decide (desk.live.count namespaceName < desk.admission.limit)) ∧
        (desk.admission.limit ≤ desk.live.count namespaceName → after = desk) ∧
        ∀ other, other ≠ namespaceName → desk.tickets.get? name ≠ some other →
          after.admission.inFlight other = desk.admission.inFlight other := by
  by_cases room : desk.live.count namespaceName < desk.admission.limit
  · obtain ⟨admission, entered, _, remaining⟩ := enter?_of_room accounts room name
    refine ⟨_, by rw [entered, decide_eq_true room], ?_, ?_⟩
    · intro full
      exact absurd room (Nat.not_lt.mpr full)
    · intro other different kept
      rw [remaining.inFlight_eq, accounts.inFlight_eq]
      exact count_values_insert different kept
  · refine ⟨desk, by rw [enter?_of_full accounts room, decide_eq_false room], ?_, ?_⟩
    · intro _
      rfl
    · intro _ _ _
      rfl

theorem release?_spares (accounts : desk.admission.Accounts desk.live) (name : String) :
    ∃ after,
      desk.release? name = some (after, desk.tickets.contains name) ∧
        ∀ other, desk.tickets.get? name ≠ some other →
          after.admission.inFlight other = desk.admission.inFlight other := by
  obtain ⟨admission, released, _, remaining⟩ :=
    release?_of_accounts [] accounts name
  refine ⟨_, released, ?_⟩
  intro other kept
  rw [remaining.inFlight_eq, accounts.inFlight_eq]
  exact count_values_erase kept

theorem accounts_perform (accounts : desk.admission.Accounts desk.live) (step : Step) :
    ∃ after done, desk.perform? step = some (after, done) ∧
      after.admission.limit = desk.admission.limit ∧
      after.tickets = step.change desk.admission.limit desk.tickets ∧
      after.admission.Accounts after.live := by
  cases step with
  | enter name namespaceName =>
      by_cases room : desk.live.count namespaceName < desk.admission.limit
      · obtain ⟨admission, entered, sameLimit, accounts⟩ := enter?_of_room accounts room name
        exact ⟨_, true, entered, sameLimit, (if_pos room).symm, accounts⟩
      · exact ⟨desk, false, enter?_of_full accounts room name, rfl, (if_neg room).symm, accounts⟩
  | release name =>
      obtain ⟨admission, released, sameLimit, accounts⟩ :=
        release?_of_accounts [] accounts name
      exact ⟨_, _, released, sameLimit, rfl, accounts⟩

theorem accounts_performAll (accounts : desk.admission.Accounts desk.live) (steps : List Step) :
    ∃ after, desk.performAll? steps = some after ∧
      after.admission.limit = desk.admission.limit ∧
      after.tickets = steps.foldl (Step.change desk.admission.limit) desk.tickets ∧
      after.admission.Accounts after.live := by
  induction steps generalizing desk with
  | nil => exact ⟨desk, rfl, rfl, rfl, accounts⟩
  | cons step rest ih =>
      obtain ⟨next, done, performed, sameLimit, tickets, accounts⟩ := accounts_perform accounts step
      obtain ⟨after, followed, limit, changed, accounts⟩ := ih accounts
      refine ⟨after, by simp [performAll?, performed, followed], limit.trans sameLimit, ?_, accounts⟩
      rw [changed, sameLimit, tickets]
      rfl

end Step

/-- Whatever is done at a desk, the counts are those of the tickets that are kept there, and no
namespace has more of them than it may. A ticket is denied only to a namespace that already has
that many, and a denial leaves all as it is. A ticket that is kept can be taken back. Neither is
seen in the counts of other namespaces. -/
theorem tickets_counted (limit : Nat) (steps : List Step) :
    ∃ desk, performAll? { admission := { limit } } steps = some desk ∧
      desk.tickets = steps.foldl (Step.change limit) .empty ∧
      (∀ namespaceName,
        desk.admission.inFlight namespaceName = desk.live.count namespaceName ∧
          desk.admission.inFlight namespaceName ≤ limit) ∧
      desk.admission.tracked = desk.live.dedup.length ∧
      (∀ namespaceName,
        desk.admission.enterInPlace namespaceName =
          if desk.live.count namespaceName < limit then
            ({ desk.admission with
                counts := desk.admission.counts.insert namespaceName
                  (desk.live.count namespaceName + 1) }, true)
          else (desk.admission, false)) ∧
      (∀ namespaceName,
        desk.admission.enter? namespaceName =
          if desk.live.count namespaceName < limit then
            some (desk.admission.enterInPlace namespaceName).1
          else none) ∧
      (∀ name namespaceName, ∃ after,
        desk.enter? name namespaceName =
            some (after, decide (desk.live.count namespaceName < limit)) ∧
          (limit ≤ desk.live.count namespaceName → after = desk) ∧
          ∀ other, other ≠ namespaceName → desk.tickets.get? name ≠ some other →
            after.admission.inFlight other = desk.admission.inFlight other) ∧
      ∀ name, ∃ after,
        desk.release? name = some (after, desk.tickets.contains name) ∧
          ∀ other, desk.tickets.get? name ≠ some other →
            after.admission.inFlight other = desk.admission.inFlight other := by
  have opening : ({ admission := { limit } } : Desk).admission.Accounts
      ({ admission := { limit } } : Desk).live := accounts_empty limit
  obtain ⟨desk, performed, rfl, tickets, accounts⟩ := accounts_performAll opening steps
  refine ⟨desk, performed, tickets, ?_, accounts.tracked_eq, accounts.enterInPlace_eq,
    accounts.enter?_eq_enterInPlace, enter?_spares accounts, release?_spares accounts⟩
  intro namespaceName
  rw [accounts.inFlight_eq]
  exact ⟨rfl, accounts.bounded namespaceName⟩

theorem tickets_counted_sample :
    ∃ desk,
      performAll? { admission := { limit := 1 } }
          [.enter "a" "garden-dev", .enter "b" "garden-dev", .enter "c" "garden-prod",
            .release "a", .enter "c" "garden-dev"] = some desk ∧
        desk.live = ["garden-dev"] ∧ desk.admission.tracked = 1 ∧
        desk.admission.inFlight "garden-prod" = 0 ∧
        desk.enter? "d" "garden-dev" = some (desk, false) ∧
        ∃ after, desk.enter? "d" "garden-prod" = some (after, true) ∧
          after.admission.inFlight "garden-dev" = 1 := by
  obtain ⟨desk, performed, tickets, counted, tracked, _, _, entered, _⟩ :=
    tickets_counted 1
      [.enter "a" "garden-dev", .enter "b" "garden-dev", .enter "c" "garden-prod",
        .release "a", .enter "c" "garden-dev"]
  have kept : desk.tickets = .singleton "c" "garden-dev" := by
    rw [tickets]
    decide +kernel
  have live : desk.live = ["garden-dev"] := by
    unfold Desk.live
    rw [kept]
    rfl
  obtain ⟨denied, isDenied, unchanged, _⟩ := entered "d" "garden-dev"
  obtain ⟨after, isEntered, _, spared⟩ := entered "d" "garden-prod"
  rw [live] at isDenied unchanged isEntered
  refine ⟨desk, performed, live, ?_, ?_, ?_, after, isEntered, ?_⟩
  · rw [tracked, live]
    rfl
  · rw [(counted _).1, live]
    rfl
  · rw [isDenied, unchanged (Nat.le_refl _)]
    rfl
  · rw [spared "garden-dev" (by decide) (by rw [kept]; decide), (counted _).1, live]
    rfl

end Desk

end ShootKubeconfig.Admission
