import ShootKubeconfig.Proofs.Watch.Stream

/-!
The filter against the stream that has gone through it.

What the filter keeps mirrors the stream at every point: the objects that are live, and while a
relist goes on, which of them have come up. Hence what it lets through is told by the stream alone.
-/

namespace ShootKubeconfig.Watch

namespace RelevanceFilter

variable {α ε : Type} [Watched α]

/-- The filter after the items of a stream, which all have to have their names. -/
def follow? (filter : RelevanceFilter α) :
    List (Except ε (Event α)) → Option (RelevanceFilter α)
  | [] => some filter
  | .error _ :: rest => filter.follow? rest
  | .ok event :: rest => do
      let (filter, _) ← filter.register? event
      filter.follow? rest

section Follow

variable {filter after : RelevanceFilter α} {items : List (Except ε (Event α))}
  {outputs : List (Option (Except ε (Event α)))}

theorem follow?_append (filter : RelevanceFilter α) (items rest : List (Except ε (Event α))) :
    filter.follow? (items ++ rest) = (filter.follow? items).bind (·.follow? rest) := by
  induction items generalizing filter with
  | nil => rfl
  | cons item items ih =>
      cases item with
      | error failure => exact ih filter
      | ok event =>
          simp only [List.cons_append, follow?]
          cases filter.register? event with
          | none => rfl
          | some registered => exact ih registered.1

/-- What comes after some items is judged by the filter that has followed them. -/
theorem run?_append (followed : filter.follow? items = some after)
    (ran : filter.run? items = some outputs) (rest : List (Except ε (Event α))) :
    filter.run? (items ++ rest) = (after.run? rest).map (outputs ++ ·) := by
  induction items generalizing filter outputs with
  | nil =>
      cases followed
      cases ran
      simp
  | cons item items ih =>
      cases item with
      | error failure =>
          simp only [run?, Option.bind_eq_bind, Option.bind_eq_some_iff] at ran
          obtain ⟨others, ran, same⟩ := ran
          cases same
          simp only [List.cons_append, run?, ih followed ran]
          cases after.run? rest <;> rfl
      | ok event =>
          simp only [follow?, Option.bind_eq_bind, Option.bind_eq_some_iff] at followed
          obtain ⟨⟨next, passed⟩, registered, followed⟩ := followed
          simp only [run?, registered, Option.bind_eq_bind, Option.bind_some,
            Option.bind_eq_some_iff] at ran
          obtain ⟨others, ran, same⟩ := ran
          cases same
          simp only [List.cons_append, run?, registered, Option.bind_eq_bind, Option.bind_some,
            ih followed ran]
          cases after.run? rest <;> rfl

end Follow

/-- The filter keeps the live objects, and what has not come up in a relist is unlisted. -/
structure Mirrors (filter : RelevanceFilter α) (seen : List (Except ε (Event α))) : Prop where
  lastSeen : ∀ key object, filter.lastSeen.get? key = some object ↔ Holds key object seen
  relisted : ∀ key, (∃ keys, filter.relisted = some keys ∧ key ∉ keys) ↔ Unlisted key seen

section Mirrors

variable {filter : RelevanceFilter α} {seen items : List (Except ε (Event α))}
  {item : Except ε (Event α)} {key : ObjectKey} {object : α}

theorem mirrors_empty : ({} : RelevanceFilter α).Mirrors ([] : List (Except ε (Event α))) where
  lastSeen := by
    intro key object
    constructor
    · intro found
      cases found
    · intro holds
      exact absurd holds.live not_splits_nil
  relisted := by
    intro key
    constructor
    · rintro ⟨_, started, _⟩
      cases started
    · intro unlisted
      exact absurd unlisted not_splits_nil

theorem Mirrors.record (mirrors : filter.Mirrors seen) (brings : Brings key object item) :
    (filter.record key object).Mirrors (seen ++ [item]) where
  lastSeen := by
    intro asked version
    show (filter.lastSeen.insert key object).get? asked = some version ↔ _
    rw [Table.get?_insert, holds_append]
    by_cases same : asked = key
    · subst same
      rw [if_pos rfl]
      constructor
      · rintro ⟨⟩
        exact .inl brings
      · rintro (alsoBrings | ⟨_, quiet, _⟩)
        · rw [(brings.unique alsoBrings).2]
        · exact absurd brings (quiet object)
    · have quiet : ∀ other, ¬Brings asked other item := brings.quiet_iff.mpr same
      rw [if_neg same, mirrors.lastSeen]
      constructor
      · intro holds
        exact .inr ⟨holds, quiet, brings.not_deletes, fun ended => brings.ne_initDone ended.1⟩
      · rintro (otherBrings | ⟨holds, _⟩)
        · exact absurd otherBrings (quiet version)
        · exact holds
  relisted := by
    intro asked
    rw [unlisted_append, ← mirrors.relisted, brings.quiet_iff]
    unfold RelevanceFilter.record
    cases filter.relisted with
    | none => simp [brings.ne_init]
    | some keys => simp [brings.ne_init, brings.ne_initDone, and_comm]

theorem Mirrors.erase (mirrors : filter.Mirrors seen) (deletes : Deletes key item) :
    { filter with lastSeen := filter.lastSeen.erase key }.Mirrors (seen ++ [item]) where
  lastSeen := by
    intro asked version
    rw [Table.get?_erase, holds_append, deletes.deletes_iff]
    by_cases same : asked = key
    · subst same
      simp [deletes.not_brings]
    · simp [same, deletes.not_brings, deletes.ne_initDone, mirrors.lastSeen]
  relisted := by
    intro asked
    rw [unlisted_append, ← mirrors.relisted]
    simp [deletes.not_brings, deletes.ne_init, deletes.ne_initDone]

theorem Mirrors.startRelist (mirrors : filter.Mirrors seen) :
    ({ filter with relisted := some [] } : RelevanceFilter α).Mirrors (seen ++ [.ok .init]) where
  lastSeen := by
    intro asked version
    rw [holds_append]
    simp [Brings, Deletes, mirrors.lastSeen]
  relisted := by
    intro asked
    rw [unlisted_append]
    simp

theorem Mirrors.finishRelist (mirrors : filter.Mirrors seen) :
    filter.finishRelist.Mirrors (seen ++ [.ok .initDone]) where
  lastSeen := by
    intro asked version
    rw [holds_append, ← mirrors.lastSeen, ← mirrors.relisted]
    unfold RelevanceFilter.finishRelist
    cases filter.relisted with
    | none => simp [Brings, Deletes]
    | some keys => simp [Brings, Deletes, and_comm]
  relisted := by
    intro asked
    rw [unlisted_append]
    unfold RelevanceFilter.finishRelist
    cases started : filter.relisted <;> simp [started]

theorem Mirrors.error (mirrors : filter.Mirrors seen) (failure : ε) :
    filter.Mirrors (seen ++ [.error failure]) where
  lastSeen := by
    intro asked version
    rw [holds_append, mirrors.lastSeen]
    simp [Brings, Deletes]
  relisted := by
    intro asked
    rw [unlisted_append, mirrors.relisted]
    simp [Brings]

private theorem Mirrors.passes_eq_false_iff (mirrors : filter.Mirrors seen)
    (brings : Brings key object item) : filter.passes key object = false ↔ Dropped seen item := by
  unfold passes
  constructor
  · intro stopped
    cases found : filter.lastSeen.get? key with
    | none => simp [found] at stopped
    | some old =>
        rw [found] at stopped
        exact ⟨key, old, object, brings, (mirrors.lastSeen key old).mp found, stopped⟩
  · rintro ⟨other, old, new, otherBrings, holds, irrelevant⟩
    obtain ⟨rfl, rfl⟩ := brings.unique otherBrings
    rw [(mirrors.lastSeen other old).mpr holds]
    exact irrelevant

theorem Mirrors.register (mirrors : filter.Mirrors seen) {event : Event α}
    (named : Named (.ok event : Except ε (Event α))) :
    ∃ after passed, filter.register? event = some (after, passed) ∧
      after.Mirrors (seen ++ [.ok event]) ∧
      (passed = false ↔ Dropped seen (.ok event : Except ε (Event α))) := by
  cases event with
  | apply object =>
      obtain ⟨key, keyed⟩ := objectKey?_of_named named
      have brings : Brings key object (.ok (.apply object) : Except ε (Event α)) :=
        ⟨.inl rfl, keyed⟩
      exact ⟨filter.record key object, filter.passes key object, by simp [register?, keyed],
        mirrors.record brings, mirrors.passes_eq_false_iff brings⟩
  | initApply object =>
      obtain ⟨key, keyed⟩ := objectKey?_of_named named
      have brings : Brings key object (.ok (.initApply object) : Except ε (Event α)) :=
        ⟨.inr rfl, keyed⟩
      exact ⟨filter.record key object, filter.passes key object, by simp [register?, keyed],
        mirrors.record brings, mirrors.passes_eq_false_iff brings⟩
  | delete object =>
      obtain ⟨key, keyed⟩ := objectKey?_of_named named
      exact ⟨_, true, by simp [register?, keyed], mirrors.erase ⟨object, rfl, keyed⟩,
        by simp [Dropped, Brings]⟩
  | init => exact ⟨_, true, rfl, mirrors.startRelist, by simp [Dropped, Brings]⟩
  | initDone => exact ⟨_, true, rfl, mirrors.finishRelist, by simp [Dropped, Brings]⟩

/-- A whole stream goes through as its replay tells. -/
theorem Mirrors.run (mirrors : filter.Mirrors seen) (named : ∀ item ∈ items, Named item) :
    ∃ after outputs, filter.follow? items = some after ∧ filter.run? items = some outputs ∧
      after.Mirrors (seen ++ items) ∧ Replays seen items outputs := by
  induction items generalizing filter seen with
  | nil => exact ⟨filter, [], rfl, rfl, by simpa using mirrors, .nil⟩
  | cons item items ih =>
      obtain ⟨itemNamed, restNamed⟩ := List.forall_mem_cons.mp named
      cases item with
      | error failure =>
          obtain ⟨after, outputs, followed, ran, mirrors, replays⟩ :=
            ih (mirrors.error failure) restNamed
          refine ⟨after, some (.error failure) :: outputs, followed, by simp [run?, ran],
            by simpa using mirrors, .passed (by simp [Dropped, Brings]) replays⟩
      | ok event =>
          obtain ⟨next, passed, registered, mirrors, judged⟩ := mirrors.register itemNamed
          obtain ⟨after, outputs, followed, ran, mirrors, replays⟩ := ih mirrors restNamed
          have followed : filter.follow? (.ok event :: items) = some after := by
            simp [follow?, registered, followed]
          have mirrors : after.Mirrors (seen ++ .ok event :: items) := by simpa using mirrors
          cases passed with
          | false =>
              have irrelevant := judged.mp rfl
              refine ⟨after, none :: outputs, followed, ?_, mirrors, .dropped irrelevant replays⟩
              simp [run?, registered, ran]
          | true =>
              refine ⟨after, some (.ok event) :: outputs, followed, ?_, mirrors, .passed ?_ replays⟩
              · simp [run?, registered, ran]
              · rw [← judged]
                decide

end Mirrors

/-- The filter does what the stream tells, at every point of it. It knows exactly the objects that
are live, each in the version that was brought last, and it drops exactly the irrelevant updates of
these. All else it lets through as it is and in its order, and errors leave it as it was. -/
theorem replays_stream {items : List (Except ε (Event α))} (named : ∀ item ∈ items, Named item) :
    ∃ (filter : RelevanceFilter α) (outputs : List (Option (Except ε (Event α)))),
      RelevanceFilter.follow? {} items = some filter ∧
      RelevanceFilter.run? {} items = some outputs ∧
      (∀ rest, RelevanceFilter.run? {} (items ++ rest) = (filter.run? rest).map (outputs ++ ·)) ∧
      (∀ failure, RelevanceFilter.follow? {} (items ++ [.error failure]) = some filter) ∧
      (∀ key, filter.lastSeen.contains key = true ↔ Live key items) ∧
      (∀ key object, filter.lastSeen.get? key = some object ↔
        Live key items ∧ Latest key object items) ∧
      Replays [] items outputs := by
  obtain ⟨filter, outputs, followed, ran, mirrors, replays⟩ := mirrors_empty.run named
  refine ⟨filter, outputs, followed, ran, run?_append followed ran, ?_, ?_, ?_, replays⟩
  · intro failure
    rw [follow?_append, followed]
    rfl
  · intro key
    rw [Table.contains, Option.isSome_iff_exists]
    constructor
    · rintro ⟨object, found⟩
      exact ((mirrors.lastSeen key object).mp found).live
    · intro live
      obtain ⟨object, latest⟩ := Live.exists_latest live
      exact ⟨object, (mirrors.lastSeen key object).mpr ⟨live, latest⟩⟩
  · intro key object
    rw [mirrors.lastSeen]
    exact ⟨fun holds => ⟨holds.live, holds.latest⟩, fun holds => ⟨holds.1, holds.2⟩⟩

namespace Sample

def shootAt (name url : String) : Shoot where
  metadata := { name := some name, inNamespace? := some "garden-dev" }
  kubernetesVersion := "1.27.3"
  status := some { advertisedAddresses := [⟨"external", url⟩] }

def keyOf (name : String) : ObjectKey :=
  ⟨name, some "garden-dev"⟩

/-- A relist that is started anew before it is done, so that one of two shoots is forgotten. -/
def relisted : List (Except Unit (Event Shoot)) := [
  .ok (.apply (shootAt "foo" "https://foo")),
  .ok (.apply (shootAt "bar" "https://bar")),
  .ok .init,
  .ok (.initApply (shootAt "bar" "https://bar")),
  .error (),
  .ok .init,
  .ok (.initApply (shootAt "foo" "https://foo")),
  .ok .initDone]

theorem named_relisted : ∀ item ∈ relisted, Named item := by
  simp [relisted, Named, Watched.metadata, shootAt]

end Sample

theorem replays_stream_sample :
    ∃ outputs, RelevanceFilter.run? {} Sample.relisted = some outputs ∧
      Replays [] Sample.relisted outputs ∧
      Live (Sample.keyOf "foo") Sample.relisted ∧ ¬Live (Sample.keyOf "bar") Sample.relisted := by
  obtain ⟨filter, outputs, followed, ran, _, _, live, _, replays⟩ :=
    replays_stream Sample.named_relisted
  have known : (RelevanceFilter.follow? {} Sample.relisted).map (fun filter =>
      (filter.lastSeen.contains (Sample.keyOf "foo"),
        filter.lastSeen.contains (Sample.keyOf "bar"))) = some (true, false) := by
    decide +kernel
  rw [followed] at known
  obtain ⟨foo, bar⟩ := Prod.mk.inj (Option.some.inj known)
  refine ⟨outputs, ran, replays, (live _).mp foo, ?_⟩
  rw [← live, bar]
  decide

end RelevanceFilter

end ShootKubeconfig.Watch
