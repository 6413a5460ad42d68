import Mathlib.Data.List.Induction
import ShootKubeconfig.Watch.RelevanceFilter

/-!
What a stream of watch events says about the objects, told without a filter.

An object is live from an item that brings it until it is deleted, or until a relist that started
after that item ends without having brought the object again. The filter knows exactly the live
objects, in the versions that were brought last, and drops exactly their irrelevant updates. What
carries the argument is how each of these notions changes with one more item at the end.
-/

namespace ShootKubeconfig.Watch

section Split

variable {ι : Type} {p : List ι → ι → List ι → Prop} {marks stays : ι → Prop} {items : List ι}
  {last : ι}

/-- A condition on one of the items, on those before it and on those after it. -/
def Splits (p : List ι → ι → List ι → Prop) (items : List ι) : Prop :=
  ∃ before item after, items = before ++ item :: after ∧ p before item after

/-- One of the items marks a point since which a condition holds. -/
def Since (marks stays : ι → Prop) : List ι → Prop :=
  Splits fun _ item after => marks item ∧ ∀ later ∈ after, stays later

@[simp] theorem not_splits_nil : ¬Splits p [] := by
  rintro ⟨before, item, after, split, _⟩
  simp at split

private theorem splits_append : Splits p (items ++ [last]) ↔
    p items last [] ∨ Splits (fun before item after => p before item (after ++ [last])) items := by
  constructor
  · rintro ⟨before, item, after, split, holds⟩
    rcases List.eq_nil_or_concat after with rfl | ⟨others, final, rfl⟩
    · obtain ⟨rfl, same⟩ := List.append_inj' split rfl
      cases same
      exact .inl holds
    · have joined : items ++ [last] = (before ++ item :: others) ++ [final] := by
        simpa using split
      obtain ⟨rfl, same⟩ := List.append_inj' joined rfl
      cases same
      exact .inr ⟨before, item, others, rfl, by simpa using holds⟩
  · rintro (holds | ⟨before, item, after, rfl, holds⟩)
    · exact ⟨items, last, [], rfl, holds⟩
    · exact ⟨before, item, after ++ [last], by simp, holds⟩

theorem since_append : Since marks stays (items ++ [last]) ↔
    marks last ∨ (Since marks stays items ∧ stays last) := by
  unfold Since
  rw [splits_append]
  refine or_congr (by simp) ?_
  simp only [List.forall_mem_append, List.forall_mem_singleton]
  constructor
  · rintro ⟨before, item, after, split, marked, stayed, lastStays⟩
    exact ⟨⟨before, item, after, split, marked, stayed⟩, lastStays⟩
  · rintro ⟨⟨before, item, after, split, marked, stayed⟩, lastStays⟩
    exact ⟨before, item, after, split, marked, stayed, lastStays⟩

end Split

section Notions

variable {α ε : Type} [Watched α]

/-- An item brings a version of the object under a key. -/
def Brings (key : ObjectKey) (object : α) (item : Except ε (Event α)) : Prop :=
  (item = .ok (.apply object) ∨ item = .ok (.initApply object)) ∧
    (Watched.metadata object).objectKey? = some key

def Deletes (key : ObjectKey) (item : Except ε (Event α)) : Prop :=
  ∃ object : α, item = .ok (.delete object) ∧ (Watched.metadata object).objectKey? = some key

/-- A relist goes on at the end of the items, and the object under a key has not come up in it. -/
def Unlisted (key : ObjectKey) : List (Except ε (Event α)) → Prop :=
  Since (· = .ok .init) fun later =>
    later ≠ .ok .init ∧ later ≠ .ok .initDone ∧ ∀ object, ¬Brings key object later

/-- A relist has ended in which the object under a key has not come up. -/
def Forgotten (key : ObjectKey) : List (Except ε (Event α)) → Prop :=
  Splits fun before item _ => item = .ok .initDone ∧ Unlisted key before

/-- After these items an object is still there that was there before them. -/
structure Survives (key : ObjectKey) (items : List (Except ε (Event α))) : Prop where
  kept : ∀ item ∈ items, ¬Deletes key item
  listed : ¬Forgotten key items

def Live (key : ObjectKey) : List (Except ε (Event α)) → Prop :=
  Splits fun _ item after => (∃ object, Brings key object item) ∧ Survives key after

/-- The last version of an object that the items bring. -/
def Latest (key : ObjectKey) (object : α) : List (Except ε (Event α)) → Prop :=
  Since (Brings key object) fun later => ∀ other, ¬Brings key other later

structure Holds (key : ObjectKey) (object : α) (items : List (Except ε (Event α))) : Prop where
  live : Live key items
  latest : Latest key object items

/-- An item brings an irrelevant update of an object that is live. -/
def Dropped (seen : List (Except ε (Event α))) (item : Except ε (Event α)) : Prop :=
  ∃ key old new, Brings key new item ∧ Holds key old seen ∧ Watched.updateMatters old new = false

/-- What becomes of each item, after those that have been seen. -/
inductive Replays : List (Except ε (Event α)) → List (Except ε (Event α)) →
    List (Option (Except ε (Event α))) → Prop
  | nil {seen : List (Except ε (Event α))} : Replays seen [] []
  | dropped {seen rest : List (Except ε (Event α))} {item : Except ε (Event α)}
      {outputs : List (Option (Except ε (Event α)))} (irrelevant : Dropped seen item)
      (further : Replays (seen ++ [item]) rest outputs) :
      Replays seen (item :: rest) (none :: outputs)
  | passed {seen rest : List (Except ε (Event α))} {item : Except ε (Event α)}
      {outputs : List (Option (Except ε (Event α)))} (relevant : ¬Dropped seen item)
      (further : Replays (seen ++ [item]) rest outputs) :
      Replays seen (item :: rest) (some item :: outputs)

/-- The object of an item, if it is about one, has a name. -/
def Named : Except ε (Event α) → Prop
  | .ok (.apply object) | .ok (.initApply object) | .ok (.delete object) =>
      (Watched.metadata object).name.isSome = true
  | _ => True

end Notions

section Append

variable {α ε : Type} [Watched α] {key other : ObjectKey} {object version : α}
  {items : List (Except ε (Event α))} {item last : Except ε (Event α)}

theorem Brings.unique (brings : Brings key object item) (alsoBrings : Brings other version item) :
    other = key ∧ version = object := by
  obtain ⟨rfl | rfl, named⟩ := brings
  · obtain ⟨same | same, otherNamed⟩ := alsoBrings
    · cases same
      exact ⟨Option.some.inj (otherNamed.symm.trans named), rfl⟩
    · cases same
  · obtain ⟨same | same, otherNamed⟩ := alsoBrings
    · cases same
    · cases same
      exact ⟨Option.some.inj (otherNamed.symm.trans named), rfl⟩

theorem Brings.quiet_iff (brings : Brings key object item) :
    (∀ version, ¬Brings other version item) ↔ other ≠ key := by
  constructor
  · rintro quiet rfl
    exact quiet object brings
  · intro different version otherBrings
    exact different (brings.unique otherBrings).1

theorem Brings.not_deletes (brings : Brings key object item) : ¬Deletes other item := by
  rintro ⟨deleted, rfl, _⟩
  simp [Brings] at brings

theorem Brings.ne_init (brings : Brings key object item) : item ≠ .ok .init := by
  rintro rfl
  simp [Brings] at brings

theorem Brings.ne_initDone (brings : Brings key object item) : item ≠ .ok .initDone := by
  rintro rfl
  simp [Brings] at brings

theorem Deletes.deletes_iff (deletes : Deletes key item) : Deletes other item ↔ other = key := by
  obtain ⟨deleted, rfl, named⟩ := deletes
  simp [Deletes, named, eq_comm]

theorem Deletes.not_brings (deletes : Deletes key item) : ¬Brings other object item :=
  fun brings => brings.not_deletes deletes

theorem Deletes.ne_init (deletes : Deletes key item) : item ≠ .ok .init := by
  obtain ⟨deleted, rfl, _⟩ := deletes
  simp

theorem Deletes.ne_initDone (deletes : Deletes key item) : item ≠ .ok .initDone := by
  obtain ⟨deleted, rfl, _⟩ := deletes
  simp

theorem objectKey?_of_named (named : (Watched.metadata object).name.isSome = true) :
    ∃ key, (Watched.metadata object).objectKey? = some key := by
  obtain ⟨name, found⟩ := Option.isSome_iff_exists.mp named
  exact ⟨⟨name, (Watched.metadata object).inNamespace?⟩, by simp [Metadata.objectKey?, found]⟩

theorem unlisted_append : Unlisted key (items ++ [last]) ↔
    last = .ok .init ∨ (Unlisted key items ∧ last ≠ .ok .init ∧ last ≠ .ok .initDone ∧
      ∀ object, ¬Brings key object last) :=
  since_append

private theorem unlisted_since (brings : Brings key object item)
    (before after : List (Except ε (Event α))) :
    Unlisted key (before ++ item :: after) ↔ Unlisted key after := by
  -- in a relist that has begun before, the object has come up with the item
  induction after using List.reverseRecOn with
  | nil =>
      rw [unlisted_append]
      constructor
      · rintro (isInit | ⟨_, _, _, notBrought⟩)
        · exact absurd isInit brings.ne_init
        · exact absurd brings (notBrought object)
      · intro impossible
        exact absurd impossible not_splits_nil
  | append_singleton after last ih =>
      rw [unlisted_append, ← ih, ← unlisted_append]
      simp

private theorem forgotten_append : Forgotten key (items ++ [last]) ↔
    Forgotten key items ∨ (last = .ok .initDone ∧ Unlisted key items) := by
  unfold Forgotten
  rw [splits_append]
  exact or_comm

private theorem survives_append : Survives key (items ++ [last]) ↔
    Survives key items ∧ ¬Deletes key last ∧ ¬(last = .ok .initDone ∧ Unlisted key items) := by
  constructor
  · rintro ⟨kept, listed⟩
    rw [forgotten_append] at listed
    obtain ⟨keptBefore, notDeleted⟩ := List.forall_mem_append.mp kept
    exact ⟨⟨keptBefore, fun forgotten => listed (.inl forgotten)⟩, notDeleted last (by simp),
      fun ended => listed (.inr ended)⟩
  · rintro ⟨⟨kept, listed⟩, notDeleted, notEnded⟩
    constructor
    · exact List.forall_mem_append.mpr ⟨kept, by simpa using notDeleted⟩
    · rw [forgotten_append]
      rintro (forgotten | ended)
      · exact listed forgotten
      · exact notEnded ended

theorem live_append : Live key (items ++ [last]) ↔
    (∃ object, Brings key object last) ∨
      (Live key items ∧ ¬Deletes key last ∧ ¬(last = .ok .initDone ∧ Unlisted key items)) := by
  have survivesNothing : Survives key ([] : List (Except ε (Event α))) :=
    ⟨by simp, not_splits_nil⟩
  unfold Live
  rw [splits_append]
  refine or_congr ⟨And.left, fun brought => ⟨brought, survivesNothing⟩⟩ ?_
  constructor
  · rintro ⟨before, item, after, rfl, ⟨object, brings⟩, survives⟩
    obtain ⟨survives, notDeleted, notEnded⟩ := survives_append.mp survives
    rw [unlisted_since brings]
    exact ⟨⟨before, item, after, rfl, ⟨object, brings⟩, survives⟩, notDeleted, notEnded⟩
  · rintro ⟨⟨before, item, after, rfl, ⟨object, brings⟩, survives⟩, notDeleted, notEnded⟩
    rw [unlisted_since brings] at notEnded
    exact ⟨before, item, after, rfl, ⟨object, brings⟩,
      survives_append.mpr ⟨survives, notDeleted, notEnded⟩⟩

theorem latest_append : Latest key object (items ++ [last]) ↔
    Brings key object last ∨ (Latest key object items ∧ ∀ other, ¬Brings key other last) :=
  since_append

theorem Latest.brought (latest : Latest key object items) :
    ∃ item ∈ items, Brings key object item := by
  obtain ⟨before, item, after, rfl, brings, _⟩ := latest
  exact ⟨item, by simp, brings⟩

theorem Live.exists_latest (live : Live key items) : ∃ object, Latest key object items := by
  induction items using List.reverseRecOn with
  | nil => exact absurd live not_splits_nil
  | append_singleton items last ih =>
      by_cases brought : ∃ object, Brings key object last
      · obtain ⟨object, brings⟩ := brought
        exact ⟨object, latest_append.mpr (.inl brings)⟩
      · obtain ⟨live, _⟩ := (live_append.mp live).resolve_left brought
        obtain ⟨object, latest⟩ := ih live
        exact ⟨object, latest_append.mpr (.inr ⟨latest, not_exists.mp brought⟩)⟩

theorem Latest.unique (latest : Latest key object items) (alsoLatest : Latest key version items) :
    version = object := by
  induction items using List.reverseRecOn with
  | nil => exact absurd latest not_splits_nil
  | append_singleton items last ih =>
      rcases latest_append.mp latest with brings | ⟨latest, quiet⟩
      · rcases latest_append.mp alsoLatest with alsoBrings | ⟨_, quiet⟩
        · exact (brings.unique alsoBrings).2
        · exact absurd brings (quiet object)
      · rcases latest_append.mp alsoLatest with alsoBrings | ⟨alsoLatest, _⟩
        · exact absurd alsoBrings (quiet version)
        · exact ih latest alsoLatest

theorem holds_append : Holds key object (items ++ [last]) ↔
    Brings key object last ∨
      (Holds key object items ∧ (∀ other, ¬Brings key other last) ∧ ¬Deletes key last ∧
        ¬(last = .ok .initDone ∧ Unlisted key items)) := by
  constructor
  · rintro ⟨live, latest⟩
    rcases latest_append.mp latest with brings | ⟨latest, quiet⟩
    · exact .inl brings
    · rcases live_append.mp live with ⟨other, brings⟩ | ⟨live, notDeleted, notEnded⟩
      · exact absurd brings (quiet other)
      · exact .inr ⟨⟨live, latest⟩, quiet, notDeleted, notEnded⟩
  · rintro (brings | ⟨⟨live, latest⟩, quiet, notDeleted, notEnded⟩)
    · exact ⟨live_append.mpr (.inl ⟨object, brings⟩), latest_append.mpr (.inl brings)⟩
    · exact ⟨live_append.mpr (.inr ⟨live, notDeleted, notEnded⟩),
        latest_append.mpr (.inr ⟨latest, quiet⟩)⟩

theorem Replays.passed_of_relevant {seen before after : List (Except ε (Event α))}
    {outputs : List (Option (Except ε (Event α)))}
    (replays : Replays seen (before ++ item :: after) outputs)
    (relevant : ¬Dropped (seen ++ before) item) : outputs[before.length]? = some (some item) := by
  induction before generalizing seen outputs with
  | nil =>
      rw [List.append_nil] at relevant
      cases replays with
      | dropped irrelevant _ => exact absurd irrelevant relevant
      | passed _ _ => rfl
  | cons first before ih =>
      rw [List.append_cons] at relevant
      cases replays with
      | dropped _ further => exact ih further relevant
      | passed _ further => exact ih further relevant

end Append

end ShootKubeconfig.Watch
