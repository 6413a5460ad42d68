import ShootKubeconfig.Proofs.Quota
import ShootKubeconfig.Proofs.Watch.Replay

/-!
Room for another kubeconfig is never made unnoticed.

Whether there is room is told by all quotas of a namespace, whether an update matters by the two
versions of one of them. They agree since a quota whose update brings the room is the only one that
stood in the way, and in whole ConfigMaps it had none left.
-/

namespace ShootKubeconfig

namespace ResourceQuota

variable {old new : ResourceQuota}

/-- The amounts of ConfigMaps that are told are whole ones. -/
def Whole (quota : ResourceQuota) : Prop :=
  ∀ amount, (Quota.hardAmount quota Quota.configMapCount = .ok (some amount) ∨
    Quota.usedAmount quota Quota.configMapCount = .ok (some amount)) → 1000 ∣ amount

theorem amounts?_eq_some_iff {quota : ResourceQuota} {hard used : Option Int} :
    quota.amounts? = some ⟨hard, used⟩ ↔
      Quota.hardAmount quota Quota.configMapCount = .ok hard ∧
        Quota.usedAmount quota Quota.configMapCount = .ok used := by
  unfold amounts?
  cases Quota.hardAmount quota Quota.configMapCount with
  | error _ => simp
  | ok _ => cases Quota.usedAmount quota Quota.configMapCount <;> simp

theorem freed_of_full {hard used newHard newUsed : Int} (full : hard ≤ used)
    (room : newUsed < newHard) :
    Amounts.freed ⟨some hard, some used⟩ ⟨some newHard, some newUsed⟩ = true := by
  simp only [Amounts.freed, Quota.lessThan, Bool.or_eq_true, Bool.and_eq_true, bne_iff_ne, ne_eq,
    Option.some.injEq, decide_eq_true_eq, Bool.not_eq_true', decide_eq_false_iff_not]
  omega

/-- An update matters if there was no room for another ConfigMap, and now there is. -/
theorem updateMatters_of_room (whole : old.Whole)
    (lasting : Quota.restricts old Quota.configMapCount =
      Quota.restricts new Quota.configMapCount)
    (full : Quota.quotaHasCapacity old Quota.configMapCount = .ok false)
    (room : Quota.quotaHasCapacity new Quota.configMapCount = .ok true) :
    old.updateMatters new = true := by
  obtain ⟨_, impossible⟩ | ⟨restricted, hard, used, hardTold, usedTold, noneFits⟩ :=
    Quota.quotaHasCapacity_eq_ok_iff.mp full
  · cases impossible
  obtain ⟨unrestricted, _⟩ | ⟨_, newHard, newUsed, newHardTold, newUsedTold, oneFits⟩ :=
    Quota.quotaHasCapacity_eq_ok_iff.mp room
  · cases restricted.symm.trans (lasting.trans unrestricted)
  have usedUp : hard ≤ used := by
    have tooMany : ¬used + 1000 ≤ hard := by
      rw [← noneFits]
      decide
    -- part of a ConfigMap might be left, but there are only whole ones
    have hardWhole : 1000 ∣ hard := whole hard (.inl hardTold)
    have usedWhole : 1000 ∣ used := whole used (.inr usedTold)
    omega
  have left : newUsed + 1000 ≤ newHard := oneFits.mp rfl
  rw [updateMatters, amounts?_eq_some_iff.mpr ⟨hardTold, usedTold⟩,
    amounts?_eq_some_iff.mpr ⟨newHardTold, newUsedTold⟩]
  exact freed_of_full usedUp (by omega)

end ResourceQuota

namespace Watch

variable {ε : Type}

/-- The objects of a namespace that are held after some items, in whichever order. -/
def Current {α : Type} [Watched α] (inNamespace? : Option String)
    (seen : List (Except ε (Event α))) (objects : List α) : Prop :=
  ∀ object, object ∈ objects ↔ ∃ key, key.inNamespace? = inNamespace? ∧ Holds key object seen

/-- No update changes whether a quota restricts the number of ConfigMaps. -/
def KeepRestrictions (items : List (Except ε (Event ResourceQuota))) : Prop :=
  ∀ before item after key old new, items = before ++ item :: after →
    Holds key old before → Brings key new item →
    Quota.restricts old Quota.configMapCount = Quota.restricts new Quota.configMapCount

section Known

variable {α : Type} [Watched α] {filter : RelevanceFilter α} {seen : List (Except ε (Event α))}

def RelevanceFilter.knownIn (filter : RelevanceFilter α) (inNamespace? : Option String) : List α :=
  (filter.lastSeen.restrict (·.inNamespace? = inNamespace?)).values

theorem RelevanceFilter.Mirrors.current (mirrors : filter.Mirrors seen)
    (inNamespace? : Option String) : Current inNamespace? seen (filter.knownIn inNamespace?) := by
  intro object
  simp [RelevanceFilter.knownIn, Table.mem_values_iff, mirrors.lastSeen]

end Known

variable {seen : List (Except ε (Event ResourceQuota))} {item : Except ε (Event ResourceQuota)}
  {quotas quotasAfter : List ResourceQuota} {inNamespace? : Option String}

/-- The one quota that stood in the way is the one that the item brings. -/
private theorem exists_room_brought (current : Current inNamespace? seen quotas)
    (currentAfter : Current inNamespace? (seen ++ [item]) quotasAfter)
    (dropped : Dropped seen item)
    (full : Quota.hasCapacity Quota.configMapCount quotas = .ok false)
    (room : Quota.hasCapacity Quota.configMapCount quotasAfter = .ok true) :
    ∃ key old new, Holds key old seen ∧ Brings key new item ∧ old.updateMatters new = false ∧
      Quota.quotaHasCapacity old Quota.configMapCount = .ok false ∧
      Quota.quotaHasCapacity new Quota.configMapCount = .ok true := by
  obtain ⟨key, old, new, brings, held, irrelevant⟩ := dropped
  obtain ⟨judged, fullIff⟩ := Quota.hasCapacity_eq_ok_iff.mp full
  have roomy : ∀ quota ∈ quotasAfter,
      Quota.quotaHasCapacity quota Quota.configMapCount = .ok true :=
    (Quota.hasCapacity_eq_ok_iff.mp room).2.mp rfl
  obtain ⟨blocking, member, noRoom⟩ : ∃ quota ∈ quotas,
      Quota.quotaHasCapacity quota Quota.configMapCount ≠ .ok true := by
    by_contra noneBlocks
    push Not at noneBlocks
    cases fullIff.mpr noneBlocks
  obtain ⟨blockingKey, inNamespace, blockingHeld⟩ := (current blocking).mp member
  have same : blockingKey = key := by
    by_contra different
    -- under another key it would be there still, and leave no room
    have stillHeld : Holds blockingKey blocking (seen ++ [item]) :=
      holds_append.mpr (.inr ⟨blockingHeld, brings.quiet_iff.mpr different, brings.not_deletes,
        fun ended => brings.ne_initDone ended.1⟩)
    have stillThere : blocking ∈ quotasAfter :=
      (currentAfter blocking).mpr ⟨blockingKey, inNamespace, stillHeld⟩
    exact noRoom (roomy blocking stillThere)
  subst same
  obtain rfl := held.latest.unique blockingHeld.latest
  obtain ⟨fits, decided⟩ := judged blocking member
  have newHeld : Holds blockingKey new (seen ++ [item]) := holds_append.mpr (.inl brings)
  refine ⟨blockingKey, blocking, new, held, brings, irrelevant, ?_,
    roomy new ((currentAfter new).mpr ⟨blockingKey, inNamespace, newHeld⟩)⟩
  cases fits with
  | false => exact decided
  | true => exact absurd decided noRoom

/-- An event passes if there was no room for another ConfigMap in a namespace before it, and there
is after it. The other quotas of the namespace may be anything. The amounts may have any size and
be written in any way as long as they are whole, and no quota begins or ceases to restrict them. -/
theorem freed_room_passes {event : Event ResourceQuota}
    {later : List (Except ε (Event ResourceQuota))}
    (named : ∀ each ∈ seen ++ .ok event :: later, Named each)
    (whole : ∀ each ∈ seen ++ .ok event :: later, ∀ key quota,
      Brings key quota each → quota.Whole)
    (lasting : KeepRestrictions (seen ++ .ok event :: later))
    (current : Current inNamespace? seen quotas)
    (currentAfter : Current inNamespace? (seen ++ [.ok event]) quotasAfter)
    (full : Quota.hasCapacity Quota.configMapCount quotas = .ok false)
    (room : Quota.hasCapacity Quota.configMapCount quotasAfter = .ok true) :
    ∃ outputs, RelevanceFilter.run? {} (seen ++ .ok event :: later) = some outputs ∧
      outputs[seen.length]? = some (some (.ok event)) := by
  obtain ⟨_, outputs, _, ran, _, replays⟩ := RelevanceFilter.mirrors_empty.run named
  refine ⟨outputs, ran, replays.passed_of_relevant ?_⟩
  intro dropped
  obtain ⟨key, old, new, held, brings, irrelevant, oldFull, newRoom⟩ :=
    exists_room_brought current currentAfter dropped full room
  obtain ⟨oldItem, member, oldBrought⟩ := held.latest.brought
  have oldWhole : old.Whole := whole oldItem (List.mem_append_left _ member) key old oldBrought
  have matters : old.updateMatters new = true :=
    ResourceQuota.updateMatters_of_room oldWhole
      (lasting seen _ later key old new rfl held brings) oldFull newRoom
  cases irrelevant.symm.trans matters

namespace Sample

open Quota.Sample

def usedUp : List (Except Unit (Event ResourceQuota)) :=
  [.ok (.apply (limits "strict" "2" "2000m")), .ok (.apply (limits "lax" "1k" "1")),
    .error ()]

/-- Less is allowed than before, but still more than is used. -/
def lowered : Event ResourceQuota :=
  .apply (limits "strict" "1e0" "0")

def room (filter : RelevanceFilter ResourceQuota) : Option Bool :=
  (Quota.hasCapacity Quota.configMapCount (filter.knownIn (some "garden-dev"))).toOption

private theorem brought_lowered {item : Except Unit (Event ResourceQuota)} {key : ObjectKey}
    {quota : ResourceQuota} (member : item ∈ usedUp ++ [.ok lowered])
    (brings : Brings key quota item) :
    quota = limits "strict" "2" "2000m" ∨ quota = limits "lax" "1k" "1" ∨
      quota = limits "strict" "1e0" "0" := by
  simp only [usedUp, lowered, List.cons_append, List.nil_append, List.mem_cons, List.not_mem_nil,
    or_false] at member
  rcases member with rfl | rfl | rfl | rfl
  · exact .inl (by simpa [Brings, eq_comm] using brings.1)
  · exact .inr (.inl (by simpa [Brings, eq_comm] using brings.1))
  · simp [Brings] at brings
  · exact .inr (.inr (by simpa [Brings, eq_comm] using brings.1))

private theorem whole_of_amounts {quota : ResourceQuota} {hard used : Int}
    (told : quota.amounts? = some ⟨some hard, some used⟩) (hardWhole : 1000 ∣ hard)
    (usedWhole : 1000 ∣ used) : quota.Whole := by
  obtain ⟨hardTold, usedTold⟩ := ResourceQuota.amounts?_eq_some_iff.mp told
  intro amount amountTold
  rcases amountTold with amountTold | amountTold
  · cases hardTold.symm.trans amountTold
    exact hardWhole
  · cases usedTold.symm.trans amountTold
    exact usedWhole

private theorem whole_lowered {quota : ResourceQuota}
    (sample : quota = limits "strict" "2" "2000m" ∨ quota = limits "lax" "1k" "1" ∨
      quota = limits "strict" "1e0" "0") : quota.Whole := by
  rcases sample with rfl | rfl | rfl
  · exact @whole_of_amounts _ 2000 2000 (by decide +kernel) (by decide) (by decide)
  · exact @whole_of_amounts _ 1000000 1000 (by decide +kernel) (by decide) (by decide)
  · exact @whole_of_amounts _ 1000 0 (by decide +kernel) (by decide) (by decide)

private theorem restricts_limits (name hard used : String) :
    Quota.restricts (limits name hard used) Quota.configMapCount = true := by
  simp [Quota.restricts, limits, Table.contains]

private theorem keepRestrictions_lowered : KeepRestrictions (usedUp ++ [.ok lowered]) := by
  have restricted : ∀ item ∈ usedUp ++ [.ok lowered], ∀ key quota, Brings key quota item →
      Quota.restricts quota Quota.configMapCount = true := by
    intro item member key quota brings
    rcases brought_lowered member brings with rfl | rfl | rfl <;> exact restricts_limits _ _ _
  intro before item after key old new split held brings
  obtain ⟨oldItem, member, oldBrought⟩ := held.latest.brought
  rw [restricted oldItem (by simp [split, member]) key old oldBrought,
    restricted item (by simp [split]) key new brings]

end Sample

theorem freed_room_passes_sample :
    ∃ outputs, RelevanceFilter.run? {} (Sample.usedUp ++ [.ok Sample.lowered]) = some outputs ∧
      outputs[3]? = some (some (.ok Sample.lowered)) := by
  have named : ∀ item ∈ Sample.usedUp ++ [.ok Sample.lowered], Named item := by
    simp [Sample.usedUp, Sample.lowered, Named, Watched.metadata, Quota.Sample.limits]
  obtain ⟨before, _, followed, _, mirrors, _⟩ := RelevanceFilter.mirrors_empty.run
    fun item member => named item (List.mem_append_left _ member)
  obtain ⟨after, _, followedAll, _, mirrorsAfter, _⟩ := RelevanceFilter.mirrors_empty.run named
  have full : (RelevanceFilter.follow? {} Sample.usedUp).map Sample.room = some (some false) := by
    decide +kernel
  have room : (RelevanceFilter.follow? {} (Sample.usedUp ++ [.ok Sample.lowered])).map
      Sample.room = some (some true) := by
    decide +kernel
  rw [followed] at full
  rw [followedAll] at room
  exact freed_room_passes named
    (fun item member key quota brings =>
      Sample.whole_lowered (Sample.brought_lowered member brings))
    Sample.keepRestrictions_lowered (mirrors.current _) (mirrorsAfter.current _)
    (toOption_eq_some_iff.mp (Option.some.inj full))
    (toOption_eq_some_iff.mp (Option.some.inj room))

end Watch

end ShootKubeconfig
