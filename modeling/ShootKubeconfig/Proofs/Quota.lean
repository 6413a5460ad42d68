import ShootKubeconfig.Proofs.Quantity
import ShootKubeconfig.Quota

namespace ShootKubeconfig

namespace Quota

variable {quota : ResourceQuota} {resource : String} {quotas : List ResourceQuota}

section AmountOf

variable {list : Option (Dictionary String)}

def entry? (list : Option (Dictionary String)) (resource : String) : Option String :=
  list.bind (·.get? resource)

theorem amountOf_eq (list : Option (Dictionary String)) (resource : String) :
    amountOf list resource =
      match entry? list resource with
      | none => .ok none
      | some text => (Quantity.read text).map some := rfl

theorem amountOf_eq_some_iff {amount : Int} :
    amountOf list resource = .ok (some amount) ↔
      ∃ text, entry? list resource = some text ∧ Quantity.read text = .ok amount := by
  rw [amountOf_eq]
  cases entry? list resource with
  | none => simp
  | some text => cases read : Quantity.read text <;> simp [Except.map, read]

theorem amountOf_eq_none_iff : amountOf list resource = .ok none ↔ entry? list resource = none := by
  rw [amountOf_eq]
  cases entry? list resource with
  | none => simp
  | some text => cases read : Quantity.read text <;> simp [Except.map, read]

theorem amountOf_eq_error_iff {cause : Quantity.Malformed} :
    amountOf list resource = .error cause ↔
      ∃ text, entry? list resource = some text ∧ Quantity.read text = .error cause := by
  rw [amountOf_eq]
  cases entry? list resource with
  | none => simp
  | some text => cases read : Quantity.read text <;> simp [Except.map, read]

private theorem fits_of_amountOf {amount : Int} (told : amountOf list resource = .ok (some amount)) :
    Quantity.Fits amount := by
  obtain ⟨text, _, read⟩ := amountOf_eq_some_iff.mp told
  exact Quantity.fits_of_read read

end AmountOf

@[simp] theorem requireAmount_eq_ok_iff {missing : Failure}
    {told : Except Quantity.Malformed (Option Int)} {amount : Int} :
    requireAmount quota resource missing told = .ok amount ↔ told = .ok (some amount) := by
  cases told with
  | error cause => simp [requireAmount]
  | ok amount => cases amount <;> simp [requireAmount]

theorem requireAmount_eq_error_iff {missing failure : Failure}
    {told : Except Quantity.Malformed (Option Int)} :
    requireAmount quota resource missing told = .error failure ↔
      (told = .ok none ∧ failure = missing) ∨
        ∃ cause, told = .error cause ∧
          failure = .invalidQuantity quota.metadata.anyName resource cause := by
  cases told with
  | error cause => simp [requireAmount, eq_comm]
  | ok amount => cases amount <;> simp [requireAmount, eq_comm]

/-- One more fits in if its thousand thousandths stay within what is allowed. An amount at the top
of the range does not wrap around. -/
private theorem oneMoreFits_iff {hard used : Int} (hardFits : Quantity.Fits hard)
    (usedFits : Quantity.Fits used) : oneMoreFits hard used = true ↔ used + 1000 ≤ hard := by
  unfold Quantity.Fits at hardFits usedFits
  unfold oneMoreFits Quantity.bounded?
  by_cases fits : Quantity.Fits (used + 1000)
  · simp [fits]
  · have tooLarge : ¬used + 1000 ≤ hard := by
      unfold Quantity.Fits at fits
      omega
    simp [fits, tooLarge]

theorem quotaHasCapacity_eq_ok_iff {sufficient : Bool} :
    quotaHasCapacity quota resource = .ok sufficient ↔
      (restricts quota resource = false ∧ sufficient = true) ∨
        (restricts quota resource = true ∧ ∃ hard used,
          hardAmount quota resource = .ok (some hard) ∧
          usedAmount quota resource = .ok (some used) ∧
          (sufficient = true ↔ used + 1000 ≤ hard)) := by
  unfold quotaHasCapacity
  cases restricts quota resource with
  | false => simp [eq_comm]
  | true =>
      simp only [↓reduceIte, bind_eq_ok_iff, requireAmount_eq_ok_iff, pure_eq_ok_iff]
      constructor
      · rintro ⟨hard, hardTold, used, usedTold, rfl⟩
        exact .inr ⟨trivial, hard, used, hardTold, usedTold,
          oneMoreFits_iff (fits_of_amountOf hardTold) (fits_of_amountOf usedTold)⟩
      · rintro (⟨unrestricted, _⟩ | ⟨_, hard, used, hardTold, usedTold, judged⟩)
        · cases unrestricted
        · refine ⟨hard, hardTold, used, usedTold, ?_⟩
          rw [Bool.eq_iff_iff, judged]
          exact oneMoreFits_iff (fits_of_amountOf hardTold) (fits_of_amountOf usedTold)

theorem hasCapacity_eq_ok_iff {sufficient : Bool} :
    hasCapacity resource quotas = .ok sufficient ↔
      (∀ quota ∈ quotas, ∃ fits, quotaHasCapacity quota resource = .ok fits) ∧
        (sufficient = true ↔ ∀ quota ∈ quotas, quotaHasCapacity quota resource = .ok true) := by
  induction quotas generalizing sufficient with
  | nil => simp [hasCapacity, eq_comm]
  | cons quota rest ih =>
      simp only [hasCapacity, bind_eq_ok_iff, pure_eq_ok_iff, List.forall_mem_cons]
      constructor
      · rintro ⟨fits, judged, others, restJudged, rfl⟩
        obtain ⟨restDecided, restFits⟩ := ih.mp restJudged
        refine ⟨⟨⟨fits, judged⟩, restDecided⟩, ?_⟩
        rw [Bool.and_eq_true, restFits, judged]
        simp
      · rintro ⟨⟨⟨fits, judged⟩, restDecided⟩, allFit⟩
        classical
        obtain ⟨others, restFits⟩ : ∃ others : Bool,
            (others = true ↔ ∀ quota ∈ rest, quotaHasCapacity quota resource = .ok true) :=
          ⟨decide _, decide_eq_true_iff⟩
        refine ⟨fits, judged, others, ih.mpr ⟨restDecided, restFits⟩, ?_⟩
        rw [Bool.eq_iff_iff, Bool.and_eq_true, restFits, allFit, judged]
        simp

section Verdict

/-- The amounts of a resource that a quota tells, where both can be read. -/
structure Tells (quota : ResourceQuota) (resource : String) (hard used : Int) : Prop where
  hard : ∃ text, entry? (quota.status.bind (·.hard)) resource = some text ∧
    Quantity.read text = .ok hard
  used : ∃ text, entry? (quota.status.bind (·.used)) resource = some text ∧
    Quantity.read text = .ok used

/-- Why nothing can be said of a quota that restricts a resource. What is wrong with the used
amount only counts where nothing is wrong with the allowed one. -/
inductive AtFault (quota : ResourceQuota) (resource : String) : Failure → Prop where
  | hardMissing (absent : entry? (quota.status.bind (·.hard)) resource = none) :
      AtFault quota resource (.hardStatusMissing quota.metadata.anyName resource)
  | hardUnreadable {text : String} {cause : Quantity.Malformed}
      (present : entry? (quota.status.bind (·.hard)) resource = some text)
      (unreadable : Quantity.read text = .error cause) :
      AtFault quota resource (.invalidQuantity quota.metadata.anyName resource cause)
  | usedMissing {text : String} {hard : Int}
      (hardPresent : entry? (quota.status.bind (·.hard)) resource = some text)
      (hardRead : Quantity.read text = .ok hard)
      (absent : entry? (quota.status.bind (·.used)) resource = none) :
      AtFault quota resource (.usedStatusMissing quota.metadata.anyName resource)
  | usedUnreadable {hardText text : String} {hard : Int} {cause : Quantity.Malformed}
      (hardPresent : entry? (quota.status.bind (·.hard)) resource = some hardText)
      (hardRead : Quantity.read hardText = .ok hard)
      (present : entry? (quota.status.bind (·.used)) resource = some text)
      (unreadable : Quantity.read text = .error cause) :
      AtFault quota resource (.invalidQuantity quota.metadata.anyName resource cause)

variable {hard used : Int} {failure : Failure}

theorem tells_iff :
    Tells quota resource hard used ↔
      hardAmount quota resource = .ok (some hard) ∧
        usedAmount quota resource = .ok (some used) := by
  rw [hardAmount, usedAmount, amountOf_eq_some_iff, amountOf_eq_some_iff]
  exact ⟨fun told => ⟨told.hard, told.used⟩, fun told => ⟨told.1, told.2⟩⟩

theorem Tells.unique {otherHard otherUsed : Int} (told : Tells quota resource hard used)
    (toldOther : Tells quota resource otherHard otherUsed) :
    hard = otherHard ∧ used = otherUsed := by
  obtain ⟨hardTold, usedTold⟩ := tells_iff.mp told
  obtain ⟨otherHardTold, otherUsedTold⟩ := tells_iff.mp toldOther
  constructor
  · cases hardTold.symm.trans otherHardTold
    rfl
  · cases usedTold.symm.trans otherUsedTold
    rfl

theorem atFault_iff :
    AtFault quota resource failure ↔
      (hardAmount quota resource = .ok none ∧
          failure = .hardStatusMissing quota.metadata.anyName resource) ∨
        (∃ cause, hardAmount quota resource = .error cause ∧
          failure = .invalidQuantity quota.metadata.anyName resource cause) ∨
        ∃ hard, hardAmount quota resource = .ok (some hard) ∧
          ((usedAmount quota resource = .ok none ∧
              failure = .usedStatusMissing quota.metadata.anyName resource) ∨
            ∃ cause, usedAmount quota resource = .error cause ∧
              failure = .invalidQuantity quota.metadata.anyName resource cause) := by
  simp only [hardAmount, usedAmount, amountOf_eq_some_iff, amountOf_eq_none_iff,
    amountOf_eq_error_iff]
  constructor
  · rintro (absent | ⟨present, unreadable⟩ | ⟨present, read, absent⟩ |
      ⟨hardPresent, read, present, unreadable⟩)
    · exact .inl ⟨absent, rfl⟩
    · exact .inr (.inl ⟨_, ⟨_, present, unreadable⟩, rfl⟩)
    · exact .inr (.inr ⟨_, ⟨_, present, read⟩, .inl ⟨absent, rfl⟩⟩)
    · exact .inr (.inr ⟨_, ⟨_, hardPresent, read⟩, .inr ⟨_, ⟨_, present, unreadable⟩, rfl⟩⟩)
  · rintro (⟨absent, rfl⟩ | ⟨cause, ⟨text, present, unreadable⟩, rfl⟩ |
      ⟨hard, ⟨hardText, hardPresent, read⟩,
        ⟨absent, rfl⟩ | ⟨cause, ⟨text, present, unreadable⟩, rfl⟩⟩)
    · exact .hardMissing absent
    · exact .hardUnreadable present unreadable
    · exact .usedMissing hardPresent read absent
    · exact .usedUnreadable hardPresent read present unreadable

theorem quotaHasCapacity_eq_error_iff :
    quotaHasCapacity quota resource = .error failure ↔
      restricts quota resource = true ∧ AtFault quota resource failure := by
  unfold quotaHasCapacity
  cases restricts quota resource with
  | false => simp
  | true =>
      simp only [↓reduceIte, true_and, bind_eq_error_iff, requireAmount_eq_error_iff,
        requireAmount_eq_ok_iff, pure_ne_error, and_false, exists_false, or_false, atFault_iff,
        or_assoc]

theorem quotaHasCapacity_eq_true_iff :
    quotaHasCapacity quota resource = .ok true ↔
      (restricts quota resource = true →
        ∃ hard used, Tells quota resource hard used ∧ used + 1000 ≤ hard) := by
  rw [quotaHasCapacity_eq_ok_iff]
  constructor
  · rintro (⟨unrestricted, _⟩ | ⟨_, hard, used, hardTold, usedTold, judged⟩) restricting
    · cases unrestricted.symm.trans restricting
    · exact ⟨hard, used, tells_iff.mpr ⟨hardTold, usedTold⟩, judged.mp rfl⟩
  · intro roomy
    cases restricting : restricts quota resource with
    | false => exact .inl ⟨rfl, rfl⟩
    | true =>
        obtain ⟨hard, used, told, fits⟩ := roomy restricting
        obtain ⟨hardTold, usedTold⟩ := tells_iff.mp told
        exact .inr ⟨rfl, hard, used, hardTold, usedTold, iff_of_true rfl fits⟩

theorem exists_quotaHasCapacity_iff :
    (∃ fits, quotaHasCapacity quota resource = .ok fits) ↔
      (restricts quota resource = true → ∃ hard used, Tells quota resource hard used) := by
  constructor
  · rintro ⟨fits, decided⟩ restricting
    rcases quotaHasCapacity_eq_ok_iff.mp decided with
      ⟨unrestricted, _⟩ | ⟨_, hard, used, hardTold, usedTold, _⟩
    · cases unrestricted.symm.trans restricting
    · exact ⟨hard, used, tells_iff.mpr ⟨hardTold, usedTold⟩⟩
  · intro telling
    cases restricting : restricts quota resource with
    | false => exact ⟨true, quotaHasCapacity_eq_ok_iff.mpr (.inl ⟨restricting, rfl⟩)⟩
    | true =>
        obtain ⟨hard, used, told⟩ := telling restricting
        obtain ⟨hardTold, usedTold⟩ := tells_iff.mp told
        exact ⟨decide (used + 1000 ≤ hard), quotaHasCapacity_eq_ok_iff.mpr
          (.inr ⟨restricting, hard, used, hardTold, usedTold, decide_eq_true_iff⟩)⟩

theorem hasCapacity_eq_error_iff :
    hasCapacity resource quotas = .error failure ↔
      ∃ front quota back, quotas = front ++ quota :: back ∧
        (∀ earlier ∈ front, ∃ fits, quotaHasCapacity earlier resource = .ok fits) ∧
        quotaHasCapacity quota resource = .error failure := by
  induction quotas with
  | nil => simp [hasCapacity]
  | cons quota rest ih =>
      simp only [hasCapacity, bind_eq_error_iff, pure_ne_error, and_false, exists_false, or_false,
        ih]
      constructor
      · rintro (failed | ⟨fits, decided, front, other, back, rfl, earlier, failed⟩)
        · exact ⟨[], quota, rest, rfl, by simp, failed⟩
        · exact ⟨quota :: front, other, back, rfl,
            List.forall_mem_cons.mpr ⟨⟨fits, decided⟩, earlier⟩, failed⟩
      · rintro ⟨front, other, back, split, earlier, failed⟩
        cases front with
        | nil =>
            cases split
            exact .inl failed
        | cons first front =>
            cases split
            obtain ⟨⟨fits, decided⟩, earlier⟩ := List.forall_mem_cons.mp earlier
            exact .inr ⟨fits, decided, front, other, back, rfl, earlier, failed⟩

/-- A quota restricts a resource no more than it did before, by its own amounts. -/
structure NoStricter (resource : String) (before after : ResourceQuota) : Prop where
  restricts : restricts after resource = true → restricts before resource = true
  amounts : ∀ {hard used newHard newUsed : Int}, Tells before resource hard used →
    Tells after resource newHard newUsed → hard ≤ newHard ∧ newUsed ≤ used

theorem noStricter_refl (resource : String) (quota : ResourceQuota) :
    NoStricter resource quota quota where
  restricts := id
  amounts := by
    intro hard used newHard newUsed told toldAgain
    obtain ⟨rfl, rfl⟩ := told.unique toldAgain
    exact ⟨le_rfl, le_rfl⟩

/-- Quotas are judged by what those that restrict the resource tell, in whichever order they stand.
They are judged only if each of them can be, and the first of those that cannot be is named. Room
is not lost by quotas that are raised, used less or taken away. -/
theorem capacity_verdict (resource : String) (quotas : List ResourceQuota) :
    (∀ room, hasCapacity resource quotas = .ok room ↔
      (∀ quota ∈ quotas, restricts quota resource = true →
          ∃ hard used, Tells quota resource hard used) ∧
        (room = true ↔ ∀ quota ∈ quotas, restricts quota resource = true →
          ∃ hard used, Tells quota resource hard used ∧ used + 1000 ≤ hard)) ∧
      (∀ failure, hasCapacity resource quotas = .error failure ↔
        ∃ front quota back, quotas = front ++ quota :: back ∧
          (∀ earlier ∈ front, restricts earlier resource = true →
            ∀ other, ¬AtFault earlier resource other) ∧
          restricts quota resource = true ∧ AtFault quota resource failure) ∧
      (∀ shuffled, shuffled.Perm quotas → ∀ room,
        hasCapacity resource shuffled = .ok room ↔ hasCapacity resource quotas = .ok room) ∧
      ∀ eased, (∀ after ∈ eased, ∃ before ∈ quotas, NoStricter resource before after) →
        hasCapacity resource quotas = .ok true →
          ∀ room, hasCapacity resource eased = .ok room → room = true := by
  refine ⟨?_, ?_, ?_, ?_⟩
  · intro room
    simp only [hasCapacity_eq_ok_iff, exists_quotaHasCapacity_iff, quotaHasCapacity_eq_true_iff]
  · intro failure
    have judged {quota : ResourceQuota} : (∃ fits, quotaHasCapacity quota resource = .ok fits) ↔
        (restricts quota resource = true → ∀ other, ¬AtFault quota resource other) := by
      simp only [exists_ok_iff, ne_eq, quotaHasCapacity_eq_error_iff, not_and]
      exact forall_comm
    simp only [hasCapacity_eq_error_iff, judged, quotaHasCapacity_eq_error_iff]
  · intro shuffled same room
    simp only [hasCapacity_eq_ok_iff, same.mem_iff]
  · intro eased related full room decided
    have roomy := (hasCapacity_eq_ok_iff.mp full).2.mp rfl
    obtain ⟨telling, verdict⟩ := hasCapacity_eq_ok_iff.mp decided
    refine verdict.mpr fun after member => quotaHasCapacity_eq_true_iff.mpr fun restricting => ?_
    obtain ⟨before, known, noStricter⟩ := related after member
    obtain ⟨newHard, newUsed, newTold⟩ :=
      exists_quotaHasCapacity_iff.mp (telling after member) restricting
    obtain ⟨hard, used, told, fits⟩ :=
      quotaHasCapacity_eq_true_iff.mp (roomy before known) (noStricter.restricts restricting)
    obtain ⟨raised, lowered⟩ := noStricter.amounts told newTold
    exact ⟨newHard, newUsed, newTold, by omega⟩

namespace Sample

def limits (name hard used : String) : ResourceQuota where
  metadata := { name := some name, inNamespace? := some "garden-dev" }
  spec := some { hard := some (.singleton configMapCount hard) }
  status := some {
    hard := some (.singleton configMapCount hard)
    used := some (.singleton configMapCount used) }

/-- The limit has been set, but nothing has been counted yet. -/
def fresh : ResourceQuota where
  metadata := { name := some "fresh" }
  spec := some { hard := some (.singleton configMapCount "5") }

private theorem tells_limits {name hardText usedText : String} {hard used : Int}
    (hardRead : Quantity.read hardText = .ok hard) (usedRead : Quantity.read usedText = .ok used) :
    Tells (limits name hardText usedText) configMapCount hard used where
  hard := ⟨hardText, rfl, hardRead⟩
  used := ⟨usedText, rfl, usedRead⟩

private theorem noStricter_tight :
    NoStricter configMapCount (limits "tight" "3" "2") (limits "tight" "3001m" "1e0") where
  restricts := fun _ => rfl
  amounts := by
    intro hard used newHard newUsed told newTold
    have told' : Tells (limits "tight" "3" "2") configMapCount 3000 2000 :=
      tells_limits (by decide +kernel) (by decide +kernel)
    have newTold' : Tells (limits "tight" "3001m" "1e0") configMapCount 3001 1000 :=
      tells_limits (by decide +kernel) (by decide +kernel)
    obtain ⟨rfl, rfl⟩ := told.unique told'
    obtain ⟨rfl, rfl⟩ := newTold.unique newTold'
    decide

end Sample

/-- A quota that is used up does not hide one that cannot be judged. A quota with room for one more
still has it when it is raised and used less, beside another that stays as it is. -/
theorem capacity_verdict_sample :
    hasCapacity configMapCount [Sample.limits "full" "2" "2", Sample.fresh] =
        .error (.hardStatusMissing "fresh" configMapCount) ∧
      hasCapacity configMapCount [Sample.limits "tight" "3" "2", Sample.limits "wide" "1k" "0"] =
        .ok true ∧
      ∀ room, hasCapacity configMapCount
        [Sample.limits "wide" "1k" "0", Sample.limits "tight" "3001m" "1e0"] = .ok room →
          room = true := by
  obtain ⟨_, failing, _, _⟩ :=
    capacity_verdict configMapCount [Sample.limits "full" "2" "2", Sample.fresh]
  obtain ⟨_, _, _, easing⟩ := capacity_verdict configMapCount
    [Sample.limits "tight" "3" "2", Sample.limits "wide" "1k" "0"]
  have usedUp : quotaHasCapacity (Sample.limits "full" "2" "2") configMapCount = .ok false := by
    decide +kernel
  have room : hasCapacity configMapCount
      [Sample.limits "tight" "3" "2", Sample.limits "wide" "1k" "0"] = .ok true := by
    decide +kernel
  refine ⟨(failing _).mpr ⟨[_], Sample.fresh, [], rfl, ?_, rfl, .hardMissing rfl⟩, room,
    easing _ ?_ room⟩
  · intro earlier member restricting other fault
    rw [List.mem_singleton.mp member] at restricting fault
    cases usedUp.symm.trans (quotaHasCapacity_eq_error_iff.mpr ⟨restricting, fault⟩)
  · intro after member
    simp only [List.mem_cons, List.not_mem_nil, or_false] at member
    rcases member with rfl | rfl
    · exact ⟨_, by simp, noStricter_refl _ _⟩
    · exact ⟨_, List.mem_cons_self, Sample.noStricter_tight⟩

end Verdict

end Quota

end ShootKubeconfig
