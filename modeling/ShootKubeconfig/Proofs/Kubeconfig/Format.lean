import ShootKubeconfig.Proofs.Kubeconfig.Request
import ShootKubeconfig.Proofs.Version

/-!
Which form of a kubeconfig a Kubernetes version asks for.

Versions are compared as a whole, but between a release and the first one of a minor release only
the first two numbers can decide. So the form is the same for all patches and builds, and newer
releases never go back to the older form.
-/

namespace ShootKubeconfig.Kubeconfig.Format

/-- What is left of a text without the blanks around it, and then without all of the letters `v`
before the rest. -/
structure Bare (text : String) (bare : List Char) : Prop where
  marked : ∃ count, Text.Trims text.toList (List.replicate count 'v' ++ bare)
  unmarked : bare.head? ≠ some 'v'

def Names (text : String) (version : Version) : Prop :=
  ∃ bare, Bare text bare ∧ version.Written bare

section Bare

variable {text : String} {bare : List Char}

private theorem dropMarks_eq_iff {trimmed : List Char} :
    trimmed.dropWhile (· == 'v') = bare ↔
      (∃ count, trimmed = List.replicate count 'v' ++ bare) ∧ bare.head? ≠ some 'v' := by
  constructor
  · rintro rfl
    obtain ⟨whole, all, stops⟩ := Text.run_append (· == 'v') trimmed
    refine ⟨⟨(trimmed.takeWhile (· == 'v')).length, ?_⟩, fun starts => ?_⟩
    · rw [← List.eq_replicate_of_mem fun c held => eq_of_beq (all c held)]
      exact whole
    · exact absurd (stops 'v' starts) (by decide)
  · rintro ⟨⟨count, rfl⟩, unmarked⟩
    refine (Text.run_iff.mpr ⟨rfl, fun c held => ?_, fun c starts => ?_⟩).2
    · exact beq_iff_eq.mpr (List.eq_of_mem_replicate held)
    · exact beq_eq_false_iff_ne.mpr fun mark => unmarked (mark ▸ starts)

theorem bare_iff : Bare text bare ↔ versionText text = bare := by
  rw [versionText, dropMarks_eq_iff]
  constructor
  · rintro ⟨⟨count, trims⟩, unmarked⟩
    exact ⟨⟨count, trims.eq_trimBlank.symm⟩, unmarked⟩
  · rintro ⟨⟨count, marked⟩, unmarked⟩
    exact ⟨⟨count, marked ▸ Text.trims_trimBlank text.toList⟩, unmarked⟩

private theorem versionText_surrounded {front back : List Char}
    (blankFront : front.all Text.isBlank = true) (blankBack : back.all Text.isBlank = true) :
    versionText (String.ofList (front ++ text.toList ++ back)) = versionText text := by
  have trims := (Text.trims_trimBlank text.toList).surrounded blankFront blankBack
  rw [versionText, String.toList_ofList, ← trims.eq_trimBlank]
  rfl

private theorem versionText_marked {trimmed : List Char} (trims : Text.Trims text.toList trimmed)
    (count : Nat) :
    versionText (String.ofList (List.replicate count 'v' ++ trimmed)) = versionText text := by
  have unblank : ∀ c ∈ List.replicate count 'v', Text.isBlank c = false := by
    intro c held
    rw [List.eq_of_mem_replicate held]
    rfl
  have marks : ∀ c ∈ List.replicate count 'v', (c == 'v') = true := by
    intro c held
    rw [List.eq_of_mem_replicate held]
    rfl
  rw [versionText, String.toList_ofList, ← (trims.append unblank).eq_trimBlank,
    List.dropWhile_append_of_pos marks, trims.eq_trimBlank]
  rfl

end Bare

section Switch

variable {text other : String} {version : Version} {format : Format}

theorem ofVersion_eq (version : Version) :
    ofVersion version =
      if version.preRelease = [] ∧ version.release.Below 1 20 then .legacy else .current := by
  unfold ofVersion
  by_cases released : version.preRelease = []
  · simp only [firstWithExtensions, Version.order_eq_lt_iff_of_released released,
      Release.order_eq_lt_iff_below]
  · simp only [released, false_and, if_false]

theorem names_iff : Names text version ↔ Version.read (versionText text) = .ok version := by
  unfold Names
  simp only [bare_iff, exists_eq_left', Version.read_eq_ok_iff]

theorem ofKubernetesVersion_of_names (names : Names text version) :
    ofKubernetesVersion text = .ok (ofVersion version) :=
  ofKubernetesVersion_eq_ok_iff.mpr ⟨version, names_iff.mp names, rfl⟩

theorem ofKubernetesVersion_of_unnamed (unnamed : ∀ version, ¬Names text version) :
    ∃ cause, ofKubernetesVersion text = .error (.kubernetesVersion text cause) := by
  unfold ofKubernetesVersion
  cases read : Version.read (versionText text) with
  | ok version => exact absurd (names_iff.mpr read) (unnamed version)
  | error cause => exact ⟨cause, rfl⟩

theorem ofKubernetesVersion_congr (same : versionText other = versionText text)
    (accepted : ofKubernetesVersion text = .ok format) :
    ofKubernetesVersion other = .ok format := by
  rw [ofKubernetesVersion_eq_ok_iff, same]
  exact ofKubernetesVersion_eq_ok_iff.mp accepted

private theorem exists_unique_bare (text : String) : ∃! bare, Bare text bare :=
  ⟨versionText text, bare_iff.mpr rfl, fun _ left => (bare_iff.mp left).symm⟩

theorem unwritten_iff {bare : List Char} (left : Bare text bare) :
    (∃ cause, ofKubernetesVersion text = .error (.kubernetesVersion text cause)) ↔
      ∀ version, ¬Version.Written bare version := by
  constructor
  · rintro ⟨cause, failed⟩ version written
    rw [ofKubernetesVersion_of_names ⟨bare, left, written⟩] at failed
    cases failed
  · intro unwritten
    refine ofKubernetesVersion_of_unnamed ?_
    rintro version ⟨bare', left', written⟩
    obtain rfl : bare = bare' := (bare_iff.mp left).symm.trans (bare_iff.mp left')
    exact unwritten version written

/-- A newer release does not go back to the older form. -/
theorem ofVersion_monotone {version newer : Version} (released : version.preRelease = [])
    (ordered : version.precedence newer ≠ .gt) (current : ofVersion version = .current) :
    ofVersion newer = .current := by
  rw [ofVersion_eq] at current ⊢
  refine if_neg ?_
  rintro ⟨released', below⟩
  have numbersOrdered : version.release.order newer.release ≠ .gt := by
    intro after
    exact ordered (Ordering.then_eq_gt.mpr (.inl after))
  rw [if_pos ⟨released, below.of_order numbersOrdered⟩] at current
  cases current

/-- The form is chosen exactly where the text is a version, and by the first two numbers of a
release alone. What stands around the version does not matter, nor does its build metadata, and
newer releases keep the newer form. -/
theorem switch_exact :
    (∀ text, ∃! bare, Bare text bare) ∧
    (∀ text bare, Bare text bare →
      ((∃ cause, ofKubernetesVersion text = .error (.kubernetesVersion text cause)) ↔
        ∀ version, ¬Version.Written bare version) ∧
      ∀ version, Version.Written bare version →
        ofKubernetesVersion text = .ok
          (if version.preRelease = [] ∧ version.release.Below 1 20 then .legacy else .current)) ∧
    (∀ text other version newer, Names text version → Names other newer →
      version.preRelease = [] → version.precedence newer ≠ .gt →
        ofKubernetesVersion text = .ok .current → ofKubernetesVersion other = .ok .current) ∧
    (∀ text format front back, ofKubernetesVersion text = .ok format →
      front.all Text.isBlank = true → back.all Text.isBlank = true →
        ofKubernetesVersion (String.ofList (front ++ text.toList ++ back)) = .ok format) ∧
    (∀ text format trimmed count, ofKubernetesVersion text = .ok format →
      Text.Trims text.toList trimmed →
        ofKubernetesVersion (String.ofList (List.replicate count 'v' ++ trimmed)) = .ok format) ∧
    (∀ text other version build, Names text version → Names other { version with build } →
      ofKubernetesVersion other = ofKubernetesVersion text) ∧
    ∀ text version, Names text version → version.preRelease ≠ [] →
      ofKubernetesVersion text = .ok .current := by
  refine ⟨exists_unique_bare, ?_, ?_, ?_, ?_, ?_, ?_⟩
  · intro text bare left
    refine ⟨unwritten_iff left, fun version written => ?_⟩
    rw [← ofVersion_eq]
    exact ofKubernetesVersion_of_names ⟨bare, left, written⟩
  · intro text other version newer names names' released ordered current
    rw [ofKubernetesVersion_of_names names, Except.ok.injEq] at current
    rw [ofKubernetesVersion_of_names names', ofVersion_monotone released ordered current]
  · intro text format front back accepted blankFront blankBack
    exact ofKubernetesVersion_congr (versionText_surrounded blankFront blankBack) accepted
  · intro text format trimmed count accepted trims
    exact ofKubernetesVersion_congr (versionText_marked trims count) accepted
  · intro text other version build names names'
    rw [ofKubernetesVersion_of_names names, ofKubernetesVersion_of_names names', ofVersion_eq,
      ofVersion_eq]
  · intro text version names early
    rw [ofKubernetesVersion_of_names names, ofVersion_eq,
      if_neg fun ⟨released, _⟩ => early released]

namespace Sample

def lastOld : Version := { release := ⟨1, 19, 16⟩, build := "gke.07".toList }

def early : Version := { lastOld with preRelease := "rc.1".toList }

def firstNew : Version := { release := ⟨1, 20, 0⟩ }

def nextNew : Version := { release := ⟨1, 20, 1⟩, build := ['x'] }

private theorem names_lastOld : Names " vv1.19.16+gke.07\n" lastOld := names_iff.mpr rfl

private theorem names_firstNew : Names "1.20.0" firstNew := names_iff.mpr rfl

private theorem names_nextNew : Names "1.20.1+x" nextNew := names_iff.mpr rfl

theorem unwritten : ∀ version, ¬Version.Written "1.20".toList version := by
  intro version written
  cases Version.read_eq_ok_iff.mpr written

end Sample

theorem switch_exact_sample :
    ofKubernetesVersion " vv1.19.16+gke.07\n" = .ok .legacy ∧
      (∃ cause, ofKubernetesVersion "v1.20" = .error (.kubernetesVersion "v1.20" cause)) ∧
      ofKubernetesVersion "1.20.1+x" = .ok .current ∧
      ofKubernetesVersion "\t vv1.19.16+gke.07\n " = .ok .legacy ∧
      ofKubernetesVersion "vvv1.19.16+gke.07" = .ok .legacy ∧
      ofKubernetesVersion "1.19.16" = ofKubernetesVersion " vv1.19.16+gke.07\n" ∧
      ofKubernetesVersion "1.19.16-rc.1+gke.07" = .ok .current := by
  obtain ⟨_, exactly, onward, blanks, marks, builds, ahead⟩ := switch_exact
  have old : ofKubernetesVersion " vv1.19.16+gke.07\n" = .ok .legacy :=
    (exactly _ "1.19.16+gke.07".toList (bare_iff.mpr rfl)).2 Sample.lastOld
      (Version.read_eq_ok_iff.mp rfl)
  have new : ofKubernetesVersion "1.20.0" = .ok .current :=
    (exactly _ "1.20.0".toList (bare_iff.mpr rfl)).2 Sample.firstNew (Version.read_eq_ok_iff.mp rfl)
  refine ⟨old, ?_, ?_, ?_, ?_, ?_, ?_⟩
  · exact (exactly "v1.20" "1.20".toList (bare_iff.mpr rfl)).1.mpr Sample.unwritten
  · exact onward _ _ _ _ Sample.names_firstNew Sample.names_nextNew rfl (by decide) new
  · have same : String.ofList (['\t'] ++ " vv1.19.16+gke.07\n".toList ++ [' ']) =
        "\t vv1.19.16+gke.07\n " := rfl
    rw [← same]
    exact blanks _ _ _ _ old rfl rfl
  · have same : String.ofList (List.replicate 1 'v' ++ "vv1.19.16+gke.07".toList) =
        "vvv1.19.16+gke.07" := rfl
    rw [← same]
    exact marks _ _ _ 1 old (Text.trims_iff.mpr rfl)
  · exact builds _ "1.19.16" Sample.lastOld [] Sample.names_lastOld (names_iff.mpr rfl)
  · exact ahead _ Sample.early (names_iff.mpr rfl) (by decide)

end Switch

end ShootKubeconfig.Kubeconfig.Format
