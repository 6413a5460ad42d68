import Mathlib.Data.List.TakeWhile
import ShootKubeconfig.Text.Blank

namespace ShootKubeconfig.Text

section Run

variable {α : Type} {p : α → Bool} {text run rest run' rest' : List α}

theorem run_iff :
    text.takeWhile p = run ∧ text.dropWhile p = rest ↔
      text = run ++ rest ∧ (∀ c ∈ run, p c = true) ∧
        ∀ c, rest.head? = some c → p c = false := by
  constructor
  · rintro ⟨rfl, rfl⟩
    refine ⟨List.takeWhile_append_dropWhile.symm, fun c => List.mem_takeWhile_imp, ?_⟩
    intro c first
    have stopped := List.head?_dropWhile_not p text
    rw [first] at stopped
    exact stopped
  · rintro ⟨rfl, all, stops⟩
    rw [List.takeWhile_append_of_pos all, List.dropWhile_append_of_pos all]
    cases rest with
    | nil => simp
    | cons c rest => simp [stops c rfl]

theorem run_append (p : α → Bool) (text : List α) :
    text = text.takeWhile p ++ text.dropWhile p ∧
      (∀ c ∈ text.takeWhile p, p c = true) ∧
        ∀ c, (text.dropWhile p).head? = some c → p c = false :=
  run_iff.mp ⟨rfl, rfl⟩

theorem run_unique (same : run ++ rest = run' ++ rest')
    (all : ∀ c ∈ run, p c = true) (all' : ∀ c ∈ run', p c = true)
    (stops : ∀ c, rest.head? = some c → p c = false)
    (stops' : ∀ c, rest'.head? = some c → p c = false) :
    run = run' ∧ rest = rest' := by
  obtain ⟨taken, left⟩ := run_iff.mpr ⟨rfl, all, stops⟩
  obtain ⟨taken', left'⟩ := run_iff.mpr ⟨same, all', stops'⟩
  exact ⟨taken.symm.trans taken', left.symm.trans left'⟩

end Run

section Trims

variable {text trimmed front back : List Char}

private theorem trimBlankEnd_append (ends : ∀ c, trimmed.getLast? = some c → isBlank c = false)
    (blank : back.all isBlank = true) : trimBlankEnd (trimmed ++ back) = trimmed := by
  have stops : ∀ c, trimmed.reverse.head? = some c → isBlank c = false := by
    simpa only [List.head?_reverse] using ends
  have all : ∀ c ∈ back.reverse, isBlank c = true := by
    simpa only [List.mem_reverse, List.all_eq_true] using blank
  obtain ⟨-, left⟩ := run_iff.mpr ⟨rfl, all, stops⟩
  rw [trimBlankEnd, List.reverse_append, left, List.reverse_reverse]

private theorem trimBlankStart_append (starts : ∀ c, text.head? = some c → isBlank c = false)
    (blank : front.all isBlank = true) : trimBlankStart (front ++ text) = text :=
  (run_iff.mpr ⟨rfl, List.all_eq_true.mp blank, starts⟩).2

theorem Trims.eq_trimBlank (trims : Trims text trimmed) : trimmed = trimBlank text := by
  obtain ⟨⟨front, back, rfl, blankFront, blankBack⟩, starts, ends⟩ := trims
  cases trimmed with
  | nil =>
      have blank : (front ++ back).all isBlank = true := by
        rw [List.all_append, blankFront, blankBack]
        rfl
      have none : trimBlankStart (front ++ back ++ []) = [] :=
        trimBlankStart_append (by simp) blank
      rw [List.append_nil] at none
      rw [List.nil_append, trimBlank, none]
      rfl
  | cons c trimmed =>
      have started : ∀ c', (c :: trimmed ++ back).head? = some c' → isBlank c' = false := starts
      rw [trimBlank, trimBlankStart_append started blankFront, trimBlankEnd_append ends blankBack]

theorem trims_iff : Trims text trimmed ↔ trimmed = trimBlank text := by
  constructor
  · exact Trims.eq_trimBlank
  · rintro rfl
    exact trims_trimBlank text

theorem Trims.surrounded (trims : Trims text trimmed) (blankFront : front.all isBlank = true)
    (blankBack : back.all isBlank = true) : Trims (front ++ text ++ back) trimmed := by
  obtain ⟨⟨front', back', rfl, blankFront', blankBack'⟩, starts, ends⟩ := trims
  refine ⟨⟨front ++ front', back' ++ back, by simp, ?_, ?_⟩, starts, ends⟩
  · rw [List.all_append, blankFront, blankFront']
    rfl
  · rw [List.all_append, blankBack', blankBack]
    rfl

theorem Trims.append (trims : Trims text trimmed) (unblank : ∀ c ∈ front, isBlank c = false) :
    Trims (front ++ trimmed) (front ++ trimmed) where
  blanks := ⟨[], [], by simp, rfl, rfl⟩
  starts := by
    intro c starts
    rw [List.head?_append, Option.or_eq_some_iff] at starts
    rcases starts with starts | ⟨-, starts⟩
    · exact unblank c (List.mem_of_mem_head? starts)
    · exact trims.starts c starts
  ends := by
    intro c ends
    rw [List.getLast?_append, Option.or_eq_some_iff] at ends
    rcases ends with ends | ⟨-, ends⟩
    · exact trims.ends c ends
    · exact unblank c (List.mem_of_mem_getLast? ends)

end Trims

end ShootKubeconfig.Text
