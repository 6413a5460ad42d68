import ShootKubeconfig.Time.Span

namespace ShootKubeconfig

inductive Delay where
  | exactly (span : Span)
  | between (least greatest : Span)
  deriving DecidableEq, Repr

namespace Delay

/-- A window without room leaves its lower end. -/
def jitter (least greatest : Span) : Delay :=
  if greatest ≤ least then .exactly least else .between least greatest

def least : Delay → Span
  | .exactly span => span
  | .between least _ => least

def Allows : Delay → Span → Prop
  | .exactly span, waited => waited = span
  | .between least greatest, waited => least ≤ waited ∧ waited ≤ greatest

theorem allows_jitter_iff {least greatest waited : Span} :
    (jitter least greatest).Allows waited ↔
      if least ≤ greatest then least ≤ waited ∧ waited ≤ greatest else waited = least := by
  unfold jitter
  by_cases ordered : least ≤ greatest
  · rw [if_pos ordered]
    split
    next narrow =>
        constructor
        · rintro rfl
          exact ⟨Nat.le_refl _, ordered⟩
        · rintro ⟨after, before⟩
          exact Span.le_antisymm (Nat.le_trans before narrow) after
    next => exact Iff.rfl
  · have narrow : greatest ≤ least := Nat.le_of_not_le ordered
    rw [if_neg ordered, if_pos narrow]
    exact Iff.rfl

end Delay

end ShootKubeconfig
