namespace ShootKubeconfig

variable {ε ε' α β : Type}

@[simp] theorem bind_eq_ok_iff {computed : Except ε α} {next : α → Except ε β} {result : β} :
    (computed >>= next) = .ok result ↔ ∃ value, computed = .ok value ∧ next value = .ok result := by
  cases computed <;> simp [bind, Except.bind]

theorem bind_eq_error_iff {computed : Except ε α} {next : α → Except ε β} {failure : ε} :
    (computed >>= next) = .error failure ↔
      computed = .error failure ∨ ∃ value, computed = .ok value ∧ next value = .error failure := by
  cases computed <;> simp [bind, Except.bind]

theorem exists_ok_iff {computed : Except ε α} :
    (∃ value, computed = .ok value) ↔ ∀ failure, computed ≠ .error failure := by
  cases computed <;> simp

@[simp] theorem pure_eq_ok_iff {value result : α} :
    (pure value : Except ε α) = .ok result ↔ value = result := by
  simp [pure, Except.pure]

@[simp] theorem pure_ne_error {value : α} {failure : ε} :
    (pure value : Except ε α) ≠ .error failure := by
  simp [pure, Except.pure]

@[simp] theorem map_eq_ok_iff {computed : Except ε α} {f : α → β} {result : β} :
    f <$> computed = .ok result ↔ ∃ value, computed = .ok value ∧ f value = result := by
  cases computed <;> simp [Functor.map, Except.map]

@[simp] theorem mapError_eq_ok_iff {computed : Except ε α} {wrap : ε → ε'} {result : α} :
    computed.mapError wrap = .ok result ↔ computed = .ok result := by
  cases computed with
  | error failure =>
      constructor
      · intro impossible
        cases impossible
      · intro impossible
        cases impossible
  | ok value =>
      constructor
      · intro same
        cases same
        rfl
      · intro same
        cases same
        rfl

theorem toOption_eq_some_iff {computed : Except ε α} {result : α} :
    computed.toOption = some result ↔ computed = .ok result := by
  cases computed <;> simp [Except.toOption]

end ShootKubeconfig
