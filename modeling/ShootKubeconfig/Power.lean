/-! Powers of numbers are the built-in ones, whatever else is imported. -/

namespace ShootKubeconfig

@[default_instance 10000]
instance (priority := 10000) builtInPower {α : Type} [NatPow α] : Pow α Nat :=
  instPowNat

end ShootKubeconfig
