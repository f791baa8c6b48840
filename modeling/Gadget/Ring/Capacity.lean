namespace Gadget

structure Capacity where
  exponent : Nat
  exponent_lt : exponent < 64 := by omega
deriving DecidableEq

namespace Capacity

def size (capacity : Capacity) : Nat := 1 <<< capacity.exponent

theorem size_pos (capacity : Capacity) : 0 < capacity.size := by
  rw [size, Nat.one_shiftLeft]
  exact Nat.two_pow_pos _

theorem size_dvd (capacity : Capacity) : capacity.size ∣ UInt64.size := by
  rw [size, Nat.one_shiftLeft]
  exact Nat.pow_dvd_pow 2 (Nat.le_of_lt capacity.exponent_lt)

theorem size_lt (capacity : Capacity) : capacity.size < UInt64.size := by
  rw [size, Nat.one_shiftLeft]
  exact Nat.pow_lt_pow_right (by decide) capacity.exponent_lt

def ofSize? (n : Nat) : Option Capacity :=
  if fits : n.log2 < 64 then
    if (⟨n.log2, fits⟩ : Capacity).size = n then some ⟨n.log2, fits⟩ else none
  else none

end Capacity

end Gadget
