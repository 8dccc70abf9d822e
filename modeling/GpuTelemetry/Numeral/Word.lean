import GpuTelemetry.Numeral.Integer

/-!
# Unsigned words

Metrics are unsigned words of 32 or 64 bits. `Word` is what both widths have in
common: a size, and the passage to natural numbers and back.
-/

namespace GpuTelemetry

class Word (α : Type) where
  size : Nat
  toNat : α → Nat
  ofNat : Nat → α
  size_pos : 0 < size
  toNat_lt : ∀ a, toNat a < size
  ofNat_toNat : ∀ a, ofNat (toNat a) = a
  toNat_ofNat : ∀ n, n < size → toNat (ofNat n) = n

instance : Word UInt32 where
  size := 2 ^ 32
  toNat := UInt32.toNat
  ofNat := UInt32.ofNat
  size_pos := by decide
  toNat_lt a := a.toNat_lt
  ofNat_toNat _ := UInt32.ofNat_toNat
  toNat_ofNat _ h := UInt32.toNat_ofNat_of_lt' h

instance : Word UInt64 where
  size := 2 ^ 64
  toNat := UInt64.toNat
  ofNat := UInt64.ofNat
  size_pos := by decide
  toNat_lt a := a.toNat_lt
  ofNat_toNat _ := UInt64.ofNat_toNat
  toNat_ofNat _ h := UInt64.toNat_ofNat_of_lt' h

namespace Word

variable {α : Type} [Word α]

def saturate (n : Nat) : α :=
  ofNat (min n (size α - 1))

def saturatingAdd (a b : α) : α :=
  saturate (toNat a + toNat b)

def saturatingMul (a b : α) : α :=
  saturate (toNat a * toNat b)

/-- The word that a numeral spells, if it is in range. -/
def read? (cs : List Char) : Option α :=
  (Numeral.readUnsigned (size α - 1) cs).toOption.map ofNat

theorem toNat_saturate (n : Nat) : toNat (saturate n : α) = min n (size α - 1) := by
  have := size_pos (α := α)
  exact toNat_ofNat _ (by omega)

theorem toNat_injective {a b : α} (h : toNat a = toNat b) : a = b := by
  rw [← ofNat_toNat a, h, ofNat_toNat]

end Word

end GpuTelemetry
