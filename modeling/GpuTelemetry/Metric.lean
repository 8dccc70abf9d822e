import GpuTelemetry.Fault
import GpuTelemetry.Numeral.Word

/-!
# Metrics

A metric is present with a value or absent, and an absent one is not the same as
zero. Adding a metric to another one counts an absent one as nothing, and leaves
the sum absent only when both are.
-/

namespace GpuTelemetry

abbrev Metric (α : Type) := Option α

namespace Metric

def value {α : Type} : Metric α → Except Fault α
  | some a => .ok a
  | none => .error .absentMetric

variable {α : Type} [Word α]

/-- The sum of two words, which has to be a word. -/
def sum (a b : α) : Except Fault α :=
  if Word.toNat a + Word.toNat b < Word.size α then .ok (Word.ofNat (Word.toNat a + Word.toNat b))
  else .error .additionOverflow

def add (target : Metric α) : Metric α → Except Fault (Metric α)
  | none => .ok target
  | some b => (sum (target.getD (Word.ofNat 0)) b).map some

/-- Adds a value that stays at the largest word once the sum passes it. -/
def addSaturating (target : Metric α) (b : α) : Metric α :=
  some (Word.saturatingAdd (target.getD (Word.ofNat 0)) b)

theorem add_none (target : Metric α) : add target none = .ok target := rfl

theorem sum_eq_ok_iff {a b c : α} :
    sum a b = .ok c ↔ Word.toNat a + Word.toNat b = Word.toNat c := by
  unfold sum
  split
  next h =>
    constructor
    · intro e
      cases e
      rw [Word.toNat_ofNat _ h]
    · intro e
      rw [e, Word.ofNat_toNat]
  next h =>
    constructor
    · intro e
      cases e
    · intro e
      exact absurd (e ▸ Word.toNat_lt c) h

end Metric

end GpuTelemetry
