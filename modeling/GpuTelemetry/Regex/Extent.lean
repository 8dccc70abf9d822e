/-!
# Extents

Automata are built state by state, and they may take so many bytes. A state
takes a fixed number of bytes, and more for what it leads to.
-/

namespace GpuTelemetry.Regex

/-- The bytes that an automaton may take. -/
def sizeLimit : Nat := 10 <<< 20

/-- The bytes that every state takes. -/
def stateSize : Nat := 32

/-- The bytes of a reference to a state. -/
def referenceSize : Nat := 4

/-- The bytes of a range of bytes with a reference to a state. -/
def transitionSize : Nat := 8

/-- How much of an automaton has been built. -/
structure Extent where
  states : Nat := 0
  /-- The bytes that the states take apart from their fixed part. -/
  extra : Nat := 0
  deriving DecidableEq

namespace Extent

/-- The bytes of the states. -/
def size (extent : Extent) : Nat :=
  stateSize * extent.states + extent.extra

/-- Two extents together. -/
def plus (a b : Extent) : Extent where
  states := a.states + b.states
  extra := a.extra + b.extra

def sum (extents : List Extent) : Extent :=
  extents.foldr plus {}

theorem size_plus (a b : Extent) : (a.plus b).size = a.size + b.size := by
  simp only [size, plus, stateSize]
  omega

/-- Builds more, unless that is too much. -/
def add (states extra : Nat) (extent : Extent) : Option Extent :=
  let grown := extent.plus { states, extra }
  if sizeLimit < grown.size then none else some grown

/-- Builds the same `n` times. -/
def repeated (build : Extent → Option Extent) : Nat → Extent → Option Extent
  | 0, extent => some extent
  | n + 1, extent =>
    match build extent with
    | none => none
    | some extent => repeated build n extent

theorem size_add {states extra : Nat} {extent grown : Extent}
    (h : extent.add states extra = some grown) :
    grown.size = extent.size + stateSize * states + extra ∧ grown.size ≤ sizeLimit := by
  unfold add at h
  dsimp only at h
  split at h
  · cases h
  · cases h
    rw [size_plus] at *
    simp only [size] at *
    omega

theorem size_repeated_le {build : Extent → Option Extent}
    (hbuild : ∀ x y, build x = some y → x.size ≤ y.size) {n : Nat} {extent grown : Extent}
    (h : repeated build n extent = some grown) : extent.size ≤ grown.size := by
  induction n generalizing extent with
  | zero => cases h; exact Nat.le_refl _
  | succ n ih =>
    unfold repeated at h
    split at h
    · cases h
    · rename_i mid hmid
      exact Nat.le_trans (hbuild _ _ hmid) (ih h)

end Extent

end GpuTelemetry.Regex
