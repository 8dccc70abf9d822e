import GpuTelemetry.Regex.ByteSequence
import GpuTelemetry.Regex.StateCache
import GpuTelemetry.Unicode.CodePointSet

/-!
# Automata for sets

An automaton for a set of characters reads the bytes of one character, forwards
or backwards. Going forwards the sequences of bytes that end alike share their
ends, going backwards those that begin alike share their beginnings.
-/

namespace GpuTelemetry.Regex

/-- A state that is being built: the ranges of bytes that are finished, with the states that they
lead to, and the range that leads to the next unfinished state. -/
structure OpenState where
  finished : List (Nat × Nat × Nat) := []
  current : Nat × Nat

namespace OpenState

/-- The states for what follows in a sequence. -/
def chain (sequence : ByteSequence) : List OpenState :=
  sequence.map fun range => { current := range }

/-- The finished state, if its current range leads to `next`. -/
def close (opened : OpenState) (next : Nat) (built : Construction) :
    Option (Nat × Construction) :=
  let links := opened.finished ++ [(opened.current.1, opened.current.2, next)]
  built.state (links.flatMap fun link => [link.1, link.2.1, link.2.2])
    (transitionSize * links.length)

/-- Finishes a chain of states which leads to `target`, from its end on, and gives the first
state. -/
def closeAll (target : Nat) : List OpenState → Construction → Option (Nat × Construction)
  | [], built => some (target, built)
  | opened :: rest, built => do
    let (next, built) ← closeAll target rest built
    opened.close next built

/-- Adds a sequence behind the part that it has in common with the chain, and finishes what follows
that part in the chain. -/
def insert (target : Nat) : List OpenState → ByteSequence → Construction →
    Option (List OpenState × Construction)
  | opened :: rest, range :: sequence, built => do
    if opened.current = range then
      let (rest, built) ← insert target rest sequence built
      return (opened :: rest, built)
    else
      let (next, built) ← closeAll target rest built
      let finished := opened.finished ++ [(opened.current.1, opened.current.2, next)]
      return ({ finished, current := range } :: chain sequence, built)
  | [], sequence, built => return (chain sequence, built)
  | chain, [], built => return (chain, built)

end OpenState

/-- The states that are remembered while sequences are read forwards. -/
def forwardPlaces : Nat := 10000

/-- The states that are remembered while sequences are read backwards. -/
def backwardPlaces : Nat := 1000

def buildForward (sequences : List ByteSequence) (extent : Extent) : Option Extent := do
  let target := extent.states
  let built : Construction := { extent := ← extent.add 1 0, cache := { places := forwardPlaces } }
  let (chain, built) ← sequences.foldlM
    (fun (chain, built) sequence => OpenState.insert target chain sequence built) ([], built)
  let (_, built) ← OpenState.closeAll target chain built
  return built.extent

/-- Builds the states that read one sequence backwards and lead to `target`, and the reference to
the last of them. -/
def buildReversed (target : Nat) (sequence : ByteSequence) (built : Construction) :
    Option Construction := do
  let (_, built) ← sequence.foldlM
    (fun (next, built) range => built.state [next, range.1, range.2] 0) (target, built)
  let extent ← built.extent.add 0 referenceSize
  return { built with extent }

/-- Builds the states that read sequences backwards, between a state where all begin and one where
all end. -/
def buildBackward (sequences : List ByteSequence) (extent : Extent) : Option Extent := do
  let target := extent.states + 1
  let built : Construction := { extent := ← extent.add 2 0, cache := { places := backwardPlaces } }
  let built ← sequences.foldlM (fun built sequence => buildReversed target sequence built) built
  return built.extent

/-- Builds the states that read one character of a set. If all are ASCII characters, one state
reads them. -/
def buildSet (backwards : Bool) (set : Unicode.CodePointSet) (extent : Extent) : Option Extent :=
  if set.isAscii then extent.add 2 (transitionSize * set.ranges.length)
  else if backwards then buildBackward (byteSequences set.ranges) extent
  else buildForward (byteSequences set.ranges) extent

end GpuTelemetry.Regex
