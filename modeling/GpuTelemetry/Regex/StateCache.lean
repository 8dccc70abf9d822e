import GpuTelemetry.Regex.Extent
import Std.Data.HashMap

/-!
# Remembering states

A state that has been built can be used again for a part that needs the same
one. Only so many states are remembered: each has its place, and a state is
forgotten when another one takes its place.
-/

namespace GpuTelemetry.Regex

/-- The hash of a state that consists of nothing. -/
def hashStart : UInt64 := 14695981039346656037

/-- What a hash is multiplied by for each part. -/
def hashFactor : UInt64 := 1099511628211

/-- The place of a state before it is reduced to the number of places: a hash of what the state
consists of. -/
def stateHash (content : List Nat) : UInt64 :=
  content.foldl (fun hash n => (hash ^^^ n.toUInt64) * hashFactor) hashStart

/-- The states that are remembered, with what they consist of. -/
structure StateCache where
  places : Nat
  held : Std.HashMap Nat (List Nat × Nat) := {}

namespace StateCache

def place (cache : StateCache) (content : List Nat) : Nat :=
  (stateHash content).toNat % cache.places

/-- The state that consists of something, if it is remembered. -/
def find? (cache : StateCache) (content : List Nat) : Option Nat :=
  match cache.held[cache.place content]? with
  | some (known, state) => if known = content then some state else none
  | none => none

def insert (cache : StateCache) (content : List Nat) (state : Nat) : StateCache :=
  { cache with held := cache.held.insert (cache.place content) (content, state) }

theorem find?_insert_self (cache : StateCache) (content : List Nat) (state : Nat) :
    (cache.insert content state).find? content = some state := by
  simp [find?, insert, place]

end StateCache

/-- An automaton that is being built, with the states of it that are remembered. -/
structure Construction where
  extent : Extent
  cache : StateCache

namespace Construction

/-- The state that consists of something and takes extra bytes, which is built unless it is
remembered. -/
def state (content : List Nat) (extra : Nat) (built : Construction) :
    Option (Nat × Construction) :=
  match built.cache.find? content with
  | some state => some (state, built)
  | none =>
    (built.extent.add 1 extra).map fun extent =>
      let state := built.extent.states
      (state, { extent, cache := built.cache.insert content state })

theorem state_of_find? {content : List Nat} {extra state : Nat} {built : Construction}
    (h : built.cache.find? content = some state) :
    built.state content extra = some (state, built) := by
  simp [Construction.state, h]

end Construction

end GpuTelemetry.Regex
