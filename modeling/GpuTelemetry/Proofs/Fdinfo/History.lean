import GpuTelemetry.Proofs.Fdinfo.Reading
import GpuTelemetry.Proofs.Split

/-!
# What a reader remembers of its calls

A reader forgets everything but the last two cycles. `Seen` tells from the calls
alone which clients were read, and how many rotations ago. The invariant
`Remembers` says that the running generation holds the clients seen since the
last rotation and the previous one those of the cycle before that have not been
seen again. From it follow the rates of any reading in any run.
-/

namespace GpuTelemetry

inductive ReaderCall
  | read (text : List Char) (process : GpuProcess) (now : Nat)
  | rotate

namespace ReaderCall

def isRotate : ReaderCall → Bool
  | read _ _ _ => false
  | rotate => true

/-- The client that a call makes known to a reader at an address, and what there is to remember. -/
def sighting? (address : List Char) : ReaderCall → Option (ClientKey × ClientReading)
  | read text process now =>
    if Fdinfo.isAbout address (Fdinfo.entries text) then
      (Fdinfo.clientKey? process.pid (Fdinfo.entries text)).map fun key =>
        (key, FdinfoReader.readingOf text process now)
    else none
  | rotate => none

end ReaderCall

/-- One of the calls made a client known, and since then there have been so many rotations. -/
def Seen (address : List Char) (calls : List ReaderCall) (rotations : Nat) (key : ClientKey)
    (reading : ClientReading) : Prop :=
  ∃ before call after, calls = before ++ call :: after ∧
    call.sighting? address = some (key, reading) ∧ after.countP ReaderCall.isRotate = rotations

theorem not_seen_nil {address : List Char} {rotations : Nat} {key : ClientKey}
    {reading : ClientReading} : ¬ Seen address [] rotations key reading := by
  rintro ⟨before, call, after, hcalls, -⟩
  simp at hcalls

theorem seen_append_singleton {address : List Char} {calls : List ReaderCall} {call : ReaderCall}
    {rotations : Nat} {key : ClientKey} {reading : ClientReading} :
    Seen address (calls ++ [call]) rotations key reading ↔
      (rotations = 0 ∧ call.sighting? address = some (key, reading)) ∨
        ∃ earlier, Seen address calls earlier key reading ∧
          rotations = earlier + if call.isRotate then 1 else 0 := by
  constructor
  · rintro ⟨before, seen, after, hcalls, hsighting, hcount⟩
    rcases append_singleton_eq_append_cons_iff.mp hcalls with ⟨rfl, rfl, rfl⟩ | ⟨front, rfl, rfl⟩
    · exact .inl ⟨hcount.symm, hsighting⟩
    · right
      refine ⟨front.countP ReaderCall.isRotate, ⟨before, seen, front, rfl, hsighting, rfl⟩, ?_⟩
      rw [← hcount, List.countP_append, List.countP_singleton]
  · rintro (⟨rfl, hsighting⟩ | ⟨earlier, ⟨before, seen, after, rfl, hsighting, rfl⟩, rfl⟩)
    · exact ⟨calls, call, [], rfl, hsighting, rfl⟩
    · refine ⟨before, seen, after ++ [call], by simp, hsighting, ?_⟩
      rw [List.countP_append, List.countP_singleton]

theorem seen_append_rotate {address : List Char} {calls : List ReaderCall} {rotations : Nat}
    {key : ClientKey} {reading : ClientReading} :
    Seen address (calls ++ [.rotate]) (rotations + 1) key reading ↔
      Seen address calls rotations key reading := by
  rw [seen_append_singleton]
  constructor
  · rintro (⟨hzero, -⟩ | ⟨earlier, hseen, hcount⟩)
    · cases hzero
    · have hearlier : rotations = earlier := Nat.succ.inj hcount
      exact hearlier ▸ hseen
  · intro hseen
    exact .inr ⟨rotations, hseen, rfl⟩

theorem not_seen_append_rotate {address : List Char} {calls : List ReaderCall} {key : ClientKey}
    {reading : ClientReading} : ¬ Seen address (calls ++ [.rotate]) 0 key reading := by
  rw [seen_append_singleton]
  rintro (⟨-, hsighting⟩ | ⟨earlier, -, hcount⟩)
  · cases hsighting
  · cases hcount

theorem seen_append_read {address : List Char} {calls : List ReaderCall} {text : List Char}
    {process : GpuProcess} {now rotations : Nat} {key : ClientKey} {reading : ClientReading} :
    Seen address (calls ++ [.read text process now]) rotations key reading ↔
      (rotations = 0 ∧
        (ReaderCall.read text process now).sighting? address = some (key, reading)) ∨
        Seen address calls rotations key reading := by
  rw [seen_append_singleton]
  constructor
  · rintro (hnew | ⟨earlier, hseen, rfl⟩)
    · exact .inl hnew
    · exact .inr hseen
  · rintro (hnew | hseen)
    · exact .inl hnew
    · exact .inr ⟨rotations, hseen, rfl⟩

namespace FdinfoReader

def call (reader : FdinfoReader) : ReaderCall → Except Fault FdinfoReader
  | .read text process now => (reader.read text process now).map Outcome.reader
  | .rotate => .ok reader.rotate

/-- Makes calls one after the other, up to the first fault. -/
def callAll (reader : FdinfoReader) (calls : List ReaderCall) : Except Fault FdinfoReader :=
  calls.foldlM call reader

theorem callAll_append_singleton {reader final : FdinfoReader} {calls : List ReaderCall}
    {last : ReaderCall} : reader.callAll (calls ++ [last]) = .ok final ↔
      ∃ middle, reader.callAll calls = .ok middle ∧ middle.call last = .ok final := by
  rw [callAll, List.foldlM_append, Fault.bind_eq_ok_iff]
  simp only [List.foldlM_cons, List.foldlM_nil, bind_pure]
  rfl

theorem callAll_append_cons {reader final : FdinfoReader} {before after : List ReaderCall}
    {next : ReaderCall} (h : reader.callAll (before ++ next :: after) = .ok final) :
    ∃ middle, reader.callAll before = .ok middle ∧ ∃ following, middle.call next = .ok following := by
  rw [callAll, List.foldlM_append, Fault.bind_eq_ok_iff] at h
  obtain ⟨middle, hmiddle, hrest⟩ := h
  rw [List.foldlM_cons, Fault.bind_eq_ok_iff] at hrest
  obtain ⟨following, hfollowing, -⟩ := hrest
  exact ⟨middle, hmiddle, following, hfollowing⟩

/-- The two generations of a reader, told by the calls that have been made on it. -/
structure Remembers (address : List Char) (calls : List ReaderCall) (reader : FdinfoReader) :
    Prop where
  address_eq : reader.address = address
  current : ∀ key reading, Generations.find? key reader.clients.current = some reading ↔
    Seen address calls 0 key reading
  previous : ∀ key reading, Generations.find? key reader.clients.previous = some reading ↔
    Seen address calls 1 key reading ∧ ∀ newer, ¬ Seen address calls 0 key newer

theorem remembers_nil (address : List Char) : Remembers address [] { address } where
  address_eq := rfl
  current := by
    intro key reading
    exact ⟨fun hfind => (nomatch hfind), fun hseen => (not_seen_nil hseen).elim⟩
  previous := by
    intro key reading
    exact ⟨fun hfind => (nomatch hfind), fun hseen => (not_seen_nil hseen.1).elim⟩

theorem Remembers.rotate {address : List Char} {calls : List ReaderCall} {reader : FdinfoReader}
    (h : Remembers address calls reader) :
    Remembers address (calls ++ [.rotate]) reader.rotate where
  address_eq := h.address_eq
  current := by
    intro key reading
    exact ⟨fun hfind => (nomatch hfind), fun hseen => (not_seen_append_rotate hseen).elim⟩
  previous := by
    intro key reading
    rw [seen_append_rotate]
    constructor
    · intro hfind
      exact ⟨(h.current key reading).mp hfind, fun newer => not_seen_append_rotate⟩
    · intro hseen
      exact (h.current key reading).mpr hseen.1

theorem Remembers.noting {address : List Char} {calls : List ReaderCall} {reader : FdinfoReader}
    (h : Remembers address calls reader) {text : List Char} {process : GpuProcess}
    (htext : reader.accepts text = true) (hfresh : ¬ reader.repeats process.pid text) (now : Nat) :
    Remembers address (calls ++ [.read text process now]) (reader.noting text process now) := by
  have habout : Fdinfo.isAbout address (Fdinfo.entries text) = true := by
    rw [← h.address_eq]
    exact htext
  have hsighting (key : ClientKey) (reading : ClientReading) :
      (ReaderCall.read text process now).sighting? address = some (key, reading) ↔
        Fdinfo.clientKey? process.pid (Fdinfo.entries text) = some key ∧
          readingOf text process now = reading := by
    simp only [ReaderCall.sighting?, habout, if_true, Option.map_eq_some_iff, Prod.mk.injEq]
    constructor
    · rintro ⟨other, hother, rfl, hreading⟩
      exact ⟨hother, hreading⟩
    · rintro ⟨hkey, hreading⟩
      exact ⟨key, hkey, rfl, hreading⟩
  refine ⟨(address_noting ..).trans h.address_eq, ?_, ?_⟩
  · intro key reading
    rw [find?_noting_current, seen_append_read, hsighting, ← h.current]
    by_cases hkey : Fdinfo.clientKey? process.pid (Fdinfo.entries text) = some key
    · -- the client has not been read in this cycle before
      have hnone : Generations.find? key reader.clients.current = none := by
        rw [← Option.not_isSome_iff_eq_none]
        exact fun hsome => hfresh ⟨key, hkey, hsome⟩
      simp [hkey, hnone]
    · simp [hkey]
  · intro key reading
    rw [find?_noting_previous]
    by_cases hkey : Fdinfo.clientKey? process.pid (Fdinfo.entries text) = some key
    · rw [if_pos hkey]
      constructor
      · intro hnone
        cases hnone
      · rintro ⟨-, hnewer⟩
        refine (hnewer (readingOf text process now) (seen_append_read.mpr (.inl ⟨rfl, ?_⟩))).elim
        exact (hsighting _ _).mpr ⟨hkey, rfl⟩
    · have hsame (rotations : Nat) (other : ClientReading) :
          Seen address (calls ++ [.read text process now]) rotations key other ↔
            Seen address calls rotations key other := by
        rw [seen_append_read, hsighting]
        simp [hkey]
      rw [if_neg hkey, h.previous]
      simp only [hsame]

theorem Remembers.call {address : List Char} {calls : List ReaderCall} {reader after : FdinfoReader}
    (h : Remembers address calls reader) (next : ReaderCall) (hnext : reader.call next = .ok after) :
    Remembers address (calls ++ [next]) after := by
  cases next with
  | rotate =>
      cases hnext
      exact h.rotate
  | read text process now =>
      obtain ⟨outcome, hread, rfl⟩ := Fault.map_eq_ok_iff.mp hnext
      cases htext : reader.accepts text with
      | true =>
          obtain ⟨hfresh, rfl⟩ := (read_eq_ok_iff htext).mp hread
          exact h.noting htext hfresh now
      | false =>
          obtain ⟨left, hleft⟩ := read_of_not_accepts htext process now
          rw [hleft] at hread
          cases hread
          have hsame (rotations : Nat) (key : ClientKey) (reading : ClientReading) :
              Seen address (calls ++ [.read text process now]) rotations key reading ↔
                Seen address calls rotations key reading := by
            have hnone : (ReaderCall.read text process now).sighting? address = none := by
              rw [accepts, h.address_eq] at htext
              simp [ReaderCall.sighting?, htext]
            rw [seen_append_read, hnone]
            simp
          refine ⟨h.address_eq, ?_, ?_⟩
          · intro key reading
            rw [hsame, h.current]
          · intro key reading
            simp only [hsame]
            exact h.previous key reading

theorem remembers_of_callAll {address : List Char} {calls : List ReaderCall} {reader : FdinfoReader}
    (h : callAll { address } calls = .ok reader) : Remembers address calls reader := by
  induction calls using List.reverseRecOn generalizing reader with
  | nil =>
      cases h
      exact remembers_nil address
  | append_singleton calls last ih =>
      obtain ⟨middle, hmiddle, hlast⟩ := callAll_append_singleton.mp h
      exact (ih hmiddle).call last hlast

end FdinfoReader

end GpuTelemetry
