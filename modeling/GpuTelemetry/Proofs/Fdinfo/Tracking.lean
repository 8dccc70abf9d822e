import GpuTelemetry.Proofs.Fdinfo.History
import GpuTelemetry.Proofs.Generations

/-!
# Which clients a reader tracks

The store of a reader after any run of calls, told by what the readings of the
run returned. Each generation holds its clients once, with the counters that the
reading left in the record. A reading fails just when its text is accepted and
names a client that has been read since the last rotation.
-/

namespace GpuTelemetry

namespace FdinfoReader

/-- One of the calls read an accepted text of a client, leaving a record with these counters, and
since then there have been so many rotations. -/
def Tracked (address : List Char) (calls : List ReaderCall) (rotations : Nat) (key : ClientKey)
    (reading : ClientReading) : Prop :=
  ∃ before text process now after reader outcome,
    calls = before ++ .read text process now :: after ∧
    callAll { address } before = .ok reader ∧
    reader.read text process now = .ok outcome ∧ outcome.accepted = true ∧
    Fdinfo.clientKey? process.pid (Fdinfo.entries text) = some key ∧
    reading = { counters := outcome.process.engines, time := now } ∧
    after.countP ReaderCall.isRotate = rotations

section

variable {address : List Char} {calls : List ReaderCall} {reader : FdinfoReader}

theorem distinct_noting (h : reader.clients.Distinct) (text : List Char) (process : GpuProcess)
    (now : Nat) : (reader.noting text process now).clients.Distinct := by
  unfold noting
  split
  next => exact h
  next => exact h.replace _ _

theorem distinct_of_call {after : FdinfoReader} {next : ReaderCall} (h : reader.clients.Distinct)
    (hnext : reader.call next = .ok after) : after.clients.Distinct := by
  cases next with
  | rotate =>
      cases hnext
      exact h.rotate
  | read text process now =>
      obtain ⟨outcome, hread, rfl⟩ := Fault.map_eq_ok_iff.mp hnext
      cases htext : reader.accepts text with
      | true =>
          obtain ⟨-, rfl⟩ := (read_eq_ok_iff htext).mp hread
          exact distinct_noting h text process now
      | false =>
          obtain ⟨left, hleft⟩ := read_of_not_accepts htext process now
          cases hleft.symm.trans hread
          exact h

theorem distinct_of_callAll (h : callAll { address } calls = .ok reader) :
    reader.clients.Distinct := by
  induction calls using List.reverseRecOn generalizing reader with
  | nil =>
      cases h
      exact Generations.distinct_empty
  | append_singleton calls last ih =>
      obtain ⟨middle, hmiddle, hlast⟩ := callAll_append_singleton.mp h
      exact distinct_of_call (ih hmiddle) hlast

/-- The busy rates that a reading adds to a record leave its counters alone. -/
theorem readingOf_eq_of_read {text : List Char} {process : GpuProcess} {now : Nat}
    {outcome : Outcome} (hread : reader.read text process now = .ok outcome)
    (haccepted : outcome.accepted = true) :
    readingOf text process now = { counters := outcome.process.engines, time := now } := by
  have htext : reader.accepts text = true := (accepted_of_read hread).symm.trans haccepted
  obtain ⟨-, rfl⟩ := (read_eq_ok_iff htext).mp hread
  rw [readingOf, recordOf]
  cases reader.lastReading? process.pid text <;> rfl

/-- In a run without a fault, what its calls make known is what its readings return. -/
theorem tracked_iff_seen (h : callAll { address } calls = .ok reader) {rotations : Nat}
    {key : ClientKey} {reading : ClientReading} :
    Tracked address calls rotations key reading ↔ Seen address calls rotations key reading := by
  constructor
  · rintro ⟨before, text, process, now, after, middle, outcome, rfl, hbefore, hread, haccepted,
      hkey, rfl, hrotations⟩
    refine ⟨before, .read text process now, after, rfl, ?_, hrotations⟩
    have habout : Fdinfo.isAbout address (Fdinfo.entries text) = true := by
      rw [← (remembers_of_callAll hbefore).address_eq]
      exact (accepted_of_read hread).symm.trans haccepted
    rw [ReaderCall.sighting?, if_pos habout, hkey, ← readingOf_eq_of_read hread haccepted]
    rfl
  · rintro ⟨before, call, after, rfl, hsighting, hrotations⟩
    obtain ⟨middle, hbefore, following, hcall⟩ := callAll_append_cons h
    cases call with
    | rotate => cases hsighting
    | read text process now =>
        obtain ⟨outcome, hread, -⟩ := Fault.map_eq_ok_iff.mp hcall
        rw [ReaderCall.sighting?] at hsighting
        split at hsighting
        next habout =>
          obtain ⟨other, hkey, heq⟩ := Option.map_eq_some_iff.mp hsighting
          cases heq
          have haccepted : outcome.accepted = true := by
            rw [accepted_of_read hread, accepts, (remembers_of_callAll hbefore).address_eq]
            exact habout
          exact ⟨before, text, process, now, after, middle, outcome, rfl, hbefore, hread, haccepted,
            hkey, readingOf_eq_of_read hread haccepted, hrotations⟩
        next => cases hsighting

theorem find?_current_of_callAll (h : callAll { address } calls = .ok reader) (key : ClientKey)
    (reading : ClientReading) :
    Generations.find? key reader.clients.current = some reading ↔
      Tracked address calls 0 key reading := by
  rw [tracked_iff_seen h, (remembers_of_callAll h).current]

theorem find?_previous_of_callAll (h : callAll { address } calls = .ok reader) (key : ClientKey)
    (reading : ClientReading) :
    Generations.find? key reader.clients.previous = some reading ↔
      Tracked address calls 1 key reading ∧ ∀ newer, ¬Tracked address calls 0 key newer := by
  simp only [tracked_iff_seen h, (remembers_of_callAll h).previous]

theorem contains_of_callAll (h : callAll { address } calls = .ok reader) (key : ClientKey) :
    reader.clients.contains key = true ↔
      ∃ reading, Tracked address calls 0 key reading ∨ Tracked address calls 1 key reading := by
  rw [Generations.contains, Bool.or_eq_true, Option.isSome_iff_exists, Option.isSome_iff_exists]
  simp only [find?_current_of_callAll h, find?_previous_of_callAll h]
  constructor
  · rintro (⟨reading, hold, -⟩ | ⟨reading, hnew⟩)
    · exact ⟨reading, .inr hold⟩
    · exact ⟨reading, .inl hnew⟩
  · rintro ⟨reading, hnew | hold⟩
    · exact .inr ⟨reading, hnew⟩
    · by_cases hnewer : ∃ newer, Tracked address calls 0 key newer
      · exact .inr hnewer
      · exact .inl ⟨reading, hold, fun newer hnew => hnewer ⟨newer, hnew⟩⟩

end

/-- The store of a reader after any run that meets no fault, and when the next reading meets one.
No client is in both generations. The running one holds the clients accepted since the last
rotation, the previous one those accepted in the cycle before and not since, and their number is
that of the different clients of the two cycles. -/
theorem clients_of_calls {address : List Char} {calls : List ReaderCall} {reader : FdinfoReader}
    (hrun : callAll { address } calls = .ok reader) :
    (∀ key, ¬(key ∈ reader.clients.previous.map Prod.fst ∧
      key ∈ reader.clients.current.map Prod.fst)) ∧
    (∀ key reading, (key, reading) ∈ reader.clients.current ↔
      Tracked address calls 0 key reading) ∧
    (∀ key reading, (key, reading) ∈ reader.clients.previous ↔
      Tracked address calls 1 key reading ∧ ∀ newer, ¬Tracked address calls 0 key newer) ∧
    reader.trackedClients =
      {key | ∃ reading, Tracked address calls 0 key reading ∨
        Tracked address calls 1 key reading}.ncard ∧
    (∀ key, (∀ reading, ¬Tracked address calls 0 key reading ∧
        ¬Tracked address calls 1 key reading) → reader.clients.contains key = false) ∧
    ∀ text process now fault, reader.read text process now = .error fault ↔
      Fdinfo.isAbout address (Fdinfo.entries text) = true ∧
        ∃ key older, Fdinfo.clientKey? process.pid (Fdinfo.entries text) = some key ∧
          Tracked address calls 0 key older ∧ fault = .clientReadTwice key := by
  have hdistinct := distinct_of_callAll hrun
  refine ⟨hdistinct.not_mem_both, ?_, ?_, ?_, ?_, ?_⟩
  · intro key reading
    rw [hdistinct.mem_current_iff, find?_current_of_callAll hrun]
  · intro key reading
    rw [hdistinct.mem_previous_iff, find?_previous_of_callAll hrun]
  · rw [trackedClients, hdistinct.size_eq_ncard]
    simp only [contains_of_callAll hrun]
  · intro key habsent
    rw [← Bool.not_eq_true, contains_of_callAll hrun]
    rintro ⟨reading, hnew | hold⟩
    · exact (habsent reading).1 hnew
    · exact (habsent reading).2 hold
  · intro text process now fault
    rw [read_eq_error_iff, accepts, (remembers_of_callAll hrun).address_eq]
    simp only [Option.isSome_iff_exists, find?_current_of_callAll hrun]
    constructor
    · rintro ⟨habout, key, hkey, ⟨older, holder⟩, hfault⟩
      exact ⟨habout, key, older, hkey, holder, hfault⟩
    · rintro ⟨habout, key, older, hkey, holder, hfault⟩
      exact ⟨habout, key, hkey, ⟨older, holder⟩, hfault⟩

/-- Two processes hold a client of the same number. The one of the cycle before is kept, and the one
of the running cycle cannot be read again. -/
theorem clients_of_two_processes :
    let text := "pdev:a\ndrm-client-id:9\ndrm-engine-gfx:2 ns".toList
    let calls : List ReaderCall := [.read text { pid := 1 } 0, .rotate, .read text { pid := 2 } 5]
    ∃ reader, callAll { address := ['a'] } calls = .ok reader ∧
      (⟨9, 1⟩, ⟨{ gfx := some 2 }, 0⟩) ∈ reader.clients.previous ∧
      (⟨9, 2⟩, ⟨{ gfx := some 2 }, 5⟩) ∈ reader.clients.current ∧
      reader.read text { pid := 2 } 7 = .error (.clientReadTwice ⟨9, 2⟩) := by
  intro text calls
  obtain ⟨reader, hrun⟩ : ∃ reader, callAll { address := ['a'] } calls = .ok reader :=
    Fault.exists_of_isOk (by decide +kernel)
  obtain ⟨-, hcurrent, hprevious, -, -, hfault⟩ := clients_of_calls hrun
  have hnew : Tracked ['a'] calls 0 ⟨9, 2⟩ ⟨{ gfx := some 2 }, 5⟩ :=
    (tracked_iff_seen hrun).mpr
      ⟨[.read text { pid := 1 } 0, .rotate], .read text { pid := 2 } 5, [], rfl,
        by decide +kernel, rfl⟩
  have hold : Tracked ['a'] calls 1 ⟨9, 1⟩ ⟨{ gfx := some 2 }, 0⟩ :=
    (tracked_iff_seen hrun).mpr
      ⟨[], .read text { pid := 1 } 0, [.rotate, .read text { pid := 2 } 5], rfl,
        by decide +kernel, rfl⟩
  have hnone : ∀ newer, ¬Tracked ['a'] calls 0 ⟨9, 1⟩ newer := by
    intro newer hnewer
    have hseen : Seen ['a'] ([.read text { pid := 1 } 0, .rotate] ++ [.read text { pid := 2 } 5]) 0
        ⟨9, 1⟩ newer := (tracked_iff_seen hrun).mp hnewer
    rcases seen_append_read.mp hseen with ⟨-, hsighting⟩ | hearlier
    · have hkey : ((ReaderCall.read text { pid := 2 } 5).sighting? ['a']).map Prod.fst =
          some ⟨9, 2⟩ := by decide +kernel
      rw [hsighting] at hkey
      cases hkey
    · have hrotated : Seen ['a'] ([.read text { pid := 1 } 0] ++ [.rotate]) 0 ⟨9, 1⟩ newer :=
        hearlier
      exact not_seen_append_rotate hrotated
  refine ⟨reader, hrun, (hprevious _ _).mpr ⟨hold, hnone⟩, (hcurrent _ _).mpr hnew, ?_⟩
  exact (hfault text { pid := 2 } 7 _).mpr
    ⟨by decide +kernel, ⟨9, 2⟩, _, by decide +kernel, hnew, rfl⟩

end FdinfoReader

end GpuTelemetry
