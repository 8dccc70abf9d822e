import GpuTelemetry.Proofs.Fdinfo.Meaning

/-!
# Reading one text

What one reading does, told by the entries of the text. A text about another
device leaves the reader as it was. Any other yields the record of its entries
with the rates since the last reading of its client, and replaces that reading;
it fails just when the client has been read in the running cycle before.
-/

namespace GpuTelemetry

/-- A record with the rates since the last reading of its client, if there was one. -/
def GpuProcess.ratedSince (process : GpuProcess) (last : Option ClientReading) (now : Nat) :
    GpuProcess :=
  match last with
  | some last => process.withRates last.counters (now - last.time)
  | none => process

@[simp] theorem GpuProcess.bare_ratedSince (process : GpuProcess) (last : Option ClientReading)
    (now : Nat) : (process.ratedSince last now).bare = process.bare := by
  cases last <;> rfl

namespace FdinfoReader

def accepts (reader : FdinfoReader) (text : List Char) : Bool :=
  Fdinfo.isAbout reader.address (Fdinfo.entries text)

/-- The last reading of the client that a text about process `pid` names, in the cycle before. -/
def lastReading? (reader : FdinfoReader) (pid : UInt32) (text : List Char) :
    Option ClientReading :=
  (Fdinfo.clientKey? pid (Fdinfo.entries text)).bind fun key =>
    Generations.find? key reader.clients.previous

/-- Whether the client that a text about process `pid` names has been read in the running cycle. -/
def repeats (reader : FdinfoReader) (pid : UInt32) (text : List Char) : Prop :=
  ∃ key, Fdinfo.clientKey? pid (Fdinfo.entries text) = some key ∧
    (Generations.find? key reader.clients.current).isSome = true

def recordOf (reader : FdinfoReader) (text : List Char) (process : GpuProcess) (now : Nat) :
    GpuProcess :=
  (Fdinfo.fill process (Fdinfo.entries text)).ratedSince (reader.lastReading? process.pid text) now

/-- What a text about the device leaves to remember of its client. -/
def readingOf (text : List Char) (process : GpuProcess) (now : Nat) : ClientReading :=
  { counters := (Fdinfo.fill process (Fdinfo.entries text)).engines, time := now }

def noting (reader : FdinfoReader) (text : List Char) (process : GpuProcess) (now : Nat) :
    FdinfoReader :=
  match Fdinfo.clientKey? process.pid (Fdinfo.entries text) with
  | none => reader
  | some key =>
    { reader with
      clients := (reader.clients.takePrevious key).2.insert key (readingOf text process now) }

@[simp] theorem address_noting (reader : FdinfoReader) (text : List Char) (process : GpuProcess)
    (now : Nat) : (reader.noting text process now).address = reader.address := by
  unfold noting
  split <;> rfl

@[simp] theorem bare_recordOf (reader : FdinfoReader) (text : List Char) (process : GpuProcess)
    (now : Nat) : (reader.recordOf text process now).bare = process.bare := by
  simp [recordOf]

@[simp] theorem pid_recordOf (reader : FdinfoReader) (text : List Char) (process : GpuProcess)
    (now : Nat) : (reader.recordOf text process now).pid = process.pid :=
  GpuProcess.pid_eq_of_bare_eq (bare_recordOf reader text process now)

theorem find?_noting_current (reader : FdinfoReader) (text : List Char) (process : GpuProcess)
    (now : Nat) (key : ClientKey) :
    Generations.find? key (reader.noting text process now).clients.current =
      if Fdinfo.clientKey? process.pid (Fdinfo.entries text) = some key then
        some (readingOf text process now)
      else Generations.find? key reader.clients.current := by
  cases hkey : Fdinfo.clientKey? process.pid (Fdinfo.entries text) with
  | none => simp [noting, hkey]
  | some other =>
      simp only [noting, hkey, Generations.find?_insert_current, Generations.takePrevious_current,
        Option.some.injEq, eq_comm]

theorem find?_noting_previous (reader : FdinfoReader) (text : List Char) (process : GpuProcess)
    (now : Nat) (key : ClientKey) :
    Generations.find? key (reader.noting text process now).clients.previous =
      if Fdinfo.clientKey? process.pid (Fdinfo.entries text) = some key then none
      else Generations.find? key reader.clients.previous := by
  cases hkey : Fdinfo.clientKey? process.pid (Fdinfo.entries text) with
  | none => simp [noting, hkey]
  | some other =>
      simp only [noting, hkey, Generations.insert_previous,
        Generations.find?_takePrevious_previous, Option.some.injEq, eq_comm]

theorem read_of_not_accepts {reader : FdinfoReader} {text : List Char}
    (htext : reader.accepts text = false) (process : GpuProcess) (now : Nat) :
    ∃ left, reader.read text process now =
      .ok { reader, process := left, accepted := false } := by
  obtain ⟨hsecond, -⟩ := Fdinfo.Progress.addAll_eq reader.address { process } (Fdinfo.entries text)
  generalize hall : Fdinfo.Progress.addAll reader.address { process } (Fdinfo.entries text) = all
    at hsecond
  obtain ⟨progress, about⟩ := all
  have habout : about = false := hsecond.trans htext
  refine ⟨progress.process, ?_⟩
  simp only [read, hall, habout]

/-- The only fault of a reading is a client that has been read before in the running cycle. -/
theorem read_eq_of_accepts {reader : FdinfoReader} {text : List Char}
    (htext : reader.accepts text = true) (process : GpuProcess) (now : Nat) :
    reader.read text process now =
      match Fdinfo.clientKey? process.pid (Fdinfo.entries text) with
      | some key =>
        if (Generations.find? key reader.clients.current).isSome then .error (.clientReadTwice key)
        else .ok ⟨reader.noting text process now, reader.recordOf text process now, true⟩
      | none => .ok ⟨reader.noting text process now, reader.recordOf text process now, true⟩ := by
  obtain ⟨hsecond, hfirst⟩ :=
    Fdinfo.Progress.addAll_eq reader.address { process } (Fdinfo.entries text)
  have hclient := Fdinfo.clientId?_eq process (Fdinfo.entries text)
  have hpid := Fdinfo.pid_fill process (Fdinfo.entries text)
  generalize hall : Fdinfo.Progress.addAll reader.address { process } (Fdinfo.entries text) = all
    at hsecond hfirst
  obtain ⟨progress, about⟩ := all
  have habout : about = true := hsecond.trans htext
  have hprogress : progress = (Fdinfo.entries text).foldl Fdinfo.Progress.add { process } :=
    hfirst htext
  subst hprogress habout
  cases hid : Fdinfo.clientId? (Fdinfo.entries text) with
  | none =>
      simp only [read, hall, hclient, hid, noting, recordOf, lastReading?, Fdinfo.clientKey?,
        Option.map_none, Option.bind_none]
      rfl
  | some id =>
      have hpid' : ((Fdinfo.entries text).foldl Fdinfo.Progress.add { process }).process.pid =
          process.pid := hpid
      simp only [read, hall, hclient, hid, noting, recordOf, lastReading?, Fdinfo.clientKey?,
        Option.map_some, Option.bind_some, track, hpid', Generations.takePrevious_current,
        Generations.takePrevious_fst]
      split
      next => rfl
      next =>
        cases Generations.find? { clientId := id, pid := process.pid } reader.clients.previous <;>
          rfl

theorem read_eq_ok_iff {reader : FdinfoReader} {text : List Char}
    (htext : reader.accepts text = true) {process : GpuProcess} {now : Nat} {outcome : Outcome} :
    reader.read text process now = .ok outcome ↔
      ¬ reader.repeats process.pid text ∧
        outcome = ⟨reader.noting text process now, reader.recordOf text process now, true⟩ := by
  rw [read_eq_of_accepts htext, repeats]
  cases hkey : Fdinfo.clientKey? process.pid (Fdinfo.entries text) with
  | none =>
      constructor
      · intro h
        cases h
        exact ⟨fun ⟨_, hnone, _⟩ => (Option.some_ne_none _ hnone.symm), rfl⟩
      · rintro ⟨-, rfl⟩
        rfl
  | some key =>
      have hrepeats : (∃ other, some key = some other ∧
          (Generations.find? other reader.clients.current).isSome = true) ↔
            (Generations.find? key reader.clients.current).isSome = true := by
        simp
      rw [hrepeats]
      by_cases hseen : (Generations.find? key reader.clients.current).isSome = true
      · simp [hseen]
      · simp only [hseen, Bool.false_eq_true, if_false, not_false_eq_true, true_and,
          Except.ok.injEq]
        exact eq_comm

/-- A reading fails just when it repeats a client. -/
theorem read_eq_error_iff {reader : FdinfoReader} {text : List Char} {process : GpuProcess}
    {now : Nat} {fault : Fault} :
    reader.read text process now = .error fault ↔
      reader.accepts text = true ∧
        ∃ key, Fdinfo.clientKey? process.pid (Fdinfo.entries text) = some key ∧
          (Generations.find? key reader.clients.current).isSome = true ∧
          fault = .clientReadTwice key := by
  cases htext : reader.accepts text with
  | false =>
      obtain ⟨left, hleft⟩ := read_of_not_accepts htext process now
      rw [hleft]
      exact ⟨nofun, fun h => Bool.noConfusion h.1⟩
  | true =>
      rw [read_eq_of_accepts htext]
      cases hkey : Fdinfo.clientKey? process.pid (Fdinfo.entries text) with
      | none => exact ⟨nofun, fun ⟨_, _, hnone, _⟩ => nomatch hnone⟩
      | some key =>
          dsimp only
          by_cases hseen : (Generations.find? key reader.clients.current).isSome = true
          · rw [if_pos hseen]
            constructor
            · rintro ⟨⟩
              exact ⟨rfl, key, rfl, hseen, rfl⟩
            · rintro ⟨-, _, ⟨⟩, -, rfl⟩
              rfl
          · rw [if_neg hseen]
            constructor
            · nofun
            · rintro ⟨-, _, ⟨⟩, hread, -⟩
              exact (hseen hread).elim

theorem accepted_of_read {reader : FdinfoReader} {text : List Char} {process : GpuProcess}
    {now : Nat} {outcome : Outcome} (h : reader.read text process now = .ok outcome) :
    outcome.accepted = reader.accepts text := by
  cases htext : reader.accepts text with
  | false =>
      obtain ⟨left, hread⟩ := read_of_not_accepts htext process now
      rw [hread] at h
      cases h
      rfl
  | true =>
      obtain ⟨-, rfl⟩ := (read_eq_ok_iff htext).mp h
      rfl

end FdinfoReader

end GpuTelemetry
