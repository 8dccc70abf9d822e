import GpuTelemetry.Proofs.Fdinfo.History

/-!
# Rates over a run

The usages that a reading of a fresh record yields, told by the calls made before:
the busy rates since the reading of the same client in the cycle before, and where
there are none the percentages of the text.
-/

namespace GpuTelemetry

namespace Fdinfo

/-- The busy rate of an engine from a past reading to the counter that the entries give. -/
def rateSince (last : ClientReading) (entries : List Entry) (now : Nat) (engine : Engine) :
    Option UInt32 :=
  match last.counters.get engine, lastTime? engine entries with
  | some previous, some current => busyPercent previous current (now - last.time)
  | _, _ => none

theorem busyRate_counter_fill (last : ClientReading) (pid : UInt32) (entries : List Entry)
    (now : Nat) (engine : Engine) :
    busyRate (last.counters.get engine) ((fill { pid } entries).engines.get engine)
      (now - last.time) = rateSince last entries now engine := by
  have hfresh : (({ pid } : GpuProcess).engines.get engine) = none := by cases engine <;> rfl
  rw [counter_fill, hfresh, Option.or_none, rateSince]
  cases last.counters.get engine <;> cases lastTime? engine entries <;> rfl

end Fdinfo

namespace FdinfoReader

/-- The last reading that a reader goes by is the one that its calls show in the cycle before,
unless the client has been seen since. -/
theorem Remembers.lastReading?_eq_some_iff {address : List Char} {calls : List ReaderCall}
    {reader : FdinfoReader} (h : Remembers address calls reader) {pid : UInt32} {text : List Char}
    (hfresh : ¬ reader.repeats pid text) {last : ClientReading} :
    reader.lastReading? pid text = some last ↔
      ∃ key, Fdinfo.clientKey? pid (Fdinfo.entries text) = some key ∧
        Seen address calls 1 key last := by
  rw [lastReading?, Option.bind_eq_some_iff]
  constructor
  · rintro ⟨key, hkey, hfind⟩
    exact ⟨key, hkey, ((h.previous key last).mp hfind).1⟩
  · rintro ⟨key, hkey, hseen⟩
    refine ⟨key, hkey, (h.previous key last).mpr ⟨hseen, ?_⟩⟩
    intro newer hnewer
    apply hfresh
    refine ⟨key, hkey, ?_⟩
    rw [(h.current key newer).mpr hnewer]
    rfl

/-- The usages in the record of any accepted text in any run that meets no fault. They are the busy
rates since the last reading of the client if that was in the cycle before, the compute rate ahead
of the graphics rate, and for the rest the percentages of the text. -/
theorem usages_of_accepted_read {address : List Char} {before after : List ReaderCall}
    {final : FdinfoReader} {text : List Char} {pid : UInt32} {now : Nat}
    (hrun : callAll { address } (before ++ .read text { pid } now :: after) = .ok final) :
    ∃ reader outcome, callAll { address } before = .ok reader ∧
      reader.read text { pid } now = .ok outcome ∧
      let entries := Fdinfo.entries text
      let record := outcome.process
      (outcome.accepted = true → ∀ key last,
        Fdinfo.clientKey? pid entries = some key → Seen address before 1 key last →
        let rate := Fdinfo.rateSince last entries now
        record.gpuUsage = (rate .compute).or
          ((rate .gfx).or (Fdinfo.percentSum? [.gfx, .compute] entries)) ∧
        record.decodeUsage = (rate .decode).or (Fdinfo.percentSum? [.decode] entries) ∧
        record.encodeUsage = (rate .encode).or (Fdinfo.percentSum? [.encode] entries)) ∧
      (outcome.accepted = true →
        (∀ key last, Fdinfo.clientKey? pid entries = some key → ¬ Seen address before 1 key last) →
        record.gpuUsage = Fdinfo.percentSum? [.gfx, .compute] entries ∧
        record.decodeUsage = Fdinfo.percentSum? [.decode] entries ∧
        record.encodeUsage = Fdinfo.percentSum? [.encode] entries) := by
  obtain ⟨reader, hbefore, following, hcall⟩ := callAll_append_cons hrun
  obtain ⟨outcome, hread, -⟩ := Fault.map_eq_ok_iff.mp hcall
  have hhistory := remembers_of_callAll hbefore
  refine ⟨reader, outcome, hbefore, hread, ?_, ?_⟩
  · intro haccepted key last hkey hseen
    have htext : reader.accepts text = true := (accepted_of_read hread).symm.trans haccepted
    obtain ⟨hfresh, rfl⟩ := (read_eq_ok_iff htext).mp hread
    have hlast : reader.lastReading? pid text = some last :=
      (hhistory.lastReading?_eq_some_iff hfresh).mpr ⟨key, hkey, hseen⟩
    simp only [recordOf, hlast, GpuProcess.ratedSince, GpuProcess.withRates,
      Fdinfo.gpuUsage_fill, Fdinfo.decodeUsage_fill, Fdinfo.encodeUsage_fill,
      ← Fdinfo.busyRate_counter_fill last pid, EngineCounters.get, Option.or_assoc]
    exact ⟨trivial, trivial, trivial⟩
  · intro haccepted hunseen
    have htext : reader.accepts text = true := (accepted_of_read hread).symm.trans haccepted
    obtain ⟨hfresh, rfl⟩ := (read_eq_ok_iff htext).mp hread
    have hlast : reader.lastReading? pid text = none := by
      rw [Option.eq_none_iff_forall_ne_some]
      intro last hsome
      obtain ⟨key, hkey, hseen⟩ := (hhistory.lastReading?_eq_some_iff hfresh).mp hsome
      exact hunseen key last hkey hseen
    simp only [recordOf, hlast, GpuProcess.ratedSince]
    exact ⟨Fdinfo.gpuUsage_fill pid _, Fdinfo.decodeUsage_fill pid _, Fdinfo.encodeUsage_fill pid _⟩

/-- A client that used half of ten nanoseconds on the graphics engine, and whose text gives no
counter for the decoder any more. -/
theorem usages_of_second_read :
    let first := "pdev:a\ndrm-client-id:9\ndrm-engine-gfx:2 ns\ndrm-engine-dec:0 ns".toList
    let second := "pdev:a\ndrm-client-id:9\ndrm-engine-gfx:7 ns\ngfx0:7%\ndec0:3%".toList
    ∃ reader outcome,
      callAll { address := ['a'] } [.read first { pid := 1 } 0, .rotate] = .ok reader ∧
        reader.read second { pid := 1 } 10 = .ok outcome ∧
          outcome.process.gpuUsage = some 50 ∧ outcome.process.decodeUsage = some 3 := by
  intro first second
  obtain ⟨final, hrun⟩ : ∃ final, callAll { address := ['a'] }
      ([.read first { pid := 1 } 0, .rotate] ++ .read second { pid := 1 } 10 :: []) = .ok final :=
    Fault.exists_of_isOk (by decide +kernel)
  obtain ⟨reader, outcome, hreader, hread, hrates, -⟩ := usages_of_accepted_read hrun
  have haccepted : outcome.accepted = true := by
    rw [accepted_of_read hread, accepts, (remembers_of_callAll hreader).address_eq]
    decide +kernel
  have hseen : Seen ['a'] [.read first { pid := 1 } 0, .rotate] 1 ⟨9, 1⟩
      ⟨{ gfx := some 2, decode := some 0 }, 0⟩ :=
    ⟨[], .read first { pid := 1 } 0, [.rotate], rfl, by decide +kernel, rfl⟩
  obtain ⟨hgpu, hdecode, -⟩ := hrates haccepted ⟨9, 1⟩ _ (by decide +kernel) hseen
  refine ⟨reader, outcome, hreader, hread, hgpu.trans ?_, hdecode.trans ?_⟩
  · decide +kernel
  · decide +kernel

end FdinfoReader

end GpuTelemetry
