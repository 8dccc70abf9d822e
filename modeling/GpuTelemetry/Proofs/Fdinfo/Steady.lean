import GpuTelemetry.Proofs.Device.Reordering
import GpuTelemetry.Proofs.Fdinfo.Report
import GpuTelemetry.Proofs.Procfs.Repetition

/-!
# Counters that stand still

A reader that has read some texts recalls their counters in the next cycle. When
the same texts come again at later times, the busy rate of every engine with a
counter is zero, so the records do not depend on the times any more.
-/

namespace GpuTelemetry

open Procfs Fdinfo

/-- The usage that the busy rate of an engine goes into. -/
def GpuProcess.usage (process : GpuProcess) : Engine → Metric UInt32
  | .gfx | .compute => process.gpuUsage
  | .encode => process.encodeUsage
  | .decode => process.decodeUsage

theorem busyRate_self (counter : Metric UInt64) {elapsed : Nat} (h : 0 < elapsed) :
    busyRate counter counter elapsed = counter.map fun _ => 0 := by
  cases counter with
  | none => rfl
  | some count =>
      have hzero : elapsed / 2 / elapsed = 0 := Nat.div_eq_of_lt (Nat.div_lt_self h (by decide))
      change busyPercent count count elapsed = some 0
      simp [busyPercent, Nat.ne_zero_of_lt h, hzero]

theorem GpuProcess.withRates_self (process : GpuProcess) {elapsed : Nat} (h : 0 < elapsed) :
    process.withRates process.engines elapsed = process.withRates process.engines 1 := by
  simp only [withRates, busyRate_self _ h, busyRate_self _ Nat.one_pos]

theorem GpuProcess.usage_withRates_self (process : GpuProcess) (engine : Engine)
    (h : process.engines.get engine ≠ none) :
    (process.withRates process.engines 1).usage engine = some 0 := by
  obtain ⟨counter, hcounter⟩ := Option.ne_none_iff_exists'.mp h
  cases engine with
  | gfx =>
      have hgfx : process.engines.gfx = some counter := hcounter
      cases hcompute : process.engines.compute <;>
        simp [usage, withRates, busyRate_self _ Nat.one_pos, hgfx, hcompute]
  | compute =>
      have hcompute : process.engines.compute = some counter := hcounter
      simp [usage, withRates, busyRate_self _ Nat.one_pos, hcompute]
  | encode =>
      have hencode : process.engines.encode = some counter := hcounter
      simp [usage, withRates, busyRate_self _ Nat.one_pos, hencode]
  | decode =>
      have hdecode : process.engines.decode = some counter := hcounter
      simp [usage, withRates, busyRate_self _ Nat.one_pos, hdecode]

/-- The record of a text whose client had the same counters in the cycle before. -/
def Procfs.Visit.steadyRecord (visit : Visit) : GpuProcess :=
  let record := report visit.pid (entries visit.text)
  match visit.clientKey? with
  | none => record
  | some _ => record.withRates record.engines 1

theorem Procfs.Visit.Later.clientKey?_eq {visit later : Visit} (h : visit.Later later) :
    later.clientKey? = visit.clientKey? := by
  rw [clientKey?, clientKey?, h.pid, h.text]

theorem Procfs.Visit.Later.steadyRecord_eq {visit later : Visit} (h : visit.Later later) :
    later.steadyRecord = visit.steadyRecord := by
  rw [steadyRecord, steadyRecord, h.clientKey?_eq, h.pid, h.text]

theorem Procfs.Visit.usage_steadyRecord {visit : Visit} {engine : Engine}
    (hclient : visit.clientKey? ≠ none) (hcounter : lastTime? engine (entries visit.text) ≠ none) :
    visit.steadyRecord.usage engine = some 0 := by
  obtain ⟨key, hkey⟩ := Option.ne_none_iff_exists'.mp hclient
  simp only [steadyRecord, hkey]
  apply GpuProcess.usage_withRates_self
  cases engine <;> exact hcounter

namespace FdinfoReader

variable {reader last : FdinfoReader} {visits others : List Visit} {records : List GpuProcess}

/-- Whether a reader has read nothing in the running cycle, and in the one before the same counters
of every client that some visits will find, at an earlier time. -/
structure Recalls (reader : FdinfoReader) (visits : List Visit) : Prop where
  current : reader.clients.current = []
  previous : ∀ visit ∈ visits, ∀ key, visit.clientKey? = some key → ∃ time < visit.now,
    Generations.find? key reader.clients.previous =
      some { counters := (report visit.pid (entries visit.text)).engines, time }

theorem Recalls.recordAt_eq (h : reader.Recalls visits) {visit : Visit} (hvisit : visit ∈ visits) :
    reader.recordAt visit = visit.steadyRecord := by
  have hlast : reader.lastReading? visit.pid visit.text =
      visit.clientKey?.bind fun key => Generations.find? key reader.clients.previous := rfl
  rw [recordAt, recordOf, fill_eq_report, hlast, Visit.steadyRecord]
  cases hkey : visit.clientKey? with
  | none => rfl
  | some key =>
      obtain ⟨time, htime, hfind⟩ := h.previous visit hvisit key hkey
      rw [Option.bind_some, hfind]
      exact GpuProcess.withRates_self _ (Nat.sub_pos_of_lt htime)

theorem find?_foldl_note_of_not_mem {key : ClientKey} (h : key ∉ clientKeys visits) :
    Generations.find? key (visits.foldl note reader).clients.current =
      Generations.find? key reader.clients.current := by
  induction visits generalizing reader with
  | nil => rfl
  | cons visit visits ih =>
      have hvisit : visit.clientKey? ≠ some key := by
        intro hkey
        rw [clientKeys_cons_of_some hkey] at h
        exact h List.mem_cons_self
      have hrest : key ∉ clientKeys visits := by
        intro hmem
        obtain ⟨other, hother, hkey⟩ := List.mem_filterMap.mp hmem
        exact h (List.mem_filterMap.mpr ⟨other, List.mem_cons_of_mem visit hother, hkey⟩)
      rw [List.foldl_cons, ih hrest, find?_note_current, if_neg hvisit]

theorem find?_foldl_note (hnodup : (clientKeys visits).Nodup) {visit : Visit}
    (hvisit : visit ∈ visits) {key : ClientKey} (hkey : visit.clientKey? = some key) :
    Generations.find? key (visits.foldl note reader).clients.current =
      some (readingOf visit.text { pid := visit.pid } visit.now) := by
  induction visits generalizing reader with
  | nil => cases hvisit
  | cons first visits ih =>
      rw [List.foldl_cons]
      rcases List.mem_cons.mp hvisit with rfl | hmem
      · rw [clientKeys_cons_of_some hkey, List.nodup_cons] at hnodup
        rw [find?_foldl_note_of_not_mem hnodup.1, find?_note_current, if_pos hkey]
      · refine ih (hnodup.sublist ?_) hmem
        exact (List.sublist_cons_self first visits).filterMap _

/-- After a cycle a reader recalls what it read in it. -/
theorem recalls_of_readAll (haccepts : ∀ visit ∈ visits, reader.accepts visit.text = true)
    (h : reader.readAll visits = .ok (last, records))
    (hlater : List.Forall₂ Visit.Later visits others) : last.rotate.Recalls others := by
  obtain ⟨hfresh, rfl, -⟩ := (readAll_eq_ok_iff haccepts).mp h
  refine ⟨rfl, ?_⟩
  intro later hmem key hkey
  obtain ⟨index, hindex, rfl⟩ := List.mem_iff_getElem.mp hmem
  have hlt : index < visits.length := hlater.length_eq ▸ hindex
  have hvisit : visits[index].Later others[index] :=
    (List.forall₂_iff_get.mp hlater).2 index hlt hindex
  refine ⟨visits[index].now, hvisit.now, ?_⟩
  rw [hvisit.clientKey?_eq] at hkey
  have hfind : Generations.find? key (visits.foldl note reader).clients.current = _ :=
    find?_foldl_note hfresh.1 (List.getElem_mem hlt) hkey
  rw [readingOf, fill_eq_report] at hfind
  rw [hvisit.pid, hvisit.text]
  exact hfind

end FdinfoReader

end GpuTelemetry
