import GpuTelemetry.Nvidia.Vendor
import Mathlib.Data.List.Induction
import Mathlib.Data.List.Nodup

/-!
# The processes of an NVIDIA device

The compute processes, the graphics processes and the samples of usage come as
three lists in which a process may stand more than once. They are merged into one
record for each listed process: the first entry says what it is, and the last
sample how busy it keeps the device.
-/

namespace GpuTelemetry.Nvidia

open Nvml

/-! ## Listed processes -/

/-- An entry of the two lists, with what its list says about the process. -/
structure Listing where
  kind : ProcessKind
  running : RunningProcess

namespace Listing

def pid (listing : Listing) : UInt32 :=
  listing.running.pid

/-- The record that a process gets from the first entry about it. -/
def record (listing : Listing) : GpuProcess :=
  { pid := listing.pid, kind := listing.kind, memory := listing.running.memory? }

end Listing

/-- Adds the record of a process that is not in the list yet. -/
def addListing (found : List GpuProcess) (listing : Listing) : List GpuProcess :=
  if found.any fun process => process.pid = listing.pid then found
  else found ++ [listing.record]

theorem addProcesses_eq_foldl (kind : ProcessKind) (processes : List GpuProcess)
    (running : List RunningProcess) :
    addProcesses kind processes running =
      (running.map (Listing.mk kind)).foldl addListing processes := by
  rw [List.foldl_map]
  rfl

/-- Records that stand for some entries: one for each process, made from its first entry. -/
structure StandFor (records : List GpuProcess) (listings : List Listing) : Prop where
  nodup : (records.map GpuProcess.pid).Nodup
  pids : records.map GpuProcess.pid = (listings.map Listing.pid).eraseDups
  first : ∀ record ∈ records, ∃ listing,
    (listings.find? fun other => other.pid = record.pid) = some listing ∧ record = listing.record

theorem standFor_nil : StandFor [] [] :=
  ⟨List.nodup_nil, rfl, by simp⟩

theorem eraseDups_append_singleton (pids : List UInt32) (pid : UInt32) :
    (pids ++ [pid]).eraseDups =
      if pid ∈ pids then pids.eraseDups else pids.eraseDups ++ [pid] := by
  rw [List.eraseDups_append]
  by_cases h : pid ∈ pids
  · simp [List.removeAll, h]
  · simp [List.removeAll, h, List.eraseDups_cons]

theorem StandFor.add {records : List GpuProcess} {listings : List Listing}
    (h : StandFor records listings) (listing : Listing) :
    StandFor (addListing records listing) (listings ++ [listing]) := by
  have hmem : (records.any fun process => process.pid = listing.pid) = true ↔
      listing.pid ∈ listings.map Listing.pid := by
    rw [← List.mem_eraseDups, ← h.pids]
    simp [List.any_eq_true]
  have hfirst (record : GpuProcess) (hrecord : record ∈ records) : ∃ other,
      ((listings ++ [listing]).find? fun other => other.pid = record.pid) = some other ∧
        record = other.record := by
    obtain ⟨other, hother, heq⟩ := h.first record hrecord
    exact ⟨other, by rw [List.find?_append, hother, Option.some_or], heq⟩
  rw [addListing]
  by_cases hknown : (records.any fun process => process.pid = listing.pid) = true
  · rw [if_pos hknown]
    refine ⟨h.nodup, ?_, hfirst⟩
    rw [List.map_append, List.map_singleton, eraseDups_append_singleton, if_pos (hmem.mp hknown),
      h.pids]
  · have hnew : listing.pid ∉ listings.map Listing.pid := fun hin => hknown (hmem.mpr hin)
    rw [if_neg hknown]
    refine ⟨?_, ?_, ?_⟩
    · rw [List.map_append, List.map_singleton]
      refine List.nodup_append.mpr ⟨h.nodup, List.nodup_singleton _, ?_⟩
      rintro pid hpid _ hself rfl
      rw [h.pids, List.mem_eraseDups, List.mem_singleton.mp hself] at hpid
      exact hnew hpid
    · rw [List.map_append, List.map_append, List.map_singleton, List.map_singleton,
        eraseDups_append_singleton, if_neg hnew, h.pids]
      rfl
    · intro record hrecord
      rcases List.mem_append.mp hrecord with hold | hself
      · exact hfirst record hold
      · rw [List.mem_singleton.mp hself]
        refine ⟨listing, ?_, rfl⟩
        have hnone : (listings.find? fun other => other.pid = listing.record.pid) = none := by
          rw [List.find?_eq_none]
          intro other hother hsame
          exact hnew (List.mem_map.mpr ⟨other, hother, of_decide_eq_true hsame⟩)
        rw [List.find?_append, hnone, Option.none_or, List.find?_singleton]
        exact if_pos (decide_eq_true rfl)

theorem standFor_foldl (listings : List Listing) :
    StandFor (listings.foldl addListing []) listings := by
  induction listings using List.reverseRecOn with
  | nil => exact standFor_nil
  | append_singleton listings listing ih =>
      rw [List.foldl_append, List.foldl_cons, List.foldl_nil]
      exact ih.add listing

/-! ## Samples of usage -/

/-- The last of some samples about a process. -/
def lastSampleOf (pid : UInt32) (samples : List UtilizationSample) : Option UtilizationSample :=
  (samples.filter fun sample => sample.pid = pid).getLast?

theorem lastSampleOf_append_singleton (pid : UInt32) (samples : List UtilizationSample)
    (sample : UtilizationSample) :
    lastSampleOf pid (samples ++ [sample]) =
      if sample.pid = pid then some sample else lastSampleOf pid samples := by
  rw [lastSampleOf, List.filter_append]
  by_cases h : sample.pid = pid
  · simp [h]
  · simp [h, lastSampleOf]

/-- A record with the usage that a sample shows. -/
def withSample (process : GpuProcess) (sample : UtilizationSample) : GpuProcess :=
  { process with
    gpuUsage := some (min sample.sm 100)
    encodeUsage := some (min sample.encode 100)
    decodeUsage := some (min sample.decode 100) }

/-- A record after some samples, of which the last one about its process counts. -/
def withSamples (samples : List UtilizationSample) (process : GpuProcess) : GpuProcess :=
  match lastSampleOf process.pid samples with
  | some sample => withSample process sample
  | none => process

theorem pid_withSamples (samples : List UtilizationSample) (process : GpuProcess) :
    (withSamples samples process).pid = process.pid := by
  unfold withSamples
  split <;> rfl

theorem applySample_eq_map {processes : List GpuProcess}
    (h : (processes.map GpuProcess.pid).Nodup) (sample : UtilizationSample) :
    applySample processes sample = processes.map fun process =>
      if process.pid = sample.pid then withSample process sample else process := by
  induction processes with
  | nil => rfl
  | cons process rest ih =>
      rw [List.map_cons, List.nodup_cons] at h
      rw [applySample, List.map_cons]
      split
      next hpid =>
          -- no later record is about the same process
          have hrest : ∀ other ∈ rest, ¬ other.pid = sample.pid := fun other hother hsame =>
            h.1 (List.mem_map.mpr ⟨other, hother, hsame.trans hpid.symm⟩)
          have hsame : (rest.map fun process =>
              if process.pid = sample.pid then withSample process sample else process) = rest :=
            (List.map_congr_left fun other hother => if_neg (hrest other hother)).trans
              (List.map_id' rest)
          rw [hsame]
          rfl
      next hpid => rw [ih h.2]

theorem foldl_applySample {processes : List GpuProcess}
    (h : (processes.map GpuProcess.pid).Nodup) (samples : List UtilizationSample) :
    samples.foldl applySample processes = processes.map (withSamples samples) := by
  induction samples using List.reverseRecOn with
  | nil => exact (List.map_id' processes).symm
  | append_singleton samples sample ih =>
      have hpids : (processes.map (withSamples samples)).map GpuProcess.pid =
          processes.map GpuProcess.pid := by
        rw [List.map_map]
        exact List.map_congr_left fun process _ => pid_withSamples samples process
      rw [List.foldl_append, ih, List.foldl_cons, List.foldl_nil,
        applySample_eq_map (hpids.symm ▸ h), List.map_map]
      apply List.map_congr_left
      intro process _
      rw [Function.comp_apply, pid_withSamples, withSamples, withSamples,
        lastSampleOf_append_singleton]
      by_cases hpid : sample.pid = process.pid
      · rw [if_pos hpid.symm, if_pos hpid]
        -- the usage of an earlier sample is written over
        cases lastSampleOf process.pid samples <;> rfl
      · rw [if_neg (Ne.symm hpid), if_neg hpid]

/-! ## Refreshed lists -/

/-- The memory that an entry shows. The library writes the largest number where it does not know. -/
def shownMemory? (process : RunningProcess) : Option UInt64 :=
  if process.memory.toNat = UInt64.size - 1 then none else some process.memory

theorem memory?_eq_shownMemory? (process : RunningProcess) :
    process.memory? = shownMemory? process := by
  have hunknown : process.memory = unknownMemory ↔ process.memory.toNat = UInt64.size - 1 :=
    UInt64.toNat_inj.symm
  simp only [RunningProcess.memory?, shownMemory?, hunknown]

/-- What there is to know about a process from the two lists and the samples. -/
def describedBy (compute graphics : List RunningProcess) (samples : List UtilizationSample)
    (pid : UInt32) : GpuProcess :=
  let inCompute := compute.find? fun process => process.pid = pid
  let inGraphics := graphics.find? fun process => process.pid = pid
  let last := lastSampleOf pid samples
  { pid
    kind := if inCompute.isSome then .compute else .graphical
    memory := (inCompute.or inGraphics).bind shownMemory?
    gpuUsage := last.map fun sample => min sample.sm 100
    encodeUsage := last.map fun sample => min sample.encode 100
    decodeUsage := last.map fun sample => min sample.decode 100 }

/-- The first entry about a process is in the first of the lists that has one. -/
theorem describedBy_eq {compute graphics : List RunningProcess} {listing : Listing}
    (samples : List UtilizationSample)
    (h : ((compute.map (Listing.mk .compute) ++ graphics.map (Listing.mk .graphical)).find?
      fun other => other.pid = listing.pid) = some listing) :
    describedBy compute graphics samples listing.pid = withSamples samples listing.record := by
  have hpid (kind : ProcessKind) :
      ((fun other : Listing => decide (other.pid = listing.pid)) ∘ Listing.mk kind) =
        fun process => decide (process.pid = listing.pid) := rfl
  rw [List.find?_append, List.find?_map, List.find?_map, hpid, hpid] at h
  have hrecord : describedBy compute graphics [] listing.pid = listing.record := by
    unfold describedBy Listing.record
    rw [memory?_eq_shownMemory?]
    cases hcompute : compute.find? fun process => process.pid = listing.pid with
    | some process =>
        rw [hcompute] at h
        cases h
        rfl
    | none =>
        cases hgraphics : graphics.find? fun process => process.pid = listing.pid with
        | some process =>
            rw [hcompute, hgraphics] at h
            cases h
            rfl
        | none =>
            rw [hcompute, hgraphics] at h
            cases h
  have hsamples : withSamples samples (describedBy compute graphics [] listing.pid) =
      describedBy compute graphics samples listing.pid := by
    have hself : (describedBy compute graphics [] listing.pid).pid = listing.pid := rfl
    unfold withSamples
    rw [hself]
    unfold describedBy
    cases lastSampleOf listing.pid samples <;> rfl
  rw [← hsamples, hrecord]

/-- A list or the samples that the library answers, where a query that fails gives nothing. -/
def answered {α : Type} (answers : Except Nvml.Failure ProcessAnswers)
    (query : ProcessAnswers → Except Nvml.Failure (List α)) : List α :=
  (answers.bind query).toOption.getD []

theorem addAnswered_eq (device : Device) (answers : Except Nvml.Failure ProcessAnswers)
    (processes : List GpuProcess) :
    device.addAnswered answers processes =
      ((answered answers device.newSamples).foldl applySample
        (addProcesses .graphical
          (addProcesses .compute processes (answered answers ProcessAnswers.compute))
          (answered answers ProcessAnswers.graphics)),
        { device with
          lastSample := Device.latest device.lastSample (answered answers device.newSamples) }) := by
  cases answers with
  | error failure => rfl
  | ok answers =>
      have hsamples : answered (.ok answers) device.newSamples =
          (device.newSamples answers).toOption.getD [] := rfl
      unfold Device.addAnswered
      rw [hsamples]
      dsimp only
      cases device.newSamples answers <;> rfl

/-- The records of a device whose list was empty: one for each process in the answered lists, in the
order in which they name the processes first, with the compute list before the other one. The
samples are those that the library gives for the latest time stamp the device has seen. Samples of
other processes make no difference. -/
theorem records_of_answers (device : Device) (answers : Except Nvml.Failure ProcessAnswers) :
    let compute := answered answers ProcessAnswers.compute
    let graphics := answered answers ProcessAnswers.graphics
    let samples := answered answers fun answers => answers.samplesSince device.lastSample
    let records := (device.addAnswered answers []).1
    (records.map GpuProcess.pid).Nodup ∧
      records.map GpuProcess.pid = ((compute ++ graphics).map RunningProcess.pid).eraseDups ∧
      records = (records.map GpuProcess.pid).map (describedBy compute graphics samples) := by
  intro compute graphics samples records
  let listings := compute.map (Listing.mk .compute) ++ graphics.map (Listing.mk .graphical)
  have hstand : StandFor (listings.foldl addListing []) listings := standFor_foldl listings
  have hrecords : records = (listings.foldl addListing []).map (withSamples samples) := by
    rw [← foldl_applySample hstand.nodup, List.foldl_append, ← addProcesses_eq_foldl,
      ← addProcesses_eq_foldl]
    exact congrArg Prod.fst (addAnswered_eq device answers [])
  have hpids : records.map GpuProcess.pid =
      (listings.foldl addListing []).map GpuProcess.pid := by
    rw [hrecords, List.map_map]
    exact List.map_congr_left fun record _ => pid_withSamples samples record
  have hlistings : listings.map Listing.pid = (compute ++ graphics).map RunningProcess.pid := by
    rw [List.map_append, List.map_append, List.map_map, List.map_map]
    rfl
  refine ⟨hpids ▸ hstand.nodup, ?_, ?_⟩
  · rw [hpids, hstand.pids, hlistings]
  · rw [hpids, List.map_map]
    refine hrecords.trans (List.map_congr_left fun record hrecord => ?_)
    obtain ⟨listing, hfirst, rfl⟩ := hstand.first record hrecord
    exact (describedBy_eq samples hfirst).symm

/-- Process 7 stands in both lists and twice in the first one, the memory of process 8 is unknown,
and nobody lists process 9. The library only gives the samples that are newer than the last one. -/
theorem records_of_repeated_processes :
    let file : Platform.SharedLibrary := { name := libraryName }
    let library : Library :=
      { directory := { path := "/usr/lib", libraries := [file] }, file, load := 0 }
    let device : Device := { library, index := 0, lastSample := 3 }
    let samples : List UtilizationSample :=
      [⟨7, 5, 130, 1, 2⟩, ⟨9, 6, 50, 0, 0⟩, ⟨7, 4, 20, 101, 0⟩, ⟨8, 3, 10, 0, 0⟩]
    let answers : Except Nvml.Failure ProcessAnswers := .ok {
      compute := .ok [⟨7, 64⟩, ⟨7, 32⟩]
      graphics := .ok [⟨8, unknownMemory⟩, ⟨7, 16⟩]
      samplesSince := fun time => .ok (samples.filter fun sample => time < sample.timestamp) }
    (device.addAnswered answers []).1 =
      [{ pid := 7, kind := .compute, memory := some 64,
         gpuUsage := some 20, encodeUsage := some 100, decodeUsage := some 0 },
       { pid := 8, kind := .graphical }] := by
  intro file library device samples answers
  obtain ⟨-, hpids, hrecords⟩ := records_of_answers device answers
  rw [hrecords, hpids]
  rfl

end GpuTelemetry.Nvidia
