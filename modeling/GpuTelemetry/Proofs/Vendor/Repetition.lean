import GpuTelemetry.Proofs.Nvidia.Sampling
import GpuTelemetry.Proofs.Procfs.Repetition
import GpuTelemetry.Vendor.Backend

/-!
# Backends that answer as before

On a host that repeats itself a backend gives the metrics and the processes that
it gave in the cycle before. The only thing that a backend remembers is the latest
sample of usage, and after one cycle there are no later ones.
-/

namespace GpuTelemetry

open Procfs

/-- The same host in the next cycle: all answers are the same, and only the times at which the texts
below the root of procfs are read may be new. -/
structure Host.Repeats (path : String) (host again : Host) : Prop where
  drm : again.drm = host.drm
  nvml : again.nvml = host.nvml
  simulated : again.simulated = host.simulated
  pciDirectory : again.pciDirectory = host.pciDirectory
  sameOpenFile : again.sameOpenFile = host.sameOpenFile
  processes : again.processes = host.processes
  tree : (again.procfs path).untimed = (host.procfs path).untimed

theorem Host.Repeats.untimed_visits {path : String} {host again : Host}
    (h : host.Repeats path again) :
    ((again.procfs path).visits again.sameOpenFile).map Visit.untimed =
      ((host.procfs path).visits host.sameOpenFile).map Visit.untimed := by
  rw [h.sameOpenFile, ← Root.visits_untimed, ← Root.visits_untimed, h.tree]

namespace Nvidia.Device

/-- The samples that the library gives are the later ones of those it has. -/
theorem samplesSince_of_processes {library : Library} {driver : Nvml.Driver} {index : Nat}
    {answers : Nvml.ProcessAnswers} (h : library.processes driver index = .ok answers) :
    ∃ all : Nvml.Answer (List Nvml.UtilizationSample), ∀ time, answers.samplesSince time =
      library.query "nvmlDeviceGetProcessUtilization"
        (all.map fun samples => samples.filter fun s => time < s.timestamp) := by
  unfold Library.processes at h
  cases hlisted : library.device driver index with
  | error failure =>
      rw [hlisted] at h
      cases h
  | ok listed =>
      rw [hlisted] at h
      cases h
      exact ⟨listed.samples.fitting, fun _ => rfl⟩

/-- All samples that a device has taken into account are old from then on. -/
theorem newSamples_of_latest {driver : Nvml.Driver} {device : Device}
    {answers : Nvml.ProcessAnswers}
    (hanswers : device.library.processes driver device.index = .ok answers)
    {samples : List Nvml.UtilizationSample} (h : device.newSamples answers = .ok samples) :
    ({ device with lastSample := latest device.lastSample samples } : Device).newSamples answers =
      .ok [] := by
  obtain ⟨hstart, hsamples⟩ := le_latest device.lastSample samples
  obtain ⟨all, hsince⟩ := samplesSince_of_processes hanswers
  rw [newSamples, hsince] at h ⊢
  unfold Library.query Nvml.query at h ⊢
  cases hsymbol : device.library.directory.symbol device.library.file
      "nvmlDeviceGetProcessUtilization" with
  | error reason => simp [hsymbol] at h
  | ok _ =>
      cases hall : all with
      | error code => simp [hsymbol, hall, Except.map, Except.mapError] at h
      | ok all =>
          simp only [hsymbol, hall, Except.map, Except.mapError, Except.ok.injEq] at h ⊢
          rw [List.filter_eq_nil_iff]
          intro sample hsample hnewer
          have hlater := of_decide_eq_true hnewer
          have hnew : sample ∈ samples := by
            rw [← h]
            exact List.mem_filter.mpr
              ⟨hsample, decide_eq_true (UInt64.lt_of_le_of_lt hstart hlater)⟩
          exact UInt64.not_le.mpr hlater (hsamples sample hnew)

/-- A device that was asked for its processes stays as it is when it is asked again. -/
theorem runningProcesses_again (driver : Nvml.Driver) (device : Device)
    (processes others : List GpuProcess) :
    ((device.runningProcesses driver processes).2.runningProcesses driver others).2 =
      (device.runningProcesses driver processes).2 := by
  cases hanswers : device.library.processes driver device.index with
  | error failure => simp only [runningProcesses, hanswers, addAnswered]
  | ok answers =>
      cases hsamples : device.newSamples answers with
      | error failure => simp only [runningProcesses, hanswers, addAnswered, hsamples]
      | ok samples =>
          simp only [runningProcesses, hanswers, addAnswered, hsamples,
            newSamples_of_latest hanswers hsamples]
          rfl

end Nvidia.Device

namespace Backend

variable {path : String} {host again : Host}

theorem dynamicInfo_of_repeats (h : host.Repeats path again) (backend : Backend) :
    backend.dynamicInfo again = backend.dynamicInfo host := by
  cases backend with
  | amd address device => rw [dynamicInfo, dynamicInfo, h.drm, h.pciDirectory]
  | nvidia device => rw [dynamicInfo, dynamicInfo, h.nvml]
  | simulated device =>
      simp only [dynamicInfo, Host.simulatedDevice, Host.station, h.simulated]

theorem runningProcesses_of_repeats (h : host.Repeats path again) (backend : Backend)
    (processes : List GpuProcess) :
    backend.runningProcesses again processes = backend.runningProcesses host processes := by
  cases backend with
  | amd address device => rfl
  | nvidia device => simp only [runningProcesses, h.nvml]
  | simulated device =>
      simp only [runningProcesses, Host.simulatedDevice, Host.station, h.simulated]

theorem runningProcesses_again (host : Host) (backend : Backend)
    (processes others : List GpuProcess) :
    ((backend.runningProcesses host processes).2.runningProcesses host others).2 =
      (backend.runningProcesses host processes).2 := by
  cases backend with
  | amd address device => rfl
  | nvidia device =>
      exact congrArg nvidia (device.runningProcesses_again host.nvml processes others)
  | simulated device => rfl

end Backend

end GpuTelemetry
