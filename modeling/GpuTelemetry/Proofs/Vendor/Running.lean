import GpuTelemetry.Vendor.Backend
import Mathlib.Data.List.Basic

/-!
# The processes that a backend adds

The processes that a backend knows are added to a list that may have some of them
already. Whatever is in the list before, the added records are about the same
processes, and tell the same share of the device memory, as those that the
backend adds to an empty list.
-/

namespace GpuTelemetry

/-- The process of a record and the share of the device memory that it came with. -/
def GpuProcess.origin (process : GpuProcess) : UInt32 × Metric UInt32 :=
  (process.pid, process.memoryShare)

namespace Nvidia

theorem map_origin_applySample (processes : List GpuProcess) (sample : Nvml.UtilizationSample) :
    (applySample processes sample).map GpuProcess.origin = processes.map GpuProcess.origin := by
  induction processes with
  | nil => rfl
  | cons process rest ih =>
      rw [applySample]
      split
      · rfl
      · rw [List.map_cons, List.map_cons, ih]

theorem map_origin_applySamples (samples : List Nvml.UtilizationSample)
    (processes : List GpuProcess) :
    (samples.foldl applySample processes).map GpuProcess.origin =
      processes.map GpuProcess.origin := by
  induction samples generalizing processes with
  | nil => rfl
  | cons sample samples ih => rw [List.foldl_cons, ih, map_origin_applySample]

/-- The origins of the records that a list of running processes makes. -/
def originsOf (running : List Nvml.RunningProcess) : List (UInt32 × Metric UInt32) :=
  running.map fun process => (process.pid, none)

section

variable {kind : ProcessKind} {running : List Nvml.RunningProcess}
  {origin : UInt32 × Metric UInt32}

/-- One more running process. -/
theorem addProcesses_cons (process : Nvml.RunningProcess) (processes : List GpuProcess) :
    addProcesses kind processes (process :: running) =
      addProcesses kind
        (if processes.any fun p => p.pid = process.pid then processes
        else processes ++ [{ pid := process.pid, kind, memory := process.memory? }]) running :=
  rfl

theorem mem_of_mem_addProcesses {processes : List GpuProcess}
    (h : origin ∈ (addProcesses kind processes running).map GpuProcess.origin) :
    origin ∈ processes.map GpuProcess.origin ∨ origin ∈ originsOf running := by
  induction running generalizing processes with
  | nil => exact .inl h
  | cons process running ih =>
      rw [addProcesses_cons] at h
      rcases ih h with hmem | hmem
      · split at hmem
        · exact .inl hmem
        · rw [List.map_append, List.mem_append] at hmem
          rcases hmem with hmem | hmem
          · exact .inl hmem
          · rw [List.mem_singleton.mp hmem]
            exact .inr List.mem_cons_self
      · exact .inr (List.mem_cons_of_mem _ hmem)

theorem mem_addProcesses_of_mem {processes : List GpuProcess}
    (h : origin ∈ processes.map GpuProcess.origin) :
    origin ∈ (addProcesses kind processes running).map GpuProcess.origin := by
  induction running generalizing processes with
  | nil => exact h
  | cons process running ih =>
      rw [addProcesses_cons]
      apply ih
      split
      · exact h
      · rw [List.map_append]
        exact List.mem_append_left _ h

/-- A running process has a record, as long as the records came without shares. -/
theorem mem_addProcesses_of_mem_originsOf {processes : List GpuProcess}
    (hnone : ∀ process ∈ processes, process.memoryShare = none) (h : origin ∈ originsOf running) :
    origin ∈ (addProcesses kind processes running).map GpuProcess.origin := by
  induction running generalizing processes with
  | nil => cases h
  | cons process running ih =>
      rw [addProcesses_cons]
      rcases List.mem_cons.mp h with rfl | h
      · apply mem_addProcesses_of_mem
        split
        next hany =>
          obtain ⟨found, hfound, hpid⟩ := List.any_eq_true.mp hany
          refine List.mem_map.mpr ⟨found, hfound, ?_⟩
          rw [GpuProcess.origin, hnone found hfound, of_decide_eq_true hpid]
        next =>
          rw [List.map_append]
          exact List.mem_append_right _ List.mem_cons_self
      · refine ih ?_ h
        split
        · exact hnone
        · intro other hother
          rcases List.mem_append.mp hother with hother | hother
          · exact hnone other hother
          · rw [List.mem_singleton.mp hother]

end

namespace Device

theorem exists_map_origin_runningProcesses (driver : Nvml.Driver) (device : Device) :
    ∃ compute graphics, ∀ processes,
      (device.runningProcesses driver processes).1.map GpuProcess.origin =
        (addProcesses .graphical (addProcesses .compute processes compute) graphics).map
          GpuProcess.origin := by
  unfold runningProcesses addAnswered
  cases device.library.processes driver device.index with
  | error failure => exact ⟨[], [], fun _ => rfl⟩
  | ok answers =>
      refine ⟨answers.compute.toOption.getD [], answers.graphics.toOption.getD [], ?_⟩
      intro processes
      dsimp only
      cases device.newSamples answers with
      | error failure => rfl
      | ok samples => exact map_origin_applySamples samples _

end Device

end Nvidia

/-- A record after the backend added its processes was there before or is one of the backend's. -/
theorem Backend.origin_of_mem_runningProcesses (host : Host) {backend : Backend}
    {processes : List GpuProcess} {record : GpuProcess}
    (h : record ∈ (backend.runningProcesses host processes).1) :
    record.origin ∈ processes.map GpuProcess.origin ∨
      record.origin ∈ (backend.runningProcesses host []).1.map GpuProcess.origin := by
  cases backend with
  | amd address device => exact .inl (List.mem_map_of_mem h)
  | simulated device =>
      rcases List.mem_append.mp h with h | h
      · exact .inl (List.mem_map_of_mem h)
      · exact .inr (List.mem_map_of_mem h)
  | nvidia device =>
      obtain ⟨compute, graphics, horigins⟩ :=
        device.exists_map_origin_runningProcesses host.nvml
      have hrecord : record.origin ∈
          (device.runningProcesses host.nvml processes).1.map GpuProcess.origin :=
        List.mem_map_of_mem h
      have hnone : ∀ process ∈ Nvidia.addProcesses .compute [] compute,
          process.memoryShare = none := by
        intro process hprocess
        rcases Nvidia.mem_of_mem_addProcesses (List.mem_map_of_mem hprocess) with hmem | hmem
        · cases hmem
        · obtain ⟨running, -, hsame⟩ := List.mem_map.mp hmem
          exact (congrArg Prod.snd hsame).symm
      change _ ∨ record.origin ∈ (device.runningProcesses host.nvml []).1.map GpuProcess.origin
      rw [horigins] at hrecord ⊢
      rcases Nvidia.mem_of_mem_addProcesses hrecord with hmem | hmem
      · rcases Nvidia.mem_of_mem_addProcesses hmem with hmem | hmem
        · exact .inl hmem
        · refine .inr (Nvidia.mem_addProcesses_of_mem ?_)
          exact Nvidia.mem_addProcesses_of_mem_originsOf (by simp) hmem
      · exact .inr (Nvidia.mem_addProcesses_of_mem_originsOf hnone hmem)

end GpuTelemetry
