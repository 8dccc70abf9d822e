import GpuTelemetry.Proofs.Collector.Freshness
import GpuTelemetry.Proofs.Collector.Lifecycle
import GpuTelemetry.Proofs.Process.Steady

/-!
# One cycle of the collector

The result of a polling cycle does not depend on the trace, and it can be told
for each device alone: its metrics are those of its backend, its records are those
of its share of the texts and of its backend, and with a steady source they are
described by entries that are settled before the cycle.
-/

namespace GpuTelemetry

open Procfs

/-- A device at the end of a cycle, with its processes described by the entries of a cache. -/
def Device.finished (host : Host) (entryOf : UInt32 → CachedProcess) (device : GpuDevice) :
    GpuDevice :=
  let device := device.refreshProcesses host
  { device with
    processes := device.processes.map fun process =>
      (process.describe (entryOf process.pid)).withMemoryShare device.dynamicInfo.totalMemory }

/-- The processes that a device has at the end of a cycle. -/
def Device.finalPids (host : Host) (device : GpuDevice) : List UInt32 :=
  (device.refreshProcesses host).processes.map GpuProcess.pid

theorem refreshDeviceProcesses_eq {host : Host} (hsteady : host.processes.Steady)
    {start cache : ProcessCache} {pids : List UInt32}
    (hcovers : start.Covers host.processes pids cache) (devices : List GpuDevice) :
    (refreshDeviceProcesses host cache devices).1 =
      devices.map (Device.finished host (start.filled host.processes)) ∧
    ∃ covered, pids ⊆ covered ∧ (∀ device ∈ devices, device.finalPids host ⊆ covered) ∧
      start.Covers host.processes covered (refreshDeviceProcesses host cache devices).2 := by
  induction devices generalizing cache pids with
  | nil => exact ⟨rfl, pids, List.Subset.refl pids, by simp, hcovers⟩
  | cons device devices ih =>
      obtain ⟨hrecords, hmiddle⟩ := hcovers.populate hsteady
        (device.refreshProcesses host).dynamicInfo.totalMemory (device.refreshProcesses host).processes
      obtain ⟨hrest, covered, hsubset, hdevices, hcovered⟩ := ih hmiddle
      obtain ⟨hfinal, hpids⟩ := List.append_subset.mp hsubset
      refine ⟨?_, covered, hpids, ?_, hcovered⟩
      · rw [refreshDeviceProcesses, List.map_cons, Device.finished, ← hrecords, ← hrest]
      · rw [List.forall_mem_cons]
        refine ⟨fun pid hpid => hfinal (List.mem_reverse.mpr hpid), hdevices⟩

namespace Collector

variable {host : Host} {collector after : Collector}

/-- What a walk of procfs and the backends make of a collector, without what is reported along the
way. -/
def processed (host : Host) (collector : Collector) : Except Fault Collector :=
  let devices := collector.devices.map Device.clearProcesses
  if !collector.settings.collectProcesses then .ok { collector with devices }
  else
    (Procfs.sweep host.sameOpenFile (host.procfs collector.settings.procRoot) devices).map
      fun swept =>
        let (devices, cache) := refreshDeviceProcesses host collector.cache swept
        { collector with devices, cache := cache.endCycle }

/-- What a polling cycle makes of a collector, without what it reports along the way. -/
def refreshed (host : Host) (collector : Collector) : Except Fault Collector := do
  let dynamic ← collector.refreshDynamic host
  let processed ← dynamic.processed host
  return processed.backfill

theorem ensures_refreshProcesses (host : Host) (collector : Collector) :
    Run.Ensures (collector.refreshProcesses host) (· = collector.processed host) := by
  rw [refreshProcesses, processed]
  dsimp only
  split
  · exact Run.ensures_pure rfl
  · refine (ensures_sweep host _ _).bind ?_ ?_
    · intro swept hswept
      apply Run.ensures_unit_bind
      refine Run.ensures_lift_bind (ensures_endProcessCycle _) ?_
      rintro _ rfl
      apply Run.ensures_pure
      rw [← hswept]
      rfl
    · intro fault hfault
      rw [← hfault]
      rfl

theorem ensures_refresh (host : Host) (collector : Collector) :
    Run.Ensures (collector.refresh host) (· = collector.refreshed host) := by
  have hdynamic : Run.Ensures (monadLift (collector.refreshDynamic host))
      (· = collector.refreshDynamic host) := Run.ensures_ofExcept rfl
  refine hdynamic.bind_result fun dynamic => ?_
  exact (ensures_refreshProcesses host dynamic).bind_result fun _ => Run.ensures_pure rfl

/-! ## Each device alone -/

/-- What a cycle without the collection of processes leaves of each device. -/
theorem getElem?_refreshed_of_not_collects (hcollects : collector.settings.collectProcesses = false)
    (h : collector.refreshed host = .ok after) :
    after.settings = collector.settings ∧ after.registry = collector.registry ∧
    after.devices.length = collector.devices.length ∧
    ∀ (index : Nat) (device : GpuDevice), collector.devices[index]? = some device →
      ∃ info, device.backend.dynamicInfo host = .ok info ∧ after.devices[index]? =
        some (Device.backfill { device with dynamicInfo := info, processes := [] }) := by
  obtain ⟨dynamic, hdynamic, h⟩ := Fault.bind_eq_ok_iff.mp h
  obtain ⟨devices, hdevices, rfl⟩ := Fault.map_eq_ok_iff.mp hdynamic
  obtain ⟨hlength, hinfos⟩ := getElem?_refreshDynamic host hdevices
  rw [processed, hcollects] at h
  cases h
  refine ⟨rfl, rfl, ?_, ?_⟩
  · simp only [backfill, List.length_map, hlength]
  · intro index device hdevice
    obtain ⟨info, hinfo, hrefreshed⟩ := hinfos index device hdevice
    refine ⟨info, hinfo, ?_⟩
    simp only [backfill, List.getElem?_map, hrefreshed, Option.map_some]
    rfl

/-- What a cycle leaves of each device, if the source of processes is steady. -/
theorem getElem?_refreshed (hsteady : host.processes.Steady)
    (hcollects : collector.settings.collectProcesses = true)
    (h : collector.refreshed host = .ok after) :
    after.settings = collector.settings ∧ after.registry = collector.registry ∧
    after.devices.length = collector.devices.length ∧
    ∃ pids cache, collector.cache.Covers host.processes pids cache ∧ after.cache = cache.endCycle ∧
      ∀ (index : Nat) (device : GpuDevice), collector.devices[index]? = some device →
        ∃ info taken, device.backend.dynamicInfo host = .ok info ∧
          Device.takeAll (collector.visitsOf host index)
            { device with dynamicInfo := info, processes := [] } = .ok taken ∧
          taken.finalPids host ⊆ pids ∧ after.devices[index]? =
            some (taken.finished host (collector.cache.filled host.processes)).backfill := by
  obtain ⟨dynamic, hdynamic, h⟩ := Fault.bind_eq_ok_iff.mp h
  obtain ⟨devices, hdevices, rfl⟩ := Fault.map_eq_ok_iff.mp hdynamic
  obtain ⟨hlength, hinfos⟩ := getElem?_refreshDynamic host hdevices
  obtain ⟨middle, hmiddle, h⟩ := Fault.bind_eq_ok_iff.mp h
  cases h
  rw [processed, hcollects] at hmiddle
  obtain ⟨swept, hswept, rfl⟩ := Fault.map_eq_ok_iff.mp hmiddle
  rw [sweep_eq_dispatchAll] at hswept
  obtain ⟨hsweptLength, hshares⟩ := Device.dispatchAll_eq_ok_iff.mp hswept
  obtain ⟨hfinished, pids, -, hpids, hcovers⟩ :=
    refreshDeviceProcesses_eq hsteady (ProcessCache.covers_nil _ collector.cache) swept
  refine ⟨rfl, rfl, ?_, pids, _, hcovers, rfl, ?_⟩
  · simp only [backfill, List.length_map, hfinished, hsweptLength, hlength]
  · intro index device hdevice
    obtain ⟨info, hinfo, hrefreshed⟩ := hinfos index device hdevice
    have hcleared : (devices.map Device.clearProcesses)[index]? =
        some { device with dynamicInfo := info, processes := [] } := by
      rw [List.getElem?_map, hrefreshed]
      rfl
    obtain ⟨taken, htaken, htake⟩ := hshares index _ hcleared
    have hfdinfo : (devices.map Device.clearProcesses).map Device.fdinfo =
        collector.devices.map Device.fdinfo := by
      rw [List.map_map]
      exact (mapM_refreshDynamic host collector.devices).2 devices hdevices
    rw [Device.share_congr hfdinfo] at htake
    refine ⟨info, taken, hinfo, htake, hpids taken (List.mem_of_getElem? htaken), ?_⟩
    simp only [backfill, List.getElem?_map, hfinished, htaken, Option.map_some]

end Collector

end GpuTelemetry
