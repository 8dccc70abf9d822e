import GpuTelemetry.Proofs.Collector.Clients
import GpuTelemetry.Proofs.Process.Names
import GpuTelemetry.Proofs.Vendor.Running

/-!
# Nothing stale survives a cycle

A cycle neither looks at the metrics and processes that the last one left on the
devices, nor keeps any of them. What is on a device after a cycle was reported by
its backend or found in procfs during that cycle.
-/

namespace GpuTelemetry

open Procfs

/-- A device without the metrics and the processes that were left on it. -/
def Device.kept {β : Type} (device : Device β) : Device β :=
  { device with dynamicInfo := {}, processes := [] }

namespace Collector

variable (host : Host)

def kept (collector : Collector) : Collector :=
  { collector with devices := collector.devices.map Device.kept }

def cleared (collector : Collector) : Collector :=
  { collector with devices := collector.devices.map Device.clearProcesses }

/-! ## What a cycle does not look at -/

theorem mapM_refreshDynamic_kept (devices : List GpuDevice) :
    (devices.map Device.kept).mapM (Device.refreshDynamic host) =
      (devices.mapM (Device.refreshDynamic host)).map (List.map Device.clearProcesses) := by
  have hdevice (device : GpuDevice) : device.kept.refreshDynamic host =
      (device.refreshDynamic host).map Device.clearProcesses := by
    rw [Device.refreshDynamic, Device.refreshDynamic, Device.kept]
    dsimp only
    cases device.backend.dynamicInfo host <;> rfl
  induction devices with
  | nil => rfl
  | cons device devices ih =>
      rw [List.map_cons, List.mapM_cons, List.mapM_cons, ih, hdevice]
      cases device.refreshDynamic host with
      | error fault => rfl
      | ok first => cases devices.mapM (Device.refreshDynamic host) <;> rfl

theorem refreshDynamic_kept (collector : Collector) :
    collector.kept.refreshDynamic host = (collector.refreshDynamic host).map cleared := by
  rw [refreshDynamic, refreshDynamic, kept]
  dsimp only
  rw [mapM_refreshDynamic_kept]
  cases collector.devices.mapM (Device.refreshDynamic host) <;> rfl

theorem refreshProcesses_cleared (collector : Collector) :
    collector.cleared.refreshProcesses host = collector.refreshProcesses host := by
  have hcleared : (collector.devices.map Device.clearProcesses).map Device.clearProcesses =
      collector.devices.map Device.clearProcesses := by
    rw [List.map_map]
    rfl
  rw [refreshProcesses, refreshProcesses, cleared]
  dsimp only
  rw [hcleared]

/-- A cycle starts by forgetting what the last one left on the devices. -/
theorem refresh_kept (collector : Collector) :
    collector.kept.refresh host = collector.refresh host := by
  rw [refresh, refresh, refreshDynamic_kept]
  cases collector.refreshDynamic host with
  | error fault => rfl
  | ok refreshed =>
      have hsame := refreshProcesses_cleared host refreshed
      change (refreshed.cleared.refreshProcesses host >>= _) =
        (refreshed.refreshProcesses host >>= _)
      rw [hsame]

end Collector

/-! ## What a cycle leaves -/

theorem GpuProcess.bare_of_merge {P : GpuProcess → Prop} {record : GpuProcess}
    {list merged : List GpuProcess} (h : record.merge list = .ok merged) (hrecord : P record.bare)
    (hlist : ∀ entry ∈ list, P entry.bare) : ∀ entry ∈ merged, P entry.bare := by
  rcases List.eq_nil_or_concat list with rfl | ⟨front, last, rfl⟩
  · cases h
    intro entry hentry
    rw [List.mem_singleton.mp hentry]
    exact hrecord
  · rw [List.concat_eq_append] at h hlist
    have hfront : ∀ entry ∈ front, P entry.bare :=
      fun entry hentry => hlist entry (List.mem_append_left _ hentry)
    have hlast : P last.bare := hlist last (by simp)
    rw [merge_append_singleton] at h
    split at h
    · obtain ⟨sum, hsum, rfl⟩ := Fault.map_eq_ok_iff.mp h
      intro entry hentry
      rcases List.mem_append.mp hentry with hentry | hentry
      · exact hfront entry hentry
      · rw [List.mem_singleton.mp hentry, (accumulate_eq_ok_iff.mp hsum).2.1]
        exact hlast
    · cases h
      intro entry hentry
      rcases List.mem_append.mp hentry with hentry | hentry
      · exact hfront entry hentry
      · rcases List.mem_cons.mp hentry with rfl | hentry
        · exact hlast
        · rw [List.mem_singleton.mp hentry]
          exact hrecord

namespace Device

variable {β : Type} {device after : Device β} {devices swept : List (Device β)}

/-- Which visits belong to a device depends on the readers of the devices alone. -/
theorem share_congr {others : List (Device β)}
    (h : devices.map Device.fdinfo = others.map Device.fdinfo) (visits : List Visit) (index : Nat) :
    share devices visits index = share others visits index := by
  have hfirst (devices : List (Device β)) (text : List Char) : firstAccepting devices text =
      (devices.map Device.fdinfo).findIdx? fun reader => reader.any (·.accepts text) := by
    rw [List.findIdx?_map]
    rfl
  rw [share, share]
  apply List.filter_congr
  intro visit _
  rw [hfirst, hfirst, h]

/-- Taking a visit adds to the records of its process and to nothing else but the reader. -/
theorem keeps_of_take {P : GpuProcess → Prop} {visit : Visit}
    (haccepts : device.accepts visit.text = true) (h : device.take visit = .ok after)
    (hvisit : P { pid := visit.pid }) (hlist : ∀ entry ∈ device.processes, P entry.bare) :
    after.dynamicInfo = device.dynamicInfo ∧ after.backend = device.backend ∧
      ∀ entry ∈ after.processes, P entry.bare := by
  cases hreader : device.fdinfo with
  | none =>
      rw [accepts, hreader] at haccepts
      cases haccepts
  | some reader =>
      rw [accepts, hreader, Option.any_some] at haccepts
      simp only [take, hreader] at h
      obtain ⟨outcome, hread, h⟩ := Fault.bind_eq_ok_iff.mp h
      obtain ⟨processes, hmerge, h⟩ := Fault.bind_eq_ok_iff.mp h
      cases h
      obtain ⟨-, rfl⟩ := (FdinfoReader.read_eq_ok_iff haccepts).mp hread
      refine ⟨rfl, rfl, GpuProcess.bare_of_merge hmerge ?_ hlist⟩
      rw [FdinfoReader.bare_recordOf]
      exact hvisit

theorem keeps_of_takeAll {P : GpuProcess → Prop} {visits : List Visit}
    (haccepts : ∀ visit ∈ visits, device.accepts visit.text = true)
    (h : takeAll visits device = .ok after) (hvisits : ∀ visit ∈ visits, P { pid := visit.pid })
    (hlist : ∀ entry ∈ device.processes, P entry.bare) :
    after.dynamicInfo = device.dynamicInfo ∧ after.backend = device.backend ∧
      ∀ entry ∈ after.processes, P entry.bare := by
  induction visits generalizing device with
  | nil =>
      cases h
      exact ⟨rfl, rfl, hlist⟩
  | cons visit visits ih =>
      rw [takeAll_cons, Fault.bind_eq_ok_iff] at h
      obtain ⟨middle, hmiddle, h⟩ := h
      obtain ⟨hinfo, hbackend, hmerged⟩ := keeps_of_take (haccepts visit List.mem_cons_self)
        hmiddle (hvisits visit List.mem_cons_self) hlist
      have hothers : ∀ other ∈ visits, middle.accepts other.text = true := by
        intro other hother
        rw [accepts_of_take hmiddle]
        exact haccepts other (List.mem_cons_of_mem visit hother)
      obtain ⟨hlastInfo, hlastBackend, hlast⟩ := ih hothers h
        (fun other hother => hvisits other (List.mem_cons_of_mem visit hother)) hmerged
      exact ⟨hlastInfo.trans hinfo, hlastBackend.trans hbackend, hlast⟩

/-- After a sweep the records on a device are about processes that it had a text of, and have no
share of the memory yet. -/
theorem origins_of_sweep {same : SameOpenFile} {root : Root}
    (hempty : ∀ device ∈ devices, device.processes = [])
    (h : Procfs.sweep same root devices = .ok swept) :
    swept.length = devices.length ∧
      ∀ index device, devices[index]? = some device → ∃ after, swept[index]? = some after ∧
        after.dynamicInfo = device.dynamicInfo ∧ after.backend = device.backend ∧
        ∀ entry ∈ after.processes, ∃ visit ∈ share devices (root.visits same) index,
          entry.origin = (visit.pid, none) := by
  rw [sweep_eq_dispatchAll] at h
  obtain ⟨hlength, hdevices⟩ := dispatchAll_eq_ok_iff.mp h
  refine ⟨hlength, ?_⟩
  intro index device hdevice
  obtain ⟨after, hafter, htake⟩ := hdevices index device hdevice
  have hnone : ∀ entry ∈ device.processes,
      ∃ visit ∈ share devices (root.visits same) index, entry.bare.origin = (visit.pid, none) := by
    rw [hempty device (List.mem_of_getElem? hdevice)]
    intro entry hentry
    cases hentry
  obtain ⟨hinfo, hbackend, hentries⟩ := keeps_of_takeAll
    (P := fun bare => ∃ visit ∈ share devices (root.visits same) index,
      bare.origin = (visit.pid, none))
    (fun visit hvisit => accepts_of_mem_share hdevice hvisit) htake
    (fun visit hvisit => ⟨visit, hvisit, rfl⟩) hnone
  exact ⟨after, hafter, hinfo, hbackend, hentries⟩

end Device

/-- A record about a process that was found in this cycle, with the share that it has of the
memory that the device reports in this cycle. Where that cannot be told, there is at most the
share that the backend itself gave. -/
structure GpuProcess.IsCurrent (visits : List Visit) (own : List GpuProcess)
    (total : Option UInt64) (record : GpuProcess) : Prop where
  found : (∃ visit ∈ visits, visit.pid = record.pid) ∨ ∃ process ∈ own, process.pid = record.pid
  share : ∀ memory used, total = some memory → 0 < memory → record.memory = some used →
    record.memoryShare = some (memoryPercent used memory)
  ownShare : ¬record.KnowsShare total → record.memoryShare = none ∨
    ∃ process ∈ own, process.pid = record.pid ∧ process.memoryShare = record.memoryShare

/-- The cache describes records without making them about other processes. -/
theorem ProcessCache.isCurrent_populate {visits : List Visit} {own processes : List GpuProcess}
    (h : ∀ record ∈ processes, (∃ visit ∈ visits, record.origin = (visit.pid, none)) ∨
      record.origin ∈ own.map GpuProcess.origin)
    (source : ProcessSource) (total : Option UInt64) (cache : ProcessCache) :
    ∀ record ∈ (cache.populate source total processes).1, record.IsCurrent visits own total := by
  intro record hrecord
  obtain ⟨process, hprocess, hfilled⟩ : ∃ process ∈ processes, process.Filled total record := by
    have hall := forall₂_filled_populate source total cache processes
    obtain ⟨index, hindex, rfl⟩ := List.mem_iff_getElem.mp hrecord
    have hlt : index < processes.length := hall.length_eq ▸ hindex
    exact ⟨_, List.getElem_mem hlt, (List.forall₂_iff_get.mp hall).2 index hlt hindex⟩
  have hpid : record.pid = process.pid := by rw [hfilled.rest]
  have hmemory : record.memory = process.memory := by rw [hfilled.rest]
  have hknows : record.KnowsShare total ↔ process.KnowsShare total := by
    rw [GpuProcess.KnowsShare, GpuProcess.KnowsShare, hmemory]
  refine ⟨?_, ?_, ?_⟩
  · rw [hpid]
    rcases h process hprocess with ⟨visit, hvisit, horigin⟩ | hmem
    · exact .inl ⟨visit, hvisit, (congrArg Prod.fst horigin).symm⟩
    · obtain ⟨other, hother, horigin⟩ := List.mem_map.mp hmem
      exact .inr ⟨other, hother, congrArg Prod.fst horigin⟩
  · intro memory used htotal hpos hused
    exact hfilled.share memory used htotal hpos (hmemory ▸ hused)
  · intro hunknown
    rw [hfilled.noShare (hknows.not.mp hunknown), hpid]
    rcases h process hprocess with ⟨visit, hvisit, horigin⟩ | hmem
    · exact .inl (congrArg Prod.snd horigin)
    · obtain ⟨other, hother, horigin⟩ := List.mem_map.mp hmem
      exact .inr ⟨other, hother, congrArg Prod.fst horigin, congrArg Prod.snd horigin⟩

namespace Collector

variable (host : Host)

theorem getElem?_refreshDynamic {devices refreshed : List GpuDevice}
    (h : devices.mapM (Device.refreshDynamic host) = .ok refreshed) :
    refreshed.length = devices.length ∧
      ∀ (index : Nat) (device : GpuDevice), devices[index]? = some device →
        ∃ info, device.backend.dynamicInfo host = .ok info ∧
          refreshed[index]? = some { device with dynamicInfo := info } := by
  induction devices generalizing refreshed with
  | nil =>
      cases h
      refine ⟨rfl, ?_⟩
      intro index device hdevice
      rw [List.getElem?_nil] at hdevice
      cases hdevice
  | cons device devices ih =>
      rw [List.mapM_cons] at h
      obtain ⟨first, hfirst, h⟩ := Fault.bind_eq_ok_iff.mp h
      obtain ⟨others, hothers, hdone⟩ := Fault.bind_eq_ok_iff.mp h
      obtain ⟨info, hinfo, rfl⟩ := Fault.map_eq_ok_iff.mp hfirst
      cases hdone
      obtain ⟨hlength, hdevices⟩ := ih hothers
      refine ⟨congrArg (· + 1) hlength, ?_⟩
      rintro (_ | index) other hother
      · cases hother
        exact ⟨info, hinfo, rfl⟩
      · exact hdevices index other hother

theorem getElem?_refreshDeviceProcesses (cache : ProcessCache) (devices : List GpuDevice) :
    (refreshDeviceProcesses host cache devices).1.length = devices.length ∧
      ∀ (index : Nat) (device : GpuDevice), devices[index]? = some device →
        ∃ (before : ProcessCache) (last : GpuDevice),
          (refreshDeviceProcesses host cache devices).1[index]? = some last ∧
            last.dynamicInfo = device.dynamicInfo ∧
            last.processes = (before.populate host.processes device.dynamicInfo.totalMemory
              (device.backend.runningProcesses host device.processes).1).1 := by
  induction devices generalizing cache with
  | nil =>
      refine ⟨rfl, ?_⟩
      intro index device hdevice
      rw [List.getElem?_nil] at hdevice
      cases hdevice
  | cons device devices ih =>
      rw [refreshDeviceProcesses]
      dsimp only
      refine ⟨congrArg (· + 1) (ih _).1, ?_⟩
      rintro (_ | index) other hother
      · cases hother
        exact ⟨cache, _, rfl, rfl, rfl⟩
      · exact (ih _).2 index other hother

/-- The visits of a walk whose texts belong to the device with a number. -/
def visitsOf (collector : Collector) (index : Nat) : List Visit :=
  Device.share collector.devices
    ((host.procfs collector.settings.procRoot).visits host.sameOpenFile) index

/-- What a walk of procfs and the backends leave on the devices. -/
theorem returnsOnly_refreshProcesses (collector : Collector) :
    Run.ReturnsOnly (collector.refreshProcesses host) fun after =>
      after.devices.length = collector.devices.length ∧
      (∀ (index : Nat) (device : GpuDevice), collector.devices[index]? = some device →
        ∃ last : GpuDevice, after.devices[index]? = some last ∧
        last.dynamicInfo = device.dynamicInfo ∧
        (∀ record ∈ last.processes, record.IsCurrent (collector.visitsOf host index)
          (device.backend.runningProcesses host []).1 device.dynamicInfo.totalMemory) ∧
        (collector.settings.collectProcesses = false →
          last.processes = [] ∧ last.fdinfo = device.fdinfo)) ∧
      (collector.settings.collectProcesses = false → after.cache = collector.cache) := by
  have hcleared {index : Nat} {device : GpuDevice} (h : collector.devices[index]? = some device) :
      (collector.devices.map Device.clearProcesses)[index]? = some device.clearProcesses := by
    rw [List.getElem?_map, h, Option.map_some]
  rw [refreshProcesses]
  cases hcollects : collector.settings.collectProcesses with
  | false =>
      refine Run.returnsOnly_pure ⟨List.length_map .., ?_, fun _ => rfl⟩
      intro index device hdevice
      refine ⟨device.clearProcesses, hcleared hdevice, rfl, ?_, fun _ => ⟨rfl, rfl⟩⟩
      intro record hrecord
      cases hrecord
  | true =>
      refine (ensures_sweep host _ _).returnsOnly_of_result.bind ?_
      intro swept hswept
      apply Run.returnsOnly_unit_bind
      refine Run.returnsOnly_bind fun cache => ?_
      apply Run.returnsOnly_pure
      have hempty : ∀ device ∈ collector.devices.map Device.clearProcesses,
          device.processes = [] := by
        intro device hdevice
        obtain ⟨_, -, rfl⟩ := List.mem_map.mp hdevice
        rfl
      have hfdinfo : (collector.devices.map Device.clearProcesses).map Device.fdinfo =
          collector.devices.map Device.fdinfo := by
        rw [List.map_map]
        rfl
      obtain ⟨hsweptLength, hsweptDevices⟩ := Device.origins_of_sweep hempty hswept
      obtain ⟨hlength, hdevices⟩ := getElem?_refreshDeviceProcesses host collector.cache swept
      refine ⟨?_, ?_, by simp⟩
      · rw [hlength, hsweptLength, List.length_map]
      · intro index device hdevice
        obtain ⟨middle, hmiddle, hinfo, hbackend, hrecords⟩ :=
          hsweptDevices index _ (hcleared hdevice)
        obtain ⟨before, last, hlast, hlastInfo, hprocesses⟩ := hdevices index middle hmiddle
        refine ⟨last, hlast, hlastInfo.trans hinfo, ?_, by simp⟩
        rw [hprocesses, hinfo, hbackend]
        apply ProcessCache.isCurrent_populate
        intro record hrecord
        rcases Backend.origin_of_mem_runningProcesses host hrecord with hmem | hmem
        · obtain ⟨entry, hentry, horigin⟩ := List.mem_map.mp hmem
          obtain ⟨visit, hvisit, hsame⟩ := hrecords entry hentry
          rw [Device.share_congr hfdinfo] at hvisit
          exact .inl ⟨visit, hvisit, horigin.symm.trans hsame⟩
        · exact .inr hmem

/-- What a cycle on a host makes of a collector. The metrics of a device are those that its backend
reports in this cycle and the rates that follow from its processes, and all records of processes are
current. Without the collection of processes there are none, and the cache and the readers are as
they were. -/
structure IsCurrent (host : Host) (before after : Collector) : Prop where
  length : after.devices.length = before.devices.length
  devices : ∀ (index : Nat) (device : GpuDevice), before.devices[index]? = some device →
    ∃ (last : GpuDevice) (info : DynamicInfo), after.devices[index]? = some last ∧
      device.backend.dynamicInfo host = .ok info ∧
      last.dynamicInfo =
        { info with
          gpuUtilization :=
            backfilledRate info.gpuUtilization (last.processes.map GpuProcess.gpuUsage)
          encoderUtilization :=
            backfilledRate info.encoderUtilization (last.processes.map GpuProcess.encodeUsage)
          decoderUtilization :=
            backfilledRate info.decoderUtilization (last.processes.map GpuProcess.decodeUsage) } ∧
      (∀ record ∈ last.processes, record.IsCurrent (before.visitsOf host index)
        (device.backend.runningProcesses host []).1 info.totalMemory) ∧
      (before.settings.collectProcesses = false →
        last.processes = [] ∧ last.fdinfo = device.fdinfo)
  cache : before.settings.collectProcesses = false → after.cache = before.cache

theorem returnsOnly_refresh (collector : Collector) :
    Run.ReturnsOnly (collector.refresh host) (collector.IsCurrent host) := by
  have hdynamic : Run.Ensures (monadLift (collector.refreshDynamic host))
      (· = collector.refreshDynamic host) := Run.ensures_ofExcept rfl
  rw [refresh]
  refine hdynamic.returnsOnly_of_result.bind ?_
  intro refreshed hrefreshed
  obtain ⟨devices, hdevices, rfl⟩ := Fault.map_eq_ok_iff.mp hrefreshed
  obtain ⟨hlength, hinfos⟩ := getElem?_refreshDynamic host hdevices
  refine (returnsOnly_refreshProcesses host _).bind ?_
  rintro middle ⟨hmiddleLength, hmiddleDevices, hcache⟩
  apply Run.returnsOnly_pure
  have hvisits (index : Nat) :
      ({ collector with devices } : Collector).visitsOf host index =
        collector.visitsOf host index :=
    Device.share_congr ((mapM_refreshDynamic host collector.devices).2 devices hdevices) _ index
  refine ⟨?_, ?_, hcache⟩
  · rw [backfill, List.length_map, hmiddleLength, hlength]
  · intro index device hdevice
    obtain ⟨info, hinfo, hrefreshed⟩ := hinfos index device hdevice
    obtain ⟨last, hlast, hlastInfo, hrecords, huncollected⟩ := hmiddleDevices index _ hrefreshed
    refine ⟨last.backfill, info, ?_, hinfo, ?_, ?_, huncollected⟩
    · rw [backfill, List.getElem?_map, hlast, Option.map_some]
    · rw [Device.backfill, hlastInfo]
    · rw [← hvisits]
      exact hrecords

/-- A cycle depends on nothing that was left on the devices, and leaves only what is current. -/
theorem refresh_of_kept_eq {a b : Collector} (h : a.kept = b.kept) :
    a.refresh host = b.refresh host ∧
      ∀ trace after events,
        StateT.run (ExceptT.run (a.refresh host)) trace = (.ok after, events) →
          a.IsCurrent host after := by
  refine ⟨by rw [← refresh_kept, h, refresh_kept], ?_⟩
  intro trace after events hrun
  have hafter := returnsOnly_refresh host a trace
  rw [hrun] at hafter
  exact hafter after rfl

/-- The backend itself tells the share of a process of a memory whose size it does not tell. -/
theorem share_without_total :
    let host : Host :=
      { libraries := { path := "/lib" }
        drm := { count := 0 }
        nvml := { count := .ok 0 }
        simulated := [{ devices := [{ processes := [{ pid := 7, memoryShare := some 50 }] }] }]
        procfs := fun path => { path } }
    let collector : Collector :=
      { settings := {}
        registry := { vendors := [.simulated ⟨"a", 0⟩] }
        devices := [{ vendor := 0, backend := .simulated ⟨0, 0⟩ }] }
    ∃ after events last,
      StateT.run (ExceptT.run (collector.refresh host)) [] = (.ok after, events) ∧
      after.devices[0]? = some last ∧ last.dynamicInfo.totalMemory = none ∧
      ∃ record ∈ last.processes, record.pid = 7 ∧ record.memoryShare = some 50 := by
  intro host collector
  exact ⟨_, _, _, rfl, rfl, rfl, _, List.mem_cons_self, rfl, rfl⟩

/-- Process 9 and two metrics were left on the device. -/
theorem refresh_of_left_process :
    let host : Host :=
      { libraries := { path := "/lib" }
        drm := { count := 0 }
        nvml := { count := .ok 0 }
        simulated := [{ devices := [{ processes := [{ pid := 7 }] }] }]
        procfs := fun path => { path } }
    let device : GpuDevice := { vendor := 0, backend := .simulated ⟨0, 0⟩ }
    let left : GpuDevice :=
      { device with
        dynamicInfo := { gpuUtilization := some 9, totalMemory := some 4 }
        processes := [{ pid := 9, memory := some 1 }] }
    let a : Collector := { settings := {}, registry := {}, devices := [left] }
    let b : Collector := { settings := {}, registry := {}, devices := [device] }
    a.kept = b.kept ∧ a.refresh host = b.refresh host ∧
      ∃ after events last,
        StateT.run (ExceptT.run (a.refresh host)) [] = (.ok after, events) ∧
        after.devices[0]? = some last ∧ last.dynamicInfo.totalMemory = none ∧
        ∀ record ∈ last.processes, record.pid = 7 := by
  intro host device left a b
  have hkept : a.kept = b.kept := rfl
  obtain ⟨hsame, hcurrent⟩ := refresh_of_kept_eq host hkept
  have hrun : ∃ after events,
      StateT.run (ExceptT.run (a.refresh host)) [] = (.ok after, events) := ⟨_, _, rfl⟩
  obtain ⟨after, events, hrun⟩ := hrun
  obtain ⟨last, info, hlast, hinfo, hlastInfo, hrecords, -⟩ :=
    (hcurrent [] after events hrun).devices 0 left rfl
  refine ⟨hkept, hsame, after, events, last, hrun, hlast, ?_, ?_⟩
  · cases hinfo
    rw [hlastInfo]
    rfl
  · intro record hrecord
    rcases (hrecords record hrecord).found with ⟨visit, hvisit, -⟩ | ⟨own, hown, hpid⟩
    · cases hvisit
    · have hseven : own ∈ ([{ pid := 7 }] : List GpuProcess) := hown
      rw [← hpid, List.mem_singleton.mp hseven]

end Collector

end GpuTelemetry
