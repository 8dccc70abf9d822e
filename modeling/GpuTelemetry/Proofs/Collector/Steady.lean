import GpuTelemetry.Proofs.Collector.Cycle
import GpuTelemetry.Proofs.Fdinfo.Steady
import GpuTelemetry.Proofs.Vendor.Repetition

/-!
# The steady state

When a host repeats itself, one cycle is enough to settle a collector: the readers
recall the counters that they will find again, the cache has the samples that the
source will give again, and no backend has new samples. From a settled state every
cycle gives the same devices and leaves a settled state.
-/

namespace GpuTelemetry

open Procfs

namespace Device

section

variable {β : Type} {device taken : Device β} {visits others : List Visit}

theorem address?_of_takeAll (h : takeAll visits device = .ok taken) :
    taken.address? = device.address? := by
  induction visits generalizing device with
  | nil =>
      cases h
      rfl
  | cons visit visits ih =>
      obtain ⟨middle, hmiddle, h⟩ := Fault.bind_eq_ok_iff.mp (takeAll_cons .. ▸ h)
      refine (ih h).trans ?_
      cases hreader : device.fdinfo with
      | none =>
          simp only [take, hreader] at hmiddle
          cases hmiddle
          rfl
      | some reader =>
          simp only [take, hreader] at hmiddle
          obtain ⟨outcome, hread, hmiddle⟩ := Fault.bind_eq_ok_iff.mp hmiddle
          obtain ⟨processes, -, hmiddle⟩ := Fault.bind_eq_ok_iff.mp hmiddle
          cases hmiddle
          rw [address?, address?, hreader, Option.map_some, Option.map_some,
            FdinfoReader.address_of_read hread]

theorem share_congr_address {devices afterwards : List (Device β)}
    (h : afterwards.map address? = devices.map address?) (visits : List Visit) (index : Nat) :
    share afterwards visits index = share devices visits index := by
  have hfirst (devices : List (Device β)) (text : List Char) : firstAccepting devices text =
      (devices.map address?).findIdx? fun address =>
        address.any fun value => Fdinfo.isAbout value (Fdinfo.entries text) := by
    rw [List.findIdx?_map, firstAccepting]
    congr 1
    funext device
    rw [accepts, Function.comp_apply, address?, Option.any_map]
    rfl
  rw [share, share]
  apply List.filter_congr
  intro visit _
  rw [hfirst, hfirst, h]

/-- The reader of a device recalls at its next visits what it reads now. -/
theorem recalls_of_takeAll (haccepts : ∀ visit ∈ visits, device.accepts visit.text = true)
    (h : takeAll visits device = .ok taken) (hlater : List.Forall₂ Visit.Later visits others)
    {reader : FdinfoReader} (hreader : taken.fdinfo = some reader) :
    reader.rotate.Recalls others := by
  cases hfdinfo : device.fdinfo with
  | none =>
      have haddress := address?_of_takeAll h
      rw [address?, address?, hreader, hfdinfo] at haddress
      cases haddress
  | some first =>
      obtain ⟨last, records, processes, hread, -, rfl⟩ := (takeAll_eq_ok_iff hfdinfo).mp h
      cases hreader
      refine FdinfoReader.recalls_of_readAll ?_ hread hlater
      intro visit hvisit
      have hvisitAccepts := haccepts visit hvisit
      rwa [accepts, hfdinfo, Option.any_some] at hvisitAccepts

/-- A device whose reader recalls the counters of its visits merges records that do not depend on
the times of these. -/
theorem exists_merged_of_recalls (h : takeAll visits device = .ok taken)
    (hempty : device.processes = []) (haccepts : ∀ visit ∈ visits, device.accepts visit.text = true)
    (hrecalls : ∀ reader, device.fdinfo = some reader → reader.Recalls visits) :
    ∃ merged, GpuProcess.mergeAll (visits.map Visit.steadyRecord) [] = .ok merged ∧
      taken = { device with fdinfo := taken.fdinfo, processes := merged } := by
  cases hfdinfo : device.fdinfo with
  | none =>
      have hnone : visits = [] := by
        refine List.eq_nil_iff_forall_not_mem.mpr fun visit hvisit => ?_
        have hvisitAccepts := haccepts visit hvisit
        rw [accepts, hfdinfo] at hvisitAccepts
        cases hvisitAccepts
      subst hnone
      cases h
      exact ⟨[], rfl, by rw [← hempty]⟩
  | some reader =>
      have hreads : ∀ visit ∈ visits, reader.accepts visit.text = true := by
        intro visit hvisit
        have hvisitAccepts := haccepts visit hvisit
        rwa [accepts, hfdinfo, Option.any_some] at hvisitAccepts
      obtain ⟨last, records, merged, hread, hmerge, rfl⟩ := (takeAll_eq_ok_iff hfdinfo).mp h
      obtain ⟨-, -, rfl⟩ := (FdinfoReader.readAll_eq_ok_iff hreads).mp hread
      rw [hempty, List.map_congr_left fun visit hvisit =>
        (hrecalls reader hfdinfo).recordAt_eq hvisit] at hmerge
      exact ⟨merged, hmerge, rfl⟩

end

end Device

namespace Collector

variable {host again : Host} {collector after next : Collector}

/-- A collector that will find on a host what it found in the cycle before. -/
structure Settled (host : Host) (collector : Collector) : Prop where
  backends : ∀ device ∈ collector.devices, ∀ processes,
    (device.backend.runningProcesses host processes).2 = device.backend
  readers : ∀ (index : Nat) (device : GpuDevice) (reader : FdinfoReader),
    collector.devices[index]? = some device → device.fdinfo = some reader →
    reader.Recalls (collector.visitsOf host index)
  cache : collector.cache.Tuned host.processes

theorem accepts_of_mem_visitsOf {index : Nat} {device : GpuDevice}
    (hdevice : collector.devices[index]? = some device) {visit : Visit}
    (hvisit : visit ∈ collector.visitsOf host index) : device.accepts visit.text = true :=
  Device.accepts_of_mem_share hdevice hvisit

/-- The host of the next cycle repeats itself, and the texts of each device are read later. -/
structure SeesAgain (collector : Collector) (host again : Host) : Prop
    extends host.Repeats collector.settings.procRoot again where
  later : ∀ index, List.Forall₂ (fun visit later => visit.now < later.now)
    (collector.visitsOf host index) (collector.visitsOf again index)

section

variable (haddresses : after.devices.map Device.address? = collector.devices.map Device.address?)
  (hsettings : after.settings = collector.settings)

include haddresses hsettings

theorem visitsOf_congr (host : Host) (index : Nat) :
    after.visitsOf host index = collector.visitsOf host index := by
  rw [visitsOf, visitsOf, Device.share_congr_address haddresses, hsettings]

theorem SeesAgain.congr (h : collector.SeesAgain host again) : after.SeesAgain host again := by
  refine ⟨hsettings ▸ h.toRepeats, ?_⟩
  intro index
  rw [visitsOf_congr haddresses hsettings, visitsOf_congr haddresses hsettings]
  exact h.later index

/-- The visits to a device in the next cycle on a host that repeats itself. -/
theorem SeesAgain.forall₂_visitsOf (h : collector.SeesAgain host again) (index : Nat) :
    List.Forall₂ Visit.Later (collector.visitsOf host index) (after.visitsOf again index) := by
  rw [visitsOf_congr haddresses hsettings]
  apply forall₂_later _ (h.later index)
  rw [visitsOf, visitsOf, ← Device.share_map_untimed, ← Device.share_map_untimed,
    h.untimed_visits]

end

theorem exists_taken (hsteady : host.processes.Steady)
    (hcollects : collector.settings.collectProcesses = true)
    (h : collector.refreshed host = .ok after) {index : Nat} {last : GpuDevice}
    (hlast : after.devices[index]? = some last) :
    ∃ (device taken : GpuDevice) (info : DynamicInfo), collector.devices[index]? = some device ∧
      Device.takeAll (collector.visitsOf host index)
        { device with dynamicInfo := info, processes := [] } = .ok taken ∧
      last = (taken.finished host (collector.cache.filled host.processes)).backfill := by
  obtain ⟨-, -, hlength, pids, cache, -, -, hdevices⟩ := getElem?_refreshed hsteady hcollects h
  have hlt : index < collector.devices.length := hlength ▸ (List.getElem?_eq_some_iff.mp hlast).1
  obtain ⟨info, taken, -, htake, -, hafter⟩ := hdevices index _ (List.getElem?_eq_getElem hlt)
  exact ⟨_, taken, info, List.getElem?_eq_getElem hlt, htake,
    Option.some.inj (hlast.symm.trans hafter)⟩

theorem map_address?_refreshed (hsteady : host.processes.Steady)
    (hcollects : collector.settings.collectProcesses = true)
    (h : collector.refreshed host = .ok after) :
    after.devices.map Device.address? = collector.devices.map Device.address? := by
  obtain ⟨-, -, hlength, -⟩ := getElem?_refreshed hsteady hcollects h
  apply List.ext_getElem?
  intro index
  rw [List.getElem?_map, List.getElem?_map]
  cases hlast : after.devices[index]? with
  | none =>
      have hge : collector.devices.length ≤ index := hlength ▸ List.getElem?_eq_none_iff.mp hlast
      rw [List.getElem?_eq_none hge]
  | some last =>
      obtain ⟨device, taken, info, hdevice, htake, rfl⟩ := exists_taken hsteady hcollects h hlast
      have htaken := Device.address?_of_takeAll htake
      rw [hdevice, Option.map_some, Option.map_some]
      refine Eq.trans ?_ (congrArg some htaken)
      simp only [Device.address?, Device.backfill, Device.finished, Device.refreshProcesses,
        Option.map_map]
      rfl

/-- Any cycle settles a collector for the next one. -/
theorem settled_of_refreshed (hsteady : host.processes.Steady) (hrests : collector.cache.Rests)
    (hcollects : collector.settings.collectProcesses = true)
    (h : collector.refreshed host = .ok after)
    (hagain : collector.SeesAgain host again) : after.Settled again := by
  obtain ⟨hsettings, -, -, pids, cache, hcovers, hcache, -⟩ :=
    getElem?_refreshed hsteady hcollects h
  have haddresses := map_address?_refreshed hsteady hcollects h
  refine ⟨?_, ?_, ?_⟩
  · intro last hlast processes
    obtain ⟨index, hindex⟩ := List.mem_iff_getElem?.mp hlast
    obtain ⟨device, taken, info, -, -, rfl⟩ := exists_taken hsteady hcollects h hindex
    rw [Backend.runningProcesses_of_repeats hagain.toRepeats]
    exact Backend.runningProcesses_again host taken.backend taken.processes processes
  · intro index last reader hlast hreader
    obtain ⟨device, taken, info, hdevice, htake, rfl⟩ := exists_taken hsteady hcollects h hlast
    obtain ⟨first, hfirst, rfl⟩ := Option.map_eq_some_iff.mp hreader
    refine Device.recalls_of_takeAll (fun visit hvisit => ?_) htake
      (hagain.forall₂_visitsOf haddresses hsettings index) hfirst
    exact accepts_of_mem_visitsOf hdevice hvisit
  · rw [hcache, hagain.processes]
    exact hcovers.tuned_endCycle hrests

/-! ## Equal devices in the snapshots -/

theorem snapshot_devices_eq (hregistry : next.registry = after.registry)
    (hlength : next.devices.length = after.devices.length)
    (hdevices : ∀ (index : Nat) (device : GpuDevice), after.devices[index]? = some device →
      ∃ other : GpuDevice, next.devices[index]? = some other ∧ other.vendor = device.vendor ∧
        other.staticInfo = device.staticInfo ∧ other.dynamicInfo = device.dynamicInfo ∧
        other.processes = device.processes) (first second : Int64) :
    (next.snapshot first).devices = (after.snapshot second).devices := by
  apply List.ext_getElem?
  intro index
  simp only [snapshot, List.getElem?_map, hregistry]
  cases hdevice : after.devices[index]? with
  | none =>
      have hge : next.devices.length ≤ index := hlength ▸ List.getElem?_eq_none_iff.mp hdevice
      rw [List.getElem?_eq_none hge]
  | some device =>
      obtain ⟨other, hother, hvendor, hstatic, hdynamic, hprocesses⟩ := hdevices index device hdevice
      rw [hother, Option.map_some, Option.map_some, hvendor, hstatic, hdynamic, hprocesses]

/-- The records that the texts and the backend give to a settled device. -/
def steadyProcesses (host : Host) (collector : Collector) (index : Nat) (device : GpuDevice) :
    Except Fault (List GpuProcess) :=
  (GpuProcess.mergeAll ((collector.visitsOf host index).map Visit.steadyRecord) []).map
    fun merged => (device.backend.runningProcesses host merged).1

/-- What a cycle leaves of each device of a settled collector. -/
theorem getElem?_refreshed_of_settled (hsteady : host.processes.Steady)
    (hsettled : collector.Settled host)
    (hcollects : collector.settings.collectProcesses = true)
    (h : collector.refreshed host = .ok after) :
    ∃ pids cache, collector.cache.Covers host.processes pids cache ∧ after.cache = cache.endCycle ∧
      ∀ (index : Nat) (device : GpuDevice), collector.devices[index]? = some device →
        ∃ info processes fdinfo, device.backend.dynamicInfo host = .ok info ∧
          collector.steadyProcesses host index device = .ok processes ∧
          processes.map GpuProcess.pid ⊆ pids ∧
          after.devices[index]? = some (Device.backfill
            { device with
              dynamicInfo := info
              fdinfo
              processes := processes.map fun process =>
                (process.describe (collector.cache.filled host.processes process.pid)).withMemoryShare
                  info.totalMemory }) := by
  obtain ⟨-, -, -, pids, cache, hcovers, hcache, hdevices⟩ := getElem?_refreshed hsteady hcollects h
  refine ⟨pids, cache, hcovers, hcache, ?_⟩
  intro index device hdevice
  obtain ⟨info, taken, hinfo, htake, hpids, hafter⟩ := hdevices index device hdevice
  obtain ⟨merged, hmerge, htaken⟩ := Device.exists_merged_of_recalls htake rfl
    (fun visit hvisit => accepts_of_mem_visitsOf hdevice hvisit)
    (fun reader hreader => hsettled.readers index device reader hdevice hreader)
  refine ⟨info, _, taken.fdinfo.map FdinfoReader.rotate, hinfo,
    Fault.map_eq_ok_iff.mpr ⟨merged, hmerge, rfl⟩, ?_, ?_⟩
  · rw [htaken] at hpids
    exact hpids
  · rw [hafter, htaken]
    have hbackend := hsettled.backends device (List.mem_of_getElem? hdevice) merged
    simp only [Device.finished, Device.refreshProcesses, hbackend]

/-- Two cycles from a settled collector on, on a host that repeats itself, give the same devices. -/
theorem snapshot_of_settled (hsteady : host.processes.Steady) (hsettled : collector.Settled host)
    (hcollects : collector.settings.collectProcesses = true)
    (hfirst : collector.refreshed host = .ok after)
    (hagain : collector.SeesAgain host again)
    (hsecond : after.refreshed again = .ok next) (first second : Int64) :
    (next.snapshot first).devices = (after.snapshot second).devices := by
  have hafter := settled_of_refreshed hsteady hsettled.cache.toRests hcollects hfirst hagain
  obtain ⟨hsettings, -, hlength, -⟩ := getElem?_refreshed hsteady hcollects hfirst
  have hagainSteady : again.processes.Steady := hagain.processes ▸ hsteady
  have hafterCollects : after.settings.collectProcesses = true := hsettings ▸ hcollects
  obtain ⟨-, hregistry, hnextLength, -⟩ := getElem?_refreshed hagainSteady hafterCollects hsecond
  obtain ⟨pids, cache, hcovers, hcache, hdevices⟩ :=
    getElem?_refreshed_of_settled hsteady hsettled hcollects hfirst
  obtain ⟨_, _, -, -, hnextDevices⟩ :=
    getElem?_refreshed_of_settled hagainSteady hafter hafterCollects hsecond
  refine snapshot_devices_eq hregistry hnextLength ?_ first second
  intro index middle hmiddle
  obtain ⟨device, hdevice⟩ : ∃ device, collector.devices[index]? = some device :=
    ⟨_, List.getElem?_eq_getElem (hlength ▸ (List.getElem?_eq_some_iff.mp hmiddle).1)⟩
  obtain ⟨info, processes, fdinfo, hinfo, hprocesses, hpids, hlast⟩ := hdevices index device hdevice
  cases hmiddle.symm.trans hlast
  obtain ⟨nextInfo, nextProcesses, nextFdinfo, hnextInfo, hnextProcesses, -, hnext⟩ :=
    hnextDevices index _ hlast
  have hinfos : nextInfo = info := by
    rw [Backend.dynamicInfo_of_repeats hagain.toRepeats] at hnextInfo
    exact Except.ok.inj (hnextInfo.symm.trans hinfo)
  have hsame : nextProcesses = processes := by
    have hlater := hagain.forall₂_visitsOf (map_address?_refreshed hsteady hcollects hfirst)
      hsettings index
    have hrecords : (after.visitsOf again index).map Visit.steadyRecord =
        (collector.visitsOf host index).map Visit.steadyRecord := by
      generalize collector.visitsOf host index = visits at hlater
      generalize after.visitsOf again index = others at hlater
      induction hlater with
      | nil => rfl
      | cons hvisit _ ih => rw [List.map_cons, List.map_cons, hvisit.steadyRecord_eq, ih]
    rw [steadyProcesses, hrecords] at hnextProcesses
    simp only [Backend.runningProcesses_of_repeats hagain.toRepeats] at hnextProcesses
    exact Except.ok.inj (hnextProcesses.symm.trans hprocesses)
  subst hinfos hsame
  have hdescribed : nextProcesses.map (fun process =>
      (process.describe (after.cache.filled again.processes process.pid)).withMemoryShare
        nextInfo.totalMemory) = nextProcesses.map fun process =>
      (process.describe (collector.cache.filled host.processes process.pid)).withMemoryShare
        nextInfo.totalMemory := by
    apply List.map_congr_left
    intro process hprocess
    have hpid : process.pid ∈ pids := hpids (List.mem_map_of_mem hprocess)
    rw [hcache, hagain.processes, hcovers.filled_endCycle hsettled.cache hpid]
  refine ⟨_, hnext, rfl, rfl, ?_, ?_⟩
  · simp only [Device.backfill, hdescribed]
  · simp only [Device.backfill, hdescribed]

end Collector

end GpuTelemetry
