import GpuTelemetry.Collector
import GpuTelemetry.Proofs.Device.Clients
import GpuTelemetry.Proofs.Vendor.Enumeration

/-!
# The collector reads no client twice

Between two steps of the collector every reader is at rest, since each cycle ends
by rotating all of them, and no step changes which devices read fdinfo texts. So
a sweep over a tree that separates its clients meets each client for the first
time in its cycle, in any run.
-/

namespace GpuTelemetry

open Procfs

/-- The readers of the devices that read fdinfo texts. -/
def readersOf (devices : List GpuDevice) : List FdinfoReader :=
  devices.filterMap Device.fdinfo

theorem readersOf_eq_of_map_fdinfo {devices after : List GpuDevice}
    (h : after.map Device.fdinfo = devices.map Device.fdinfo) :
    readersOf after = readersOf devices := by
  have hreaders (devices : List GpuDevice) :
      readersOf devices = (devices.map Device.fdinfo).filterMap id := by
    rw [readersOf, List.filterMap_map]
    rfl
  rw [hreaders, hreaders, h]

theorem filterMap_address? (devices : List GpuDevice) :
    devices.filterMap Device.address? = (readersOf devices).map FdinfoReader.address := by
  rw [readersOf, List.map_filterMap]
  rfl

/-- Readers at some addresses that have read nothing in the running cycle. -/
structure AtRest (addresses : List (List Char)) (readers : List FdinfoReader) : Prop where
  addresses_eq : readers.map FdinfoReader.address = addresses
  current : ∀ reader ∈ readers, reader.clients.current = []

variable (host : Host) {addresses : List (List Char)}

theorem Amd.fault_of_memoryUtilization {memory : Drm.MemoryInfo} {fault : Fault}
    (h : memoryUtilization memory = .error fault) : fault = .multiplicationOverflow := by
  rw [memoryUtilization] at h
  split at h
  · cases h
  · dsimp only at h
    split at h
    · cases h
    · cases h
      rfl

theorem Backend.fault_of_dynamicInfo {backend : Backend} {fault : Fault}
    (h : backend.dynamicInfo host = .error fault) : fault = .multiplicationOverflow := by
  cases backend with
  | amd address device =>
      rw [dynamicInfo, Amd.Device.dynamicInfo] at h
      split at h
      · rcases Fault.bind_eq_error_iff.mp h with hmemory | ⟨_, -, hdone⟩
        · exact Amd.fault_of_memoryUtilization hmemory
        · cases hdone
      · cases h
  | nvidia device => cases h
  | simulated device => cases h

theorem mapM_refreshDynamic (devices : List GpuDevice) :
    (∀ fault, devices.mapM (Device.refreshDynamic host) = .error fault →
      fault = .multiplicationOverflow) ∧
      ∀ after, devices.mapM (Device.refreshDynamic host) = .ok after →
        after.map Device.fdinfo = devices.map Device.fdinfo := by
  induction devices with
  | nil =>
      refine ⟨nofun, ?_⟩
      rintro _ ⟨⟩
      rfl
  | cons device devices ih =>
      obtain ⟨hfault, hafter⟩ := ih
      rw [List.mapM_cons]
      constructor
      · intro fault h
        rcases Fault.bind_eq_error_iff.mp h with hdevice | ⟨_, -, h⟩
        · exact Backend.fault_of_dynamicInfo host (Fault.map_eq_error_iff.mp hdevice)
        rcases Fault.bind_eq_error_iff.mp h with hothers | ⟨_, -, hdone⟩
        · exact hfault fault hothers
        · cases hdone
      · intro _ h
        obtain ⟨first, hfirst, h⟩ := Fault.bind_eq_ok_iff.mp h
        obtain ⟨others, hothers, hdone⟩ := Fault.bind_eq_ok_iff.mp h
        obtain ⟨_, -, rfl⟩ := Fault.map_eq_ok_iff.mp hfirst
        cases hdone
        rw [List.map_cons, List.map_cons, hafter others hothers]

/-- Every device ends its cycle by rotating its reader. -/
theorem readersOf_refreshDeviceProcesses (cache : ProcessCache) (devices : List GpuDevice) :
    readersOf (refreshDeviceProcesses host cache devices).1 =
      (readersOf devices).map FdinfoReader.rotate := by
  have hfdinfo : (refreshDeviceProcesses host cache devices).1.map Device.fdinfo =
      devices.map fun device => device.fdinfo.map FdinfoReader.rotate := by
    induction devices generalizing cache with
    | nil => rfl
    | cons device devices ih =>
        rw [refreshDeviceProcesses, List.map_cons]
        exact congrArg _ (ih _)
  have hrotated : (refreshDeviceProcesses host cache devices).1.map Device.fdinfo =
      (devices.map Device.rotateFdinfo).map Device.fdinfo := by
    rw [hfdinfo, List.map_map]
    rfl
  rw [readersOf_eq_of_map_fdinfo hrotated, readersOf, readersOf, List.filterMap_map,
    List.map_filterMap]
  rfl

theorem atRest_rotate {readers : List FdinfoReader}
    (h : readers.map FdinfoReader.address = addresses) :
    AtRest addresses (readers.map FdinfoReader.rotate) := by
  constructor
  · rw [List.map_map]
    exact h
  · intro reader hreader
    obtain ⟨last, -, rfl⟩ := List.mem_map.mp hreader
    rfl

namespace Collector

/-- What can be done to a collector between its start and its end. -/
inductive Step
  | populateStatic
  | refreshDynamic
  | refreshProcesses
  | backfill

def step (host : Host) (collector : Collector) : Step → Run Collector
  | .populateStatic => return collector.populateStatic host
  | .refreshDynamic => collector.refreshDynamic host
  | .refreshProcesses => collector.refreshProcesses host
  | .backfill => return collector.backfill

/-- Does some steps, each on the host as it stands then. -/
def steps : List (Host × Step) → Collector → Run Collector
  | [], collector => return collector
  | (host, step) :: rest, collector => do
    let collector ← collector.step host step
    steps rest collector

/-- No client was read twice, and what is left has a property. -/
def Keeps (P : Collector → Prop) (result : Except Fault Collector) : Prop :=
  (∀ key, result ≠ .error (.clientReadTwice key)) ∧ ∀ after, result = .ok after → P after

/-- Settings and readers of a collector between two steps. -/
structure Idle (settings : Settings) (addresses : List (List Char)) (collector : Collector) :
    Prop where
  settings_eq : collector.settings = settings
  atRest : AtRest addresses (readersOf collector.devices)

variable {settings : Settings} {collector : Collector}

theorem Idle.of_map_fdinfo {after : Collector} (h : collector.Idle settings addresses)
    (hsettings : after.settings = collector.settings)
    (hdevices : after.devices.map Device.fdinfo = collector.devices.map Device.fdinfo) :
    after.Idle settings addresses := by
  refine ⟨hsettings.trans h.settings_eq, ?_⟩
  rw [readersOf_eq_of_map_fdinfo hdevices]
  exact h.atRest

theorem Idle.populateStatic (h : collector.Idle settings addresses) :
    (collector.populateStatic host).Idle settings addresses := by
  refine h.of_map_fdinfo rfl ?_
  rw [Collector.populateStatic, List.map_map]
  rfl

theorem Idle.backfill (h : collector.Idle settings addresses) :
    collector.backfill.Idle settings addresses := by
  refine h.of_map_fdinfo rfl ?_
  rw [Collector.backfill, List.map_map]
  rfl

theorem Idle.refreshDynamic (h : collector.Idle settings addresses) :
    Keeps (Idle settings addresses) (collector.refreshDynamic host) := by
  obtain ⟨hfault, hafter⟩ := mapM_refreshDynamic host collector.devices
  constructor
  · intro key hresult
    cases hfault _ (Fault.map_eq_error_iff.mp hresult)
  · intro after hresult
    obtain ⟨devices, hdevices, rfl⟩ := Fault.map_eq_ok_iff.mp hresult
    exact h.of_map_fdinfo rfl (hafter devices hdevices)

/-- Whether the walk is logged makes no difference to what it finds. -/
theorem ensures_sweep (root : Root) (devices : List GpuDevice) :
    Run.Ensures (Collector.sweep host root devices)
      (· = Procfs.sweep host.sameOpenFile root devices) := by
  rw [Collector.sweep]
  have hwalk : Run.Ensures (monadLift (Procfs.sweep host.sameOpenFile root devices))
      (· = Procfs.sweep host.sameOpenFile root devices) := Run.ensures_ofExcept rfl
  split
  · cases root.listing with
    | error reason => exact Run.ensures_unit_bind hwalk
    | ok entries => exact hwalk
  · exact hwalk

/-- A cycle over a tree that separates its clients. -/
theorem Idle.ensures_refreshProcesses (h : collector.Idle settings addresses)
    (hroot : (host.procfs settings.procRoot).Separates host.sameOpenFile addresses) :
    Run.Ensures (collector.refreshProcesses host) (Keeps (Idle settings addresses)) := by
  have hcleared : readersOf (collector.devices.map Device.clearProcesses) =
      readersOf collector.devices := by
    apply readersOf_eq_of_map_fdinfo
    rw [List.map_map]
    rfl
  have hrests : ∀ device ∈ collector.devices.map Device.clearProcesses, device.Rests := by
    intro device hdevice reader hreader
    have hmem := List.mem_filterMap.mpr ⟨device, hdevice, hreader⟩
    rw [← readersOf, hcleared] at hmem
    exact h.atRest.current reader hmem
  have haddresses : (collector.devices.map Device.clearProcesses).filterMap Device.address? =
      addresses := by
    rw [filterMap_address?, hcleared]
    exact h.atRest.addresses_eq
  rw [refreshProcesses, h.settings_eq]
  dsimp only
  split
  · apply Run.ensures_pure
    refine ⟨nofun, ?_⟩
    rintro _ ⟨⟩
    refine ⟨rfl, ?_⟩
    rw [hcleared]
    exact h.atRest
  · rw [← haddresses] at hroot
    obtain ⟨hfault, hafter⟩ := Device.sweep_of_separates hrests hroot
    refine (ensures_sweep host _ _).bind ?_ ?_
    · intro swept hswept
      have hsame : (readersOf swept).map FdinfoReader.address = addresses := by
        have hmaps := congrArg (List.filterMap id) (hafter swept hswept.symm)
        rw [List.filterMap_map, List.filterMap_map] at hmaps
        rw [← filterMap_address?, ← haddresses]
        exact hmaps
      apply Run.ensures_unit_bind
      refine Run.ensures_lift_bind (P := fun _ => True) (fun _ => trivial) ?_
      intro cache _
      apply Run.ensures_pure
      refine ⟨nofun, ?_⟩
      rintro _ ⟨⟩
      refine ⟨rfl, ?_⟩
      rw [readersOf_refreshDeviceProcesses]
      exact atRest_rotate hsame
    · intro fault hswept
      refine ⟨?_, nofun⟩
      rintro key ⟨⟩
      cases hfault _ hswept.symm

theorem Idle.ensures_step (h : collector.Idle settings addresses) (step : Step)
    (hroot : step = .refreshProcesses →
      (host.procfs settings.procRoot).Separates host.sameOpenFile addresses) :
    Run.Ensures (collector.step host step) (Keeps (Idle settings addresses)) := by
  cases step with
  | populateStatic =>
      apply Run.ensures_pure
      refine ⟨nofun, ?_⟩
      rintro _ ⟨⟩
      exact h.populateStatic host
  | refreshDynamic => exact Run.ensures_ofExcept (h.refreshDynamic host)
  | refreshProcesses => exact h.ensures_refreshProcesses host (hroot rfl)
  | backfill =>
      apply Run.ensures_pure
      refine ⟨nofun, ?_⟩
      rintro _ ⟨⟩
      exact h.backfill

theorem Idle.ensures_steps {run : List (Host × Step)} (h : collector.Idle settings addresses)
    (hrun : ∀ host, (host, .refreshProcesses) ∈ run →
      (host.procfs settings.procRoot).Separates host.sameOpenFile addresses) :
    Run.Ensures (steps run collector) (Keeps (Idle settings addresses)) := by
  induction run generalizing collector with
  | nil =>
      apply Run.ensures_pure
      refine ⟨nofun, ?_⟩
      rintro _ ⟨⟩
      exact h
  | cons first rest ih =>
      obtain ⟨host, step⟩ := first
      have hfirst : step = .refreshProcesses →
          (host.procfs settings.procRoot).Separates host.sameOpenFile addresses := by
        rintro rfl
        exact hrun host List.mem_cons_self
      refine (h.ensures_step host step hfirst).bind ?_ ?_
      · intro middle hmiddle
        apply ih (hmiddle.2 middle rfl)
        exact fun other hother => hrun other (List.mem_cons_of_mem _ hother)
      · intro fault hfault
        refine ⟨?_, nofun⟩
        rintro key ⟨⟩
        exact hfault.1 key rfl

/-- The devices of a start have read nothing yet. -/
theorem ensures_start (settings : Settings) (registry : Registry) :
    Run.Ensures (start host settings registry) fun result =>
      ∀ collector, result = .ok collector →
        collector.Idle settings (collector.devices.filterMap Device.address?) := by
  refine (Registry.ensures_start host registry settings.mask).bind ?_ nofun
  rintro ⟨started, devices⟩ hdevices
  apply Run.ensures_pure
  rintro _ ⟨⟩
  refine ⟨rfl, (filterMap_address? devices).symm, ?_⟩
  intro reader hreader
  obtain ⟨device, hdevice, hfdinfo⟩ := List.mem_filterMap.mp hreader
  rw [hdevices started devices rfl] at hdevice
  obtain ⟨_, hselected, rfl⟩ := List.mem_filterMap.mp hdevice
  obtain ⟨opened, index, rfl⟩ :=
    Registry.exists_ofVendor_of_mem_matchedFrom host (DeviceMask.mem_of_mem_select hselected)
  obtain ⟨address, -, rfl⟩ := Option.map_eq_some_iff.mp hfdinfo
  rfl

/-- In no run of a collector is a client read twice in one cycle, if every tree that is swept
separates the clients that the devices find in it. -/
theorem no_client_read_twice {registry : Registry} {before between : List Event}
    (hstart : StateT.run (ExceptT.run (start host settings registry)) before =
      (.ok collector, between))
    {run : List (Host × Step)}
    (hrun : ∀ host, (host, .refreshProcesses) ∈ run →
      (host.procfs settings.procRoot).Separates host.sameOpenFile
        (collector.devices.filterMap Device.address?))
    (trace : List Event) (key : ClientKey) :
    (StateT.run (ExceptT.run (steps run collector)) trace).1 ≠ .error (.clientReadTwice key) := by
  have hidle := ensures_start host settings registry before
  rw [hstart] at hidle
  have hsteps := (hidle collector rfl).ensures_steps hrun
  exact (hsteps trace).1 key

/-- Process 7 has two descriptors of one open file and a third one that is another client, and
process 9 has a client of the same number. -/
theorem no_client_read_twice_of_two_processes :
    let bytes (text : String) : List UInt8 := text.toList.map fun c => UInt8.ofNat c.toNat
    let descriptor (name text : String) : Descriptor :=
      { name, file := .characterDevice 0xe200, contents := some (bytes text), readAt := 0 }
    let first := [descriptor "3" "pdev:a\ndrm-client-id:1", descriptor "4" "pdev:a\ndrm-client-id:1",
      descriptor "5" "drm-client-id:2"]
    let second := [descriptor "3" "drm-client-id:1"]
    let entries : List Entry :=
      [{ name := "7", fdinfo := some first }, { name := "9", fdinfo := some second }]
    let host : Host :=
      { libraries := { path := "/lib" }
        drm := { count := 0 }
        nvml := { count := .ok 0 }
        simulated := [{ devices := [{ address := some ['a'] }, { address := some ['b'] }] }]
        procfs := fun path => { path, listing := .ok entries }
        sameOpenFile := fun _ number other => (number = 5) = (other = 5) }
    let registry : Registry := { vendors := [.simulated ⟨"simulated", 0⟩] }
    let run : List (Host × Step) :=
      [(host, .refreshProcesses), (host, .backfill), (host, .refreshProcesses)]
    ∃ collector between,
      StateT.run (ExceptT.run (start host {} registry)) [] = (.ok collector, between) ∧
      (host.procfs "/proc").Separates host.sameOpenFile
        (collector.devices.filterMap Device.address?) ∧
      (StateT.run (ExceptT.run (steps run collector)) []).1 ≠ .error (.clientReadTwice ⟨1, 7⟩) := by
  intro bytes descriptor first second entries host registry run
  have hstart : ∃ collector between,
      StateT.run (ExceptT.run (start host {} registry)) [] = (.ok collector, between) ∧
        collector.devices.filterMap Device.address? = [['a'], ['b']] := ⟨_, _, rfl, rfl⟩
  obtain ⟨collector, between, hstart, haddresses⟩ := hstart
  have hfirst : ∀ address ∈ [['a'], ['b']],
      OneFilePerClient host.sameOpenFile 7 address first := by
    unfold OneFilePerClient
    decide +kernel
  have hsecond : ∀ address ∈ [['a'], ['b']],
      OneFilePerClient host.sameOpenFile 9 address second := by
    unfold OneFilePerClient
    decide +kernel
  have hroot : (host.procfs "/proc").Separates host.sameOpenFile [['a'], ['b']] := by
    refine ⟨by decide +kernel, ?_⟩
    intro entry hentry pid descriptors hpid hfdinfo
    rcases List.mem_cons.mp hentry with rfl | hentry
    · have hseven : Entry.pid? { name := "7", fdinfo := some first } = some 7 := by decide +kernel
      cases hseven.symm.trans hpid
      cases hfdinfo
      exact hfirst
    · cases List.mem_singleton.mp hentry
      have hnine : Entry.pid? { name := "9", fdinfo := some second } = some 9 := by decide +kernel
      cases hnine.symm.trans hpid
      cases hfdinfo
      exact hsecond
  rw [← haddresses] at hroot
  refine ⟨collector, between, hstart, hroot, ?_⟩
  apply no_client_read_twice host hstart
  intro other hother
  have hsame : other = host := by simpa [run] using hother
  rw [hsame]
  exact hroot

end Collector

end GpuTelemetry
