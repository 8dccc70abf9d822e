import GpuTelemetry.Collector
import GpuTelemetry.Proofs.Procfs.Visits
import GpuTelemetry.Proofs.Vendor.Endurance
import GpuTelemetry.Proofs.Vendor.Lifecycle

/-!
# What is given up with a device

Queries and sweeps change what is known of a device, but neither the vendor that
it belongs to nor what giving it up does.
-/

namespace GpuTelemetry

/-- The vendor of a device and what giving the device up does. -/
def Device.holding (device : GpuDevice) : Nat × Run Unit :=
  (device.vendor, device.backend.release)

theorem releases_of_map_holding {devices after : List GpuDevice}
    (h : after.map Device.holding = devices.map Device.holding) :
    releases after = releases devices := by
  have hholding (devices : List GpuDevice) :
      releases devices = (devices.map Device.holding).map fun held => .deviceReleased held.1 := by
    rw [List.map_map]
    rfl
  rw [hholding, h, ← hholding]

theorem yields_of_map_holding {devices after : List GpuDevice}
    (h : after.map Device.holding = devices.map Device.holding)
    (hdevices : ∀ device ∈ devices, device.Yields) : ∀ device ∈ after, device.Yields := by
  intro device hdevice
  have hmem : device.holding ∈ devices.map Device.holding := h ▸ List.mem_map_of_mem hdevice
  obtain ⟨former, hformer, hsame⟩ := List.mem_map.mp hmem
  obtain ⟨hvendor, hrelease⟩ := Prod.mk.inj hsame
  have hyields := hdevices former hformer
  rw [Device.Yields, Device.release, hvendor, hrelease, ← Device.release] at hyields
  exact hyields

namespace Device

variable {β : Type}

theorem dispatch_map (pid : UInt32) (text : List Char) (now : Nat) {devices after : List (Device β)}
    {claimed : Bool} (h : dispatch pid text now devices = .ok (after, claimed)) :
    after.map (fun device => (device.vendor, device.backend)) =
      devices.map fun device => (device.vendor, device.backend) := by
  have hread {device last : Device β} {record process : GpuProcess} {accepted : Bool}
      (h : device.readFdinfo text record now = .ok (last, process, accepted)) :
      (last.vendor, last.backend) = (device.vendor, device.backend) := by
    rw [readFdinfo] at h
    split at h
    · cases h
      rfl
    · obtain ⟨outcome, -, hdone⟩ := Fault.bind_eq_ok_iff.mp h
      cases hdone
      rfl
  induction devices generalizing after claimed with
  | nil =>
      cases h
      rfl
  | cons device devices ih =>
      rw [dispatch] at h
      obtain ⟨⟨last, process, accepted⟩, hlast, h⟩ := Fault.bind_eq_ok_iff.mp h
      dsimp only at h
      split at h
      · obtain ⟨processes, -, hdone⟩ := Fault.bind_eq_ok_iff.mp h
        cases hdone
        have hsame := hread hlast
        exact congrArg (· :: _) hsame
      · obtain ⟨⟨others, claimed⟩, hothers, hdone⟩ := Fault.bind_eq_ok_iff.mp h
        cases hdone
        rw [List.map_cons, List.map_cons, ih hothers]
        exact congrArg (· :: _) (hread hlast)

theorem dispatchAll_map {visits : List Procfs.Visit} {devices after : List (Device β)}
    (h : dispatchAll visits devices = .ok after) :
    after.map (fun device => (device.vendor, device.backend)) =
      devices.map fun device => (device.vendor, device.backend) := by
  induction visits generalizing devices with
  | nil =>
      cases h
      rfl
  | cons visit visits ih =>
      rw [dispatchAll_cons] at h
      obtain ⟨middle, hmiddle, h⟩ := Fault.bind_eq_ok_iff.mp h
      obtain ⟨⟨_, claimed⟩, hdispatch, rfl⟩ := Fault.map_eq_ok_iff.mp hmiddle
      exact (ih h).trans (dispatch_map _ _ _ hdispatch)

end Device

namespace Backend

variable (host : Host)

theorem release_staticInfo (backend : Backend) :
    (backend.staticInfo host).2.release = backend.release := by
  cases backend <;> rfl

theorem release_runningProcesses (processes : List GpuProcess) (backend : Backend) :
    (backend.runningProcesses host processes).2.release = backend.release := by
  cases backend with
  | amd address device => rfl
  | simulated device => rfl
  | nvidia device =>
      -- a query changes what the device remembers, not the library it was opened with
      have hlibrary : (device.runningProcesses host.nvml processes).2.library = device.library := by
        unfold Nvidia.Device.runningProcesses Nvidia.Device.addAnswered
        split
        · rfl
        · dsimp only
          split <;> rfl
      change giveBack (device.runningProcesses host.nvml processes).2.library.resource =
        giveBack device.library.resource
      rw [hlibrary]

end Backend

namespace Collector

variable (host : Host)

theorem map_holding_populateStatic (devices : List GpuDevice) :
    (devices.map (Device.populateStatic host)).map Device.holding =
      devices.map Device.holding := by
  rw [List.map_map]
  refine List.map_congr_left fun device _ => ?_
  exact congrArg (Prod.mk device.vendor) (device.backend.release_staticInfo host)

theorem map_holding_refreshDynamic {devices after : List GpuDevice}
    (h : devices.mapM (Device.refreshDynamic host) = .ok after) :
    after.map Device.holding = devices.map Device.holding := by
  induction devices generalizing after with
  | nil =>
      cases h
      rfl
  | cons device devices ih =>
      rw [List.mapM_cons] at h
      obtain ⟨first, hfirst, h⟩ := Fault.bind_eq_ok_iff.mp h
      obtain ⟨others, hothers, hdone⟩ := Fault.bind_eq_ok_iff.mp h
      obtain ⟨_, -, rfl⟩ := Fault.map_eq_ok_iff.mp hfirst
      cases hdone
      rw [List.map_cons, List.map_cons, ih hothers]
      rfl

theorem map_holding_sweep {same : Procfs.SameOpenFile} {root : Procfs.Root}
    {devices after : List GpuDevice} (h : Procfs.sweep same root devices = .ok after) :
    after.map Device.holding = devices.map Device.holding := by
  rw [Procfs.sweep_eq_dispatchAll] at h
  have hboth := congrArg (List.map fun held => (held.1, Backend.release held.2))
    (Device.dispatchAll_map h)
  rw [List.map_map, List.map_map] at hboth
  exact hboth

theorem map_holding_refreshDeviceProcesses (cache : ProcessCache) (devices : List GpuDevice) :
    (refreshDeviceProcesses host cache devices).1.map Device.holding =
      devices.map Device.holding := by
  induction devices generalizing cache with
  | nil => rfl
  | cons device devices ih =>
      have hdevice : (device.refreshProcesses host).holding = device.holding :=
        congrArg (Prod.mk device.vendor)
          (device.backend.release_runningProcesses host device.processes)
      rw [refreshDeviceProcesses, List.map_cons, List.map_cons, ← hdevice]
      exact congrArg (List.cons (device.refreshProcesses host).holding) (ih _)

end Collector

end GpuTelemetry
