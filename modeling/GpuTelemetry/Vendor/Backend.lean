import GpuTelemetry.Amd.Device
import GpuTelemetry.Device.Basic
import GpuTelemetry.Host
import GpuTelemetry.Nvidia.Vendor

/-!
# Device backends

A device of any vendor, and its queries: the static metrics, the dynamic ones,
and the processes that are running on it.
-/

namespace GpuTelemetry

inductive Backend
  | amd (address : String) (device : Amd.Device)
  | nvidia (device : Nvidia.Device)
  | simulated (device : Simulated.Device)

abbrev GpuDevice := Device Backend

namespace Backend

def staticInfo (host : Host) : Backend → StaticInfo × Backend
  | amd address device =>
    let (info, device) := device.staticInfo host.drm (host.pciDirectory address)
    (info, amd address device)
  | nvidia device => (device.staticInfo host.nvml, nvidia device)
  | simulated device => ((host.simulatedDevice device).staticInfo, simulated device)

def dynamicInfo (host : Host) : Backend → Except Fault DynamicInfo
  | amd address device => device.dynamicInfo host.drm (host.pciDirectory address)
  | nvidia device => .ok (device.dynamicInfo host.nvml)
  | simulated device => .ok (host.simulatedDevice device).dynamicInfo

/-- Adds the running processes that the backend itself knows. Those that the kernel reports in
fdinfo texts are in the list already. -/
def runningProcesses (host : Host) (processes : List GpuProcess) :
    Backend → List GpuProcess × Backend
  | amd address device => (processes, amd address device)
  | nvidia device =>
    let (processes, device) := device.runningProcesses host.nvml processes
    (processes, nvidia device)
  | simulated device =>
    (processes ++ (host.simulatedDevice device).processes, simulated device)

def release : Backend → Run Unit
  | amd _ device => device.release
  | nvidia device => device.release
  | simulated _ => return

end Backend

namespace Device

def populateStatic (host : Host) (device : GpuDevice) : GpuDevice :=
  let (staticInfo, backend) := device.backend.staticInfo host
  { device with staticInfo, backend }

def refreshDynamic (host : Host) (device : GpuDevice) : Except Fault GpuDevice :=
  (device.backend.dynamicInfo host).map fun dynamicInfo => { device with dynamicInfo }

/-- Ends the cycle of the fdinfo reader and adds the processes that the backend knows. -/
def refreshProcesses (host : Host) (device : GpuDevice) : GpuDevice :=
  let (processes, backend) := device.backend.runningProcesses host device.processes
  { device with processes, backend, fdinfo := device.fdinfo.map FdinfoReader.rotate }

/-- Gives up a device. -/
def release (device : GpuDevice) : Run Unit := do
  emit (.deviceReleased device.vendor)
  device.backend.release

end Device

end GpuTelemetry
