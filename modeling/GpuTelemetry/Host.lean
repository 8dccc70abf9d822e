import GpuTelemetry.Drm.Driver
import GpuTelemetry.Nvml.Driver
import GpuTelemetry.Process.Cache
import GpuTelemetry.Procfs.Tree
import GpuTelemetry.Simulated.Vendor
import GpuTelemetry.Sysfs.FileTree

/-!
# The host

Everything a run can ask for, as it stands at one moment: the libraries and what
they answer, the simulated vendors, the sensor files, procfs, and what is known
about processes.
-/

namespace GpuTelemetry

structure Host where
  libraries : Platform.LibraryDirectory
  drm : Drm.Driver
  nvml : Nvml.Driver
  simulated : List Simulated.Behaviour := []
  /-- The sensor files of the device at a PCI address. -/
  pciDirectory : String → Sysfs.FileTree := fun _ => {}
  /-- What a walk of procfs finds at a path. -/
  procfs : String → Procfs.Root
  sameOpenFile : Procfs.SameOpenFile := Procfs.SameOpenFile.unsupported
  processes : ProcessSource := ProcessSource.empty

namespace Host

/-- The behaviour with a number; a vendor without one has no devices. -/
def station (host : Host) (number : Nat) : Simulated.Behaviour :=
  host.simulated[number]?.getD {}

def simulatedDevice (host : Host) (device : Simulated.Device) : Simulated.DeviceBehaviour :=
  (host.station device.station).devices[device.index]?.getD {}

end Host

end GpuTelemetry
