import GpuTelemetry.Vendor.Basic

/-!
# The vendor registry

Vendors have different names and are numbered in the order of registration. All
of them share one device mask. A vendor that fails, or that has no device to
offer, is shut down again and does not keep the others from working.
-/

namespace GpuTelemetry

structure Registry where
  vendors : List Vendor := []

def releaseDevices (devices : List GpuDevice) : Run Unit :=
  devices.forM Device.release

namespace Registry

def find? (registry : Registry) (name : String) : Option Nat :=
  registry.vendors.findIdx? fun v => v.name = name

/-- Registers a vendor, unless there is one of that name, and gives the number for the name. -/
def register (registry : Registry) (vendor : Vendor) : Traced (Registry × Nat) := do
  match registry.find? vendor.name with
  | some index =>
    log .debug .registry ("Vendor " ++ vendor.name ++ " already registered")
    return (registry, index)
  | none => return ({ vendors := registry.vendors ++ [vendor] }, registry.vendors.length)

def vendorName (registry : Registry) (index : Nat) : String :=
  (registry.vendors[index]?.map Vendor.name).getD "unknown"

def lastErrors (host : Host) (registry : Registry) : List (String × String) :=
  registry.vendors.map fun v => (v.name, v.lastErrorText host)

def shutdownVendor (index : Nat) (vendor : Vendor) : Run Vendor := do
  emit (.vendor index .shutdown)
  vendor.shutdown

/-- Starts one vendor: its devices, the mask for the next one, and what became of it. -/
def startVendor (host : Host) (index : Nat) (vendor : Vendor) (mask : DeviceMask) :
    Run (List GpuDevice × DeviceMask × Vendor) := do
  emit (.vendor index .init)
  match ← vendor.init host with
  | (.error failure, vendor) =>
    log .warn .registry (vendor.name ++ " backend unavailable: " ++ failure.message)
    return ([], mask, ← shutdownVendor index vendor)
  | (.ok (), vendor) =>
    emit (.vendor index .enumerate)
    match ← vendor.enumerate host index mask with
    | (.error failure, mask, vendor) =>
      log .warn .registry (vendor.name ++ " device enumeration failed: " ++ failure.message)
      return ([], mask, ← shutdownVendor index vendor)
    | (.ok [], mask, vendor) =>
      log .info .registry (vendor.name ++ " backend found no device")
      return ([], mask, ← shutdownVendor index vendor)
    | (.ok devices, mask, vendor) =>
      log .info .registry
        (vendor.name ++ " backend found " ++ toString devices.length ++ " device(s)")
      return (devices, mask, vendor)

/-- Starts the vendors from number `index` on. The devices found so far are given up on a fault. -/
def startFrom (host : Host) :
    Nat → List Vendor → DeviceMask → List GpuDevice → Run (List Vendor × List GpuDevice)
  | _, [], _, found => return ([], found)
  | index, vendor :: vendors, mask, found => do
    let (devices, mask, vendor) ←
      onFault (startVendor host index vendor mask) (releaseDevices found)
    let (vendors, found) ← startFrom host (index + 1) vendors mask (found ++ devices)
    return (vendor :: vendors, found)

/-- Starts every vendor and collects the devices of all. -/
def start (host : Host) (registry : Registry) (mask : DeviceMask) :
    Run (Registry × List GpuDevice) := do
  let (vendors, devices) ← startFrom host 0 registry.vendors mask []
  return ({ vendors }, devices)

def shutdownFrom : Nat → List Vendor → Run (List Vendor)
  | _, [] => return []
  | index, vendor :: vendors => do
    let vendor ← shutdownVendor index vendor
    return vendor :: (← shutdownFrom (index + 1) vendors)

/-- Gives up the devices and then shuts down every vendor. -/
def shutdown (registry : Registry) (devices : List GpuDevice) : Run Registry := do
  releaseDevices devices
  return { vendors := ← shutdownFrom 0 registry.vendors }

end Registry

/-- The vendors of a real system. -/
def Registry.standard : Registry where
  vendors := [.amd {}, .nvidia {}]

end GpuTelemetry
