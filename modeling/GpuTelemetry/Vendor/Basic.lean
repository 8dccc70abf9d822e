import GpuTelemetry.Amd.Vendor
import GpuTelemetry.Vendor.Backend

/-!
# Vendors

One interface to the vendors: loading what they need, finding their devices, and
giving back what they loaded.
-/

namespace GpuTelemetry

inductive Vendor
  | amd (vendor : Amd.Vendor)
  | nvidia (vendor : Nvidia.Vendor)
  | simulated (vendor : Simulated.Vendor)

namespace Vendor

def name : Vendor → String
  | amd _ => "AMD"
  | nvidia _ => "NVIDIA"
  | simulated vendor => vendor.name

def lastErrorText (host : Host) : Vendor → String
  | amd vendor => vendor.lastErrorText
  | nvidia vendor => vendor.lastErrorText
  | simulated vendor => (host.station vendor.station).lastErrorText

def init (host : Host) : Vendor → Run (Except Failure Unit × Vendor)
  | amd vendor => do
    let (result, vendor) ← vendor.init host.libraries
    return (result, amd vendor)
  | nvidia vendor => do
    let (result, vendor) ← vendor.init host.libraries host.nvml
    return (result, nvidia vendor)
  | simulated vendor => return ((host.station vendor.station).init, simulated vendor)

def shutdown : Vendor → Run Vendor
  | amd vendor => do return amd (← vendor.shutdown)
  | nvidia vendor => do return nvidia (← vendor.shutdown)
  | simulated vendor => return simulated vendor

/-- Finds the devices of the vendor with number `index`, taking one bit of the mask for each one
that is there. -/
def enumerate (host : Host) (index : Nat) (mask : DeviceMask) :
    Vendor → Run (Except Failure (List GpuDevice) × DeviceMask × Vendor)
  | amd vendor => do
    let (result, mask, vendor) ← vendor.enumerate host.drm host.pciDirectory mask
    let devices := result.map fun found => found.map fun f =>
      { vendor := index
        fdinfo := some { address := f.address }
        backend := .amd (String.ofList f.address) f.device }
    return (devices, mask, amd vendor)
  | nvidia vendor => do
    let (result, mask, vendor) ← vendor.enumerate host.nvml mask
    let devices := result.map fun found => found.map fun d =>
      { vendor := index, backend := .nvidia d }
    return (devices, mask, nvidia vendor)
  | simulated vendor => do
    let (result, mask) := vendor.enumerate (host.station vendor.station) mask
    let devices := result.map fun found => found.map fun f =>
      { vendor := index
        fdinfo := f.address.map fun address => { address }
        backend := .simulated f.device }
    return (devices, mask, simulated vendor)

end Vendor

end GpuTelemetry
