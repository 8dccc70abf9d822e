import GpuTelemetry.Amd.Device
import GpuTelemetry.Device.Mask
import GpuTelemetry.Drm.Library

/-!
# The AMD vendor

Finding the AMD devices of a system: every listed device with the vendor number
of AMD takes one bit of the mask, and if the bit is set it is opened through its
render node or else its primary node.
-/

namespace GpuTelemetry.Amd

open Drm Platform

structure Vendor where
  library : Option Library := none
  /-- Whether the library for device contexts is loaded. -/
  contexts : Bool := false
  lastError : Option String := some "AMD backend was not initialized"

def vendorId : UInt16 := 0x1002

/-- The directory of a PCI device in sysfs. -/
def sysfsDirectory (address : String) : String :=
  "/sys/bus/pci/devices/" ++ address

/-- Opens the first of some nodes that can be opened, for the device at `index`. -/
def openNode (index : Nat) : List DeviceNode → Traced Bool
  | [] => return false
  | node :: nodes =>
    match node.path with
    | none => openNode index nodes
    | some path => do
      if node.opens then
        emit (.acquired (.deviceNode index))
        return true
      else
        log .debug .amd ("Cannot open " ++ path ++ ": " ++ errorText node.refusal)
        openNode index nodes

/-- Asks for name and description of the kernel driver. -/
def driverVersion (driver : Driver) (index : Nat) : Traced (Option (String × String)) := do
  call (.getVersion index)
  match (driver.device? index).bind ListedDevice.version with
  | none => return none
  | some version =>
    call .freeVersion
    let text (bytes : Option Bytes) : String := (bytes.map textOf).getD ""
    return some (text version.name, text version.description)

/-- Authenticates to the driver, and gives up being its master if that made us so. -/
def authenticate (driver : Driver) (index : Nat) : Traced Unit := do
  call (.getMagic index)
  if driver.getMagicStatus < 0 then return
  call (.authMagic driver.magic)
  if driver.authMagicStatus = 0 then
    call (.dropMaster index)
    if driver.dropMasterStatus ≠ 0 then
      log .warn .drmLibrary
        "Failed to drop DRM master; other DRM clients may misbehave on VT switch"
  else
    log .debug .drmLibrary "Failed to authenticate to DRM"

/-- Makes a device context. -/
def openContext (driver : Driver) (index : Nat) : Run (Except Failure Unit) := do
  call (.beginContext index)
  let device := driver.device? index
  let status := (device.map ListedDevice.initStatus).getD 0
  let null := (device.map ListedDevice.nullHandle).getD true
  if status ≠ 0 || null then
    let text ← statusText status
    return .error (.drm ("amdgpu_device_initialize failed: " ++ text))
  else
    let (major, minor) := (device.map ListedDevice.interface).getD (0, 0)
    log .debug .drmLibrary
      ("amdgpu DRM interface " ++ toString major.toNat ++ "." ++ toString minor.toNat)
    return .ok ()

/-- Checks the driver behind an open node and makes a device of it. -/
def attach (driver : Driver) (tree : Sysfs.FileTree) (contexts : Bool) (device : PciDevice) :
    Run (Except Failure Device) := do
  match ← driverVersion driver device.index with
  | none => return .error (.drm "drmGetVersion failed")
  | some (name, description) =>
    if name ≠ "amdgpu" then return .error (.drm ("unsupported driver " ++ name))
    authenticate driver device.index
    if !contexts then return .error (.libraryLoad "libdrm_amdgpu is not available")
    match ← openContext driver device.index with
    | .error failure => return .error failure
    | .ok () =>
      emit (.acquired .amdgpuLibrary)
      let sensors := Sysfs.Sensors.ofTree tree
      let address := String.ofList device.address.text
      if sensors.hwmon.isNone then
        log .debug .sysfs ("No hwmon directory under " ++ sysfsDirectory address)
      log .debug .amd ("Opened AMD GPU " ++ address ++ " (" ++ description ++ ")")
      emit (.acquired .drmLibrary)
      return .ok { index := device.index, description, sensors }

/-- Opens one device. Its node is closed again unless that succeeds. -/
def openDevice (driver : Driver) (tree : Sysfs.FileTree) (contexts : Bool) (device : PciDevice) :
    Run (Except Failure Device) := do
  if ← openNode device.index device.nodes then
    let close := emit (.released (.deviceNode device.index))
    let opened ← onFault (attach driver tree contexts device) close
    if let .error _ := opened then close
    return opened
  else
    return .error (.drm "no usable DRM node")

/-- A device with the address it was found at. -/
structure Found where
  address : List Char
  device : Device

def releaseAll (found : List Found) : Traced Unit :=
  found.forM fun f => f.device.release

/-- Goes through the devices of the list that are AMD's and opens the selected ones. -/
def openSelected (driver : Driver) (trees : String → Sysfs.FileTree) (contexts : Bool) :
    List PciDevice → DeviceMask → List Found → Run (List Found × DeviceMask)
  | [], mask, found => return (found, mask)
  | device :: devices, mask, found => do
    let address := String.ofList device.address.text
    if !mask.selected then
      log .debug .amd ("AMD GPU " ++ address ++ " excluded by device mask")
      openSelected driver trees contexts devices mask.rest found
    else
      let attempt := openDevice driver (trees address) contexts device
      match ← onFault attempt (releaseAll found) with
      | .ok opened =>
        let found := found ++ [{ address := device.address.text, device := opened }]
        openSelected driver trees contexts devices mask.rest found
      | .error failure =>
        log .debug .amd ("Skipping AMD GPU " ++ address ++ ": " ++ failure.message)
        openSelected driver trees contexts devices mask.rest found

namespace Vendor

def lastErrorText (vendor : Vendor) : String :=
  vendor.lastError.getD
    "An unanticipated error occurred while accessing AMDGPU information"

/-- Loads the libraries. Without the one for contexts the vendor works but opens no device. -/
def init (directory : LibraryDirectory) (vendor : Vendor) :
    Traced (Except Failure Unit × Vendor) := do
  match ← Library.load directory with
  | .error failure => return (.error failure, { vendor with lastError := some failure.message })
  | .ok library =>
    let contexts ←
      match ← loadContextLibrary directory with
      | .ok () =>
        if vendor.contexts then emit (.released .amdgpuLibrary)
        pure true
      | .error failure =>
        log .info .amd
          ("libdrm_amdgpu unavailable, AMD devices cannot be opened: " ++ failure.message)
        pure vendor.contexts
    if vendor.library.isSome then emit (.released .drmLibrary)
    return (.ok (), { library := some library, contexts, lastError := none })

def shutdown (vendor : Vendor) : Traced Vendor := do
  if vendor.library.isSome then emit (.released .drmLibrary)
  if vendor.contexts then emit (.released .amdgpuLibrary)
  return {
    library := none
    contexts := false
    lastError :=
      if vendor.library.isSome then some "AMD backend was not initialized" else vendor.lastError }

/-- Finds the devices. The mask that is left is for the devices of the next vendor. -/
def enumerate (driver : Driver) (trees : String → Sysfs.FileTree) (vendor : Vendor)
    (mask : DeviceMask) : Run (Except Failure (List Found) × DeviceMask × Vendor) := do
  match vendor.library with
  | none => return (.error (.vendorInit "libdrm is not loaded"), mask, vendor)
  | some library =>
    match ← library.pciDevices driver with
    | .error failure =>
      return (.error failure, mask, { vendor with lastError := some failure.message })
    | .ok devices =>
      let own := devices.filter fun d => d.vendorId = vendorId
      let (found, mask) ← openSelected driver trees vendor.contexts own mask []
      return (.ok found, mask, vendor)

end Vendor

end GpuTelemetry.Amd
