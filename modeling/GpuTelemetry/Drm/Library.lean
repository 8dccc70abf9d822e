import GpuTelemetry.Drm.Status
import GpuTelemetry.Failure
import GpuTelemetry.Platform.SharedLibrary
import GpuTelemetry.Trace

/-!
# The loaded libraries of the graphics driver

Loading a library resolves every symbol that is needed or fails. Listing asks
for the number of devices first and for the devices then, and gives the list
back once the devices are copied out of it.
-/

namespace GpuTelemetry.Drm

open Platform

/-- The driver library, with either the present or the former function for listing devices. -/
structure Library where
  modernListing : Bool
  deriving DecidableEq

/-- Loads the first of some names, logging the one that was found. -/
def loadFirst (directory : LibraryDirectory) :
    Failure → List String → Traced (Except Failure SharedLibrary)
  | failure, [] => return .error failure
  | _, name :: names => do
    match directory.load name with
    | .ok library =>
      log .debug .drmLibrary ("Loaded " ++ name)
      return .ok library
    | .error text => loadFirst directory (.libraryLoad text) names

/-- Looks up one symbol, logging why that fails. -/
def resolve (directory : LibraryDirectory) (library : SharedLibrary) (label name : String) :
    Traced (Except Failure Unit) := do
  match directory.symbol library name with
  | .ok () => return .ok ()
  | .error text =>
    log .debug .drmLibrary (label ++ ": " ++ text)
    return .error (.missingSymbol label name)

/-- Looks up several symbols up to the first one that is missing. -/
def resolveAll (directory : LibraryDirectory) (library : SharedLibrary) (label : String) :
    List String → Traced (Except Failure Unit)
  | [] => return .ok ()
  | name :: names => do
    match ← resolve directory library label name with
    | .ok () => resolveAll directory library label names
    | .error failure => return .error failure

def libraryNames : List String := ["libdrm.so", "libdrm.so.2", "libdrm.so.1"]

def librarySymbols : List String :=
  ["drmFreeDevices", "drmGetVersion", "drmFreeVersion", "drmGetMagic", "drmAuthMagic",
    "drmDropMaster"]

def contextLibraryNames : List String := ["libdrm_amdgpu.so", "libdrm_amdgpu.so.1"]

def contextLibrarySymbols : List String :=
  ["amdgpu_device_initialize", "amdgpu_device_deinitialize", "amdgpu_get_marketing_name",
    "amdgpu_query_gpu_info", "amdgpu_query_info", "amdgpu_query_sensor_info"]

/-- Looks for the function that lists devices, the present one first. -/
def resolveListing (directory : LibraryDirectory) (library : SharedLibrary) :
    Traced (Except Failure Bool) := do
  match ← resolve directory library "libdrm" "drmGetDevices2" with
  | .ok () => return .ok true
  | .error _ =>
    match ← resolve directory library "libdrm" "drmGetDevices" with
    | .ok () => return .ok false
    | .error failure => return .error failure

def Library.load (directory : LibraryDirectory) : Traced (Except Failure Library) := do
  match ← loadFirst directory (.libraryLoad "libdrm not found") libraryNames with
  | .error failure => return .error failure
  | .ok library =>
    emit (.acquired .drmLibrary)
    match ← resolveListing directory library with
    | .error failure =>
      emit (.released .drmLibrary)
      return .error failure
    | .ok modernListing =>
      match ← resolveAll directory library "libdrm" librarySymbols with
      | .error failure =>
        emit (.released .drmLibrary)
        return .error failure
      | .ok () => return .ok { modernListing }

def loadContextLibrary (directory : LibraryDirectory) : Traced (Except Failure Unit) := do
  match ← loadFirst directory (.libraryLoad "libdrm_amdgpu not found") contextLibraryNames with
  | .error failure => return .error failure
  | .ok library =>
    emit (.acquired .amdgpuLibrary)
    match ← resolveAll directory library "libdrm_amdgpu" contextLibrarySymbols with
    | .error failure =>
      emit (.released .amdgpuLibrary)
      return .error failure
    | .ok () => return .ok ()

/-- A PCI device that was listed. -/
structure PciDevice where
  /-- Its place in the list, by which the driver knows it. -/
  index : Nat
  address : PciAddress
  vendorId : UInt16
  /-- The paths of its nodes, the one to prefer first. -/
  nodes : List DeviceNode

/-- The number of the bus type of PCI. -/
def pciBus : Int32 := 0

/-- A listed device, unless it is a null pointer, on another bus, or lacks an address or numbers. -/
def ListedDevice.pci? (index : Nat) (device : ListedDevice) : Option PciDevice := do
  if !device.isNull && device.busType = pciBus then
    let address ← device.address
    let (vendorId, _) ← device.ids
    let nodes := device.renderNode.toList ++ device.primaryNode.toList
    some { index, address, vendorId, nodes }
  else none

/-- The devices that a list with room for `capacity` of them holds after the library filled it. -/
def Driver.stored (driver : Driver) (capacity : Nat) : List ListedDevice :=
  driver.devices.take capacity

/-- The count that filling such a list answers. -/
def Driver.filledCount (driver : Driver) (capacity : Nat) : Int32 :=
  driver.filled.getD (Int32.ofNat (driver.stored capacity).length)

namespace Library

def pciDevices (library : Library) (driver : Driver) : Run (Except Failure (List PciDevice)) := do
  let modern := library.modernListing
  call (.listDevices modern 0)
  let count := driver.count
  if count < 0 then
    return .error (.drm (← statusText count))
  else if count = 0 then
    return .ok []
  else
    call (.listDevices modern count)
    let capacity := count.toInt.toNat
    let filled := driver.filledCount capacity
    if filled < 0 then
      return .error (.drm (← statusText filled))
    else
      let slots := (driver.stored capacity).take filled.toInt.toNat
      call (.freeDevices filled)
      return .ok (slots.zipIdx.filterMap fun (device, index) => ListedDevice.pci? index device)

end Library

end GpuTelemetry.Drm
