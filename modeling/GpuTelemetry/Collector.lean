import GpuTelemetry.Device.Backfill
import GpuTelemetry.Procfs.Sweep
import GpuTelemetry.Snapshot.Basic
import GpuTelemetry.Vendor.Registry

/-!
# The collector

The collector owns the registry, the devices and the process cache, and runs the
polling cycle over them: dynamic metrics first, then the processes of every
device, then the rates that follow from the processes.
-/

namespace GpuTelemetry

structure Settings where
  mask : DeviceMask := DeviceMask.all
  collectProcesses : Bool := true
  procRoot : String := "/proc"

structure Collector where
  settings : Settings
  registry : Registry
  devices : List GpuDevice
  cache : ProcessCache := {}

/-- Fills the processes of each device in turn and describes them. -/
def refreshDeviceProcesses (host : Host) :
    ProcessCache → List GpuDevice → List GpuDevice × ProcessCache
  | cache, [] => ([], cache)
  | cache, device :: devices =>
    let device := device.refreshProcesses host
    let total := device.dynamicInfo.totalMemory
    let (processes, cache) := cache.populate host.processes total device.processes
    let (devices, cache) := refreshDeviceProcesses host cache devices
    ({ device with processes } :: devices, cache)

/-- Reports the questions that a cache has put since there were `count` of them. -/
def emitQuestions (cache : ProcessCache) (count : Nat) : Traced Unit :=
  (cache.asked.drop count).forM fun q => emit (.asked q)

/-- Ends the cycle of a process cache and logs how many processes it forgets. -/
def endProcessCycle (cache : ProcessCache) : Traced ProcessCache := do
  if 0 < cache.evicted then
    log .trace .processCache
      ("Evicting " ++ toString cache.evicted ++ " exited process(es) from the cache")
  return cache.endCycle

namespace Collector

/-- Finds the devices of every vendor of a registry. -/
def start (host : Host) (settings : Settings) (registry : Registry) : Run Collector := do
  let (registry, devices) ← registry.start host settings.mask
  return { settings, registry, devices }

def populateStatic (host : Host) (collector : Collector) : Collector :=
  { collector with devices := collector.devices.map (Device.populateStatic host) }

def refreshDynamic (host : Host) (collector : Collector) : Except Fault Collector :=
  (collector.devices.mapM (Device.refreshDynamic host)).map fun devices =>
    { collector with devices }

/-- Walks procfs, logging where that is not possible. -/
def sweep (host : Host) (root : Procfs.Root) (devices : List GpuDevice) : Run (List GpuDevice) := do
  if devices.any fun device => device.fdinfo.isSome then
    if let .error reason := root.listing then
      log .debug .sweep ("Cannot read " ++ root.path ++ ": " ++ reason)
  Procfs.sweep host.sameOpenFile root devices

/-- Rebuilds the process lists of all devices. -/
def refreshProcesses (host : Host) (collector : Collector) : Run Collector := do
  let devices := collector.devices.map Device.clearProcesses
  if !collector.settings.collectProcesses then return { collector with devices }
  let root := host.procfs collector.settings.procRoot
  let devices ← sweep host root devices
  let (devices, cache) := refreshDeviceProcesses host collector.cache devices
  emitQuestions cache collector.cache.asked.length
  let cache ← endProcessCycle cache
  return { collector with devices, cache }

def backfill (collector : Collector) : Collector :=
  { collector with devices := collector.devices.map Device.backfill }

/-- Runs one polling cycle. -/
def refresh (host : Host) (collector : Collector) : Run Collector := do
  let collector ← collector.refreshDynamic host
  let collector ← collector.refreshProcesses host
  return collector.backfill

def snapshot (timestamp : Int64) (collector : Collector) : Snapshot :=
  { timestamp
    devices := collector.devices.map fun device =>
      { vendor := collector.registry.vendorName device.vendor
        staticInfo := device.staticInfo
        dynamicInfo := device.dynamicInfo
        processes := device.processes } }

def vendorErrors (host : Host) (collector : Collector) : List (String × String) :=
  collector.registry.lastErrors host

/-- Gives up the devices and shuts down the vendors. There are no devices left after that. -/
def shutdown (collector : Collector) : Run Collector := do
  let registry ← collector.registry.shutdown collector.devices
  return { collector with registry, devices := [], cache := collector.cache.clear }

end Collector

end GpuTelemetry
