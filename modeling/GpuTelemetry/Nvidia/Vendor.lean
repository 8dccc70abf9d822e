import GpuTelemetry.Device.Info
import GpuTelemetry.Device.Mask
import GpuTelemetry.Failure
import GpuTelemetry.Nvml.Driver
import GpuTelemetry.Trace

/-!
# The NVIDIA vendor

Devices are known by their number and are asked for anew with every query. The
processes of a device come from its two lists, and their usage from the samples
taken since the last time it was asked.
-/

namespace GpuTelemetry.Nvidia

open Nvml Platform

/-- The loaded library. -/
structure Library where
  directory : LibraryDirectory
  file : SharedLibrary
  /-- How often the library was loaded before. -/
  load : Nat

structure Vendor where
  library : Option Library := none
  /-- How often the library has been loaded. -/
  loads : Nat := 0
  lastError : Option String := some "NVIDIA backend was not initialized"

structure Device where
  library : Library
  index : Nat
  /-- The latest time stamp of a sample seen so far. -/
  lastSample : UInt64 := 0

namespace Library

def query {α : Type} (library : Library) (function : String) (answer : Answer α) :
    Except Nvml.Failure α :=
  Nvml.query library.directory library.file function answer

/-- What the vendor and each of its devices hold. -/
def resource (library : Library) : Resource :=
  .nvmlLibrary library.load
    (match library.directory.symbol library.file "nvmlShutdown" with
    | .ok () => none
    | .error reason => some reason)

/-- Asks for the device with a number. One that is not listed supports no query. -/
def device (library : Library) (driver : Driver) (index : Nat) :
    Except Nvml.Failure ListedDevice := do
  let listed := driver.devices[index]?.getD {}
  library.query "nvmlDeviceGetHandleByIndex_v2" listed.handle
  return listed

end Library

namespace Device

/-- The answer to a query, if it succeeds. -/
def ask? {α : Type} (device : Device) (function : String) (answer : Answer α) : Option α :=
  (device.library.query function answer).toOption

def staticInfo (driver : Driver) (device : Device) : StaticInfo :=
  match device.library.device driver device.index with
  | .error _ => {}
  | .ok listed =>
    { deviceName := (device.ask? "nvmlDeviceGetName" listed.name).bind nameText?
      maxPcieGeneration :=
        device.ask? "nvmlDeviceGetMaxPcieLinkGeneration" listed.maxPcieGeneration
      maxPcieWidth := device.ask? "nvmlDeviceGetMaxPcieLinkWidth" listed.maxPcieWidth
      slowdownTemperature :=
        device.ask? "nvmlDeviceGetTemperatureThreshold" listed.slowdownTemperature
      shutdownTemperature :=
        device.ask? "nvmlDeviceGetTemperatureThreshold" listed.shutdownTemperature }

def bytesOf (kilobytes : UInt32) : UInt64 :=
  UInt64.ofNat (kilobytes.toNat * 1024)

def dynamicInfo (driver : Driver) (device : Device) : DynamicInfo :=
  match device.library.device driver device.index with
  | .error _ => {}
  | .ok listed =>
    let utilization := device.ask? "nvmlDeviceGetUtilizationRates" listed.utilization
    let memory := device.ask? "nvmlDeviceGetMemoryInfo_v2" listed.memory
    { gpuClock := device.ask? "nvmlDeviceGetClockInfo" listed.graphicsClock
      gpuClockMax := device.ask? "nvmlDeviceGetMaxClockInfo" listed.maxGraphicsClock
      memoryClock := device.ask? "nvmlDeviceGetClockInfo" listed.memoryClock
      memoryClockMax := device.ask? "nvmlDeviceGetMaxClockInfo" listed.maxMemoryClock
      gpuUtilization := utilization.map Prod.fst
      memoryUtilization := utilization.map Prod.snd
      encoderUtilization := device.ask? "nvmlDeviceGetEncoderUtilization" listed.encoder
      decoderUtilization := device.ask? "nvmlDeviceGetDecoderUtilization" listed.decoder
      totalMemory := memory.map MemoryAnswer.total
      usedMemory := memory.map MemoryAnswer.used
      freeMemory := memory.map MemoryAnswer.free
      pcieGeneration := device.ask? "nvmlDeviceGetCurrPcieLinkGeneration" listed.pcieGeneration
      pcieWidth := device.ask? "nvmlDeviceGetCurrPcieLinkWidth" listed.pcieWidth
      pcieReceived := (device.ask? "nvmlDeviceGetPcieThroughput" listed.pcieReceived).map bytesOf
      pcieSent := (device.ask? "nvmlDeviceGetPcieThroughput" listed.pcieSent).map bytesOf
      fanSpeed := device.ask? "nvmlDeviceGetFanSpeed_v2" listed.fan
      temperature := device.ask? "nvmlDeviceGetTemperature" listed.temperature
      powerDraw := device.ask? "nvmlDeviceGetPowerUsage" listed.power
      powerLimit := device.ask? "nvmlDeviceGetEnforcedPowerLimit" listed.powerLimit }

end Device

/-- Appends the processes of a list that are not yet there. -/
def addProcesses (kind : ProcessKind) (processes : List GpuProcess)
    (running : List RunningProcess) : List GpuProcess :=
  running.foldl
    (fun found r =>
      if found.any fun p => p.pid = r.pid then found
      else found ++ [{ pid := r.pid, kind, memory := r.memory? }])
    processes

/-- Sets the usage of the process that a sample is about. -/
def applySample (processes : List GpuProcess) (sample : UtilizationSample) : List GpuProcess :=
  match processes with
  | [] => []
  | process :: rest =>
    if process.pid = sample.pid then
      { process with
        gpuUsage := some (min sample.sm 100)
        encodeUsage := some (min sample.encode 100)
        decodeUsage := some (min sample.decode 100) } :: rest
    else process :: applySample rest sample

/-- Asks for the processes of the device with a number. The library only gives samples that are newer
than the time stamp. -/
def Library.processes (library : Library) (driver : Driver) (index : Nat) :
    Except Nvml.Failure ProcessAnswers := do
  let listed ← library.device driver index
  return {
    compute :=
      library.query "nvmlDeviceGetComputeRunningProcesses_v3" listed.computeProcesses.fitting
    graphics :=
      library.query "nvmlDeviceGetGraphicsRunningProcesses_v3" listed.graphicsProcesses.fitting
    samplesSince := fun time =>
      library.query "nvmlDeviceGetProcessUtilization"
        (listed.samples.fitting.map fun samples => samples.filter fun s => time < s.timestamp) }

namespace Device

/-- The samples since the last one seen. -/
def newSamples (device : Device) (answers : ProcessAnswers) :
    Except Nvml.Failure (List UtilizationSample) :=
  answers.samplesSince device.lastSample

/-- The latest time stamp of some samples, or `start` if none is later. -/
def latest (start : UInt64) (samples : List UtilizationSample) : UInt64 :=
  samples.foldl (fun t s => max t s.timestamp) start

/-- Adds the processes that the library tells of to a list, with their usage. -/
def addAnswered (device : Device) (answers : Except Nvml.Failure ProcessAnswers)
    (processes : List GpuProcess) : List GpuProcess × Device :=
  match answers with
  | .error _ => (processes, device)
  | .ok answers =>
    let processes := addProcesses .compute processes (answers.compute.toOption.getD [])
    let processes := addProcesses .graphical processes (answers.graphics.toOption.getD [])
    match device.newSamples answers with
    | .error _ => (processes, device)
    | .ok samples =>
      (samples.foldl applySample processes,
        { device with lastSample := latest device.lastSample samples })

/-- Adds the processes running on the device to a list. -/
def runningProcesses (driver : Driver) (device : Device) (processes : List GpuProcess) :
    List GpuProcess × Device :=
  device.addAnswered (device.library.processes driver device.index) processes

end Device

/-- Asks for the selected ones of the devices with the numbers from `index` on. -/
def openSelected (library : Library) (driver : Driver) :
    Nat → Nat → DeviceMask → Traced (List Device × DeviceMask)
  | 0, _, mask => return ([], mask)
  | count + 1, index, mask => do
    if !mask.selected then
      log .debug .nvidia ("NVIDIA GPU " ++ toString index ++ " excluded by device mask")
      openSelected library driver count (index + 1) mask.rest
    else
      match library.device driver index with
      | .ok _ =>
        emit (.acquired library.resource)
        let (devices, mask) ← openSelected library driver count (index + 1) mask.rest
        return ({ library, index } :: devices, mask)
      | .error failure =>
        log .debug .nvidia ("Skipping NVIDIA GPU " ++ toString index ++ ": " ++ failure.message)
        openSelected library driver count (index + 1) mask.rest

/-- Gives a device up. -/
def Device.release (device : Device) : Run Unit :=
  giveBack device.library.resource

namespace Vendor

def lastErrorText (vendor : Vendor) : String :=
  vendor.lastError.getD "An unanticipated error occurred while accessing NVML"

def load (directory : LibraryDirectory) (driver : Driver) (vendor : Vendor) :
    Except Nvml.Failure Library := do
  let file ← (directory.load libraryName).mapError Nvml.Failure.library
  let status : Answer Unit := if driver.initStatus = 0 then .ok () else .error driver.initStatus
  Nvml.query directory file "nvmlInit_v2" status
  return { directory, file, load := vendor.loads }

/-- Gives back the library if it is loaded. -/
def giveBackLibrary (vendor : Vendor) : Run Unit :=
  match vendor.library with
  | some library => giveBack library.resource
  | none => return

def init (directory : LibraryDirectory) (driver : Driver) (vendor : Vendor) :
    Run (Except Failure Unit × Vendor) := do
  match load directory driver vendor with
  | .error failure =>
    return (.error (.nvml failure), { vendor with lastError := some failure.message })
  | .ok library =>
    emit (.acquired library.resource)
    vendor.giveBackLibrary
    return (.ok (), { library := some library, loads := vendor.loads + 1, lastError := none })

def shutdown (vendor : Vendor) : Run Vendor := do
  vendor.giveBackLibrary
  if vendor.library.isSome then
    return { vendor with
      library := none
      lastError := some "NVIDIA backend was not initialized" }
  else
    return vendor

def enumerate (driver : Driver) (vendor : Vendor) (mask : DeviceMask) :
    Traced (Except Failure (List Device) × DeviceMask × Vendor) := do
  match vendor.library with
  | none => return (.error (.vendorInit "NVML is not loaded"), mask, vendor)
  | some library =>
    match library.query "nvmlDeviceGetCount_v2" driver.count with
    | .error failure =>
      return (.error (.nvml failure), mask, { vendor with lastError := some failure.message })
    | .ok count =>
      let (devices, mask) ← openSelected library driver count.toNat 0 mask
      return (.ok devices, mask, vendor)

end Vendor

end GpuTelemetry.Nvidia
