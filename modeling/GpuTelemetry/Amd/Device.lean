import GpuTelemetry.Amd.Family
import GpuTelemetry.Drm.Driver
import GpuTelemetry.Sysfs.Sensors
import GpuTelemetry.Trace

/-!
# AMD devices

An opened device answers its queries through the driver context and the sensor
files. Giving it up ends the context while the library that made it is loaded
and the device node is open.
-/

namespace GpuTelemetry.Amd

open Drm

structure Device where
  /-- The place of the device in the list of the driver. -/
  index : Nat
  description : String
  sensors : Sysfs.Sensors

def megahertz (kilohertz : UInt64) : UInt32 :=
  UInt32.ofNat (kilohertz.toNat / 1000)

/-- Memory that is not in use, as far as the sizes make sense. -/
def freeMemory (memory : MemoryInfo) : UInt64 :=
  UInt64.ofNat (memory.usable.toNat - memory.used.toNat)

/-- Percent of the memory that is not free. The product by 100 has to stay within 64 bits. -/
def memoryUtilization (memory : MemoryInfo) : Except Fault (Option UInt32) :=
  if memory.total = 0 then .ok none
  else
    let used := memory.total.toNat - (freeMemory memory).toNat
    if used * 100 < UInt64.size then .ok (some (UInt32.ofNat (used * 100 / memory.total.toNat)))
    else .error .multiplicationOverflow

namespace Device

/-- The marketing name, or else the name of the driver with the suffix of the family. -/
def name? (driver : Driver) (device : Device) : Option String :=
  let marketing := do
    let name ← (← driver.device? device.index).marketingName
    return textOf name
  match marketing.filter fun n => !n.isEmpty with
  | some name => some name
  | none =>
    if device.description.isEmpty then none
    else
      let suffix := do
        let info ← (← driver.device? device.index).gpuInfo
        familySuffix info.family
      some (device.description ++ suffix.getD "")

/-- The static metrics, and the device with the sensor files opened for later. -/
def staticInfo (driver : Driver) (tree : Sysfs.FileTree) (device : Device) :
    StaticInfo × Device :=
  let info := device.sensors.staticInfo tree { deviceName := device.name? driver }
  (info, { device with sensors := device.sensors.openFiles tree })

/-- The dynamic metrics. How far the sensor files were read is not kept: every reading starts over. -/
def dynamicInfo (driver : Driver) (tree : Sysfs.FileTree) (device : Device) :
    Except Fault DynamicInfo := do
  let listed := driver.device? device.index
  let sensors := (listed.map ListedDevice.sensors).getD {}
  let info := listed.bind ListedDevice.gpuInfo
  let memory := listed.bind ListedDevice.memory
  let memoryUtilization ←
    match memory with
    | some m => memoryUtilization m
    | none => .ok none
  let queried : DynamicInfo :=
    { gpuClock := sensors.engineClock
      memoryClock := sensors.memoryClock
      gpuClockMax := info.map fun i => megahertz i.maxEngineClock
      memoryClockMax := info.map fun i => megahertz i.maxMemoryClock
      gpuUtilization := sensors.load
      totalMemory := memory.map MemoryInfo.total
      usedMemory := memory.map MemoryInfo.used
      freeMemory := memory.map Amd.freeMemory
      memoryUtilization
      temperature := sensors.temperature.map (· / 1000)
      powerDraw := sensors.power.map fun p => Word.saturatingMul p 1000 }
  return device.sensors.dynamicInfo tree queried

/-- Gives the device up. -/
def release (device : Device) : Traced Unit := do
  call (.endContext device.index)
  emit (.released .amdgpuLibrary)
  emit (.released (.deviceNode device.index))
  emit (.released .drmLibrary)

end Device

end GpuTelemetry.Amd
