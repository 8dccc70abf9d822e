import GpuTelemetry.Metric

/-!
# Device metrics

`StaticInfo` holds what is asked once per device and `DynamicInfo` what is asked
anew in every cycle.
-/

namespace GpuTelemetry

structure StaticInfo where
  deviceName : Metric String := none
  maxPcieGeneration : Metric UInt32 := none
  maxPcieWidth : Metric UInt32 := none
  /-- Degrees Celsius. -/
  shutdownTemperature : Metric UInt32 := none
  slowdownTemperature : Metric UInt32 := none
  deriving DecidableEq

structure DynamicInfo where
  /-- Megahertz. -/
  gpuClock : Metric UInt32 := none
  gpuClockMax : Metric UInt32 := none
  memoryClock : Metric UInt32 := none
  memoryClockMax : Metric UInt32 := none
  /-- Percent. -/
  gpuUtilization : Metric UInt32 := none
  memoryUtilization : Metric UInt32 := none
  encoderUtilization : Metric UInt32 := none
  decoderUtilization : Metric UInt32 := none
  /-- Bytes. -/
  totalMemory : Metric UInt64 := none
  usedMemory : Metric UInt64 := none
  freeMemory : Metric UInt64 := none
  pcieGeneration : Metric UInt32 := none
  pcieWidth : Metric UInt32 := none
  /-- Bytes during the last second of sampling. -/
  pcieReceived : Metric UInt64 := none
  pcieSent : Metric UInt64 := none
  /-- Percent of the largest fan speed. -/
  fanSpeed : Metric UInt32 := none
  /-- Degrees Celsius. -/
  temperature : Metric UInt32 := none
  /-- Milliwatts. -/
  powerDraw : Metric UInt32 := none
  powerLimit : Metric UInt32 := none
  deriving DecidableEq

end GpuTelemetry
