import GpuTelemetry.Device.Basic

/-!
# Device rates from processes

A device that does not report one of its three utilization rates gets it from
the processes found on it, as the sum of their usages cut off at 100 percent.
-/

namespace GpuTelemetry

/-- Adds one usage to a rate, never going beyond 100. -/
def addUsage (rate : Metric UInt32) (usage : UInt32) : Metric UInt32 :=
  some (min (Word.saturatingAdd (rate.getD 0) usage) 100)

/-- The rate if it is present, and else what the usages add up to. -/
def backfilledRate (rate : Metric UInt32) (usages : List (Metric UInt32)) : Metric UInt32 :=
  match rate with
  | some r => some r
  | none => (usages.filterMap id).foldl addUsage none

def Device.backfill {β : Type} (device : Device β) : Device β :=
  let info := device.dynamicInfo
  let processes := device.processes
  { device with
    dynamicInfo :=
      { info with
        gpuUtilization := backfilledRate info.gpuUtilization (processes.map GpuProcess.gpuUsage)
        encoderUtilization :=
          backfilledRate info.encoderUtilization (processes.map GpuProcess.encodeUsage)
        decoderUtilization :=
          backfilledRate info.decoderUtilization (processes.map GpuProcess.decodeUsage) } }

end GpuTelemetry
