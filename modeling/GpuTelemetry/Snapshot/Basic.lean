import GpuTelemetry.Device.Info
import GpuTelemetry.Process.Record

/-!
# Snapshots

Everything gathered during one polling cycle.
-/

namespace GpuTelemetry

structure DeviceSnapshot where
  vendor : String
  staticInfo : StaticInfo
  dynamicInfo : DynamicInfo
  processes : List GpuProcess
  deriving DecidableEq

structure Snapshot where
  /-- Seconds since 1970. -/
  timestamp : Int64
  devices : List DeviceSnapshot
  deriving DecidableEq

end GpuTelemetry
