import GpuTelemetry.Json.Printer
import GpuTelemetry.Snapshot.Basic

/-!
# Snapshots as JSON

The JSON form of a snapshot: an absent metric is null, and the members of every
record have a fixed order.
-/

namespace GpuTelemetry

namespace Json

def ofWord? {α : Type} [Word α] (metric : Metric α) : Json :=
  match metric with
  | some a => ofNat (Word.toNat a)
  | none => null

def ofText? (metric : Metric String) : Json :=
  match metric with
  | some text => ofText text
  | none => null

end Json

open Json

def ProcessKind.name : ProcessKind → String
  | graphical => "Graphical"
  | compute => "Compute"

def StaticInfo.toJson (info : StaticInfo) : Json :=
  ofMembers
    [("device_name", ofText? info.deviceName),
      ("max_pcie_gen", ofWord? info.maxPcieGeneration),
      ("max_pcie_link_width", ofWord? info.maxPcieWidth),
      ("temperature_shutdown_threshold", ofWord? info.shutdownTemperature),
      ("temperature_slowdown_threshold", ofWord? info.slowdownTemperature)]

def DynamicInfo.toJson (info : DynamicInfo) : Json :=
  ofMembers
    [("gpu_clock_speed", ofWord? info.gpuClock),
      ("gpu_clock_speed_max", ofWord? info.gpuClockMax),
      ("mem_clock_speed", ofWord? info.memoryClock),
      ("mem_clock_speed_max", ofWord? info.memoryClockMax),
      ("gpu_util_rate", ofWord? info.gpuUtilization),
      ("mem_util_rate", ofWord? info.memoryUtilization),
      ("encoder_rate", ofWord? info.encoderUtilization),
      ("decoder_rate", ofWord? info.decoderUtilization),
      ("total_memory", ofWord? info.totalMemory),
      ("used_memory", ofWord? info.usedMemory),
      ("free_memory", ofWord? info.freeMemory),
      ("pcie_link_gen", ofWord? info.pcieGeneration),
      ("pcie_link_width", ofWord? info.pcieWidth),
      ("pcie_rx", ofWord? info.pcieReceived),
      ("pcie_tx", ofWord? info.pcieSent),
      ("fan_speed", ofWord? info.fanSpeed),
      ("gpu_temp", ofWord? info.temperature),
      ("power_draw", ofWord? info.powerDraw),
      ("power_draw_max", ofWord? info.powerLimit)]

def GpuProcess.toJson (process : GpuProcess) : Json :=
  ofMembers
    [("pid", ofNat process.pid.toNat),
      ("process_type", ofText process.kind.name),
      ("gpu_memory_usage", ofWord? process.memory),
      ("gpu_memory_percentage", ofWord? process.memoryShare),
      ("gpu_usage", ofWord? process.gpuUsage),
      ("encode_usage", ofWord? process.encodeUsage),
      ("decode_usage", ofWord? process.decodeUsage),
      ("gfx_engine_used", ofWord? process.engines.gfx),
      ("compute_engine_used", ofWord? process.engines.compute),
      ("enc_engine_used", ofWord? process.engines.encode),
      ("dec_engine_used", ofWord? process.engines.decode),
      ("cpu_usage", ofWord? process.cpuUsage),
      ("cpu_memory_res", ofWord? process.residentMemory),
      ("cpu_memory_virt", ofWord? process.virtualMemory),
      ("cmdline", ofText? process.commandLine),
      ("user_name", ofText? process.userName)]

def DeviceSnapshot.toJson (device : DeviceSnapshot) : Json :=
  ofMembers
    [("vendor", ofText device.vendor),
      ("static_info", device.staticInfo.toJson),
      ("dynamic_info", device.dynamicInfo.toJson),
      ("processes", .array (device.processes.map GpuProcess.toJson))]

namespace Snapshot

def toJson (snapshot : Snapshot) : Json :=
  ofMembers
    [("timestamp", ofInt snapshot.timestamp.toInt),
      ("devices", .array (snapshot.devices.map DeviceSnapshot.toJson))]

/-- The text of a snapshot, on one line or with one member per line. -/
def render (pretty : Bool) (snapshot : Snapshot) : String :=
  String.ofList (snapshot.toJson.print (if pretty then indented else compact) 0)

end Snapshot

end GpuTelemetry
