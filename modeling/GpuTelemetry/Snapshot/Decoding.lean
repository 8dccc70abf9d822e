import GpuTelemetry.Json.Reader
import GpuTelemetry.Snapshot.Encoding

/-!
# Snapshots from JSON

A record is read from an object, whose members may stand in any order and may
include unknown ones, or from the array of all its members in their order. A
member may not be given twice, and the members that are no metrics may not be
left out.
-/

namespace GpuTelemetry

/-- The values of the members of a record, in their order; `none` for one that is left out. -/
abbrev Members := List (Option Json)

namespace Json

def valuesOf (name : String) (members : List (Option (List Char) × Json)) : List Json :=
  members.filterMap fun (n, value) => if n = some name.toList then some value else none

/-- The one value of a member with a name, if it is given once, or that it is not given. -/
def member? (members : List (Option (List Char) × Json)) (name : String) : Option (Option Json) :=
  match valuesOf name members with
  | [] => some none
  | [value] => some (some value)
  | _ => none

/-- The members of a record with the given names. -/
def members? (names : List String) : Json → Option Members
  | object members =>
    if members.all fun m => m.1.isSome then names.mapM (member? members) else none
  | array items => if items.length = names.length then some (items.map some) else none
  | _ => none

def natBelow? (bound : Nat) : Json → Option Nat
  | integer false n => if n < bound then some n else none
  | _ => none

def word? {α : Type} [Word α] (value : Json) : Option α :=
  (natBelow? (Word.size α) value).map Word.ofNat

def int64? : Json → Option Int64
  | integer false n => if n < 1 <<< 63 then some (Int64.ofNat n) else none
  | integer true n => if 0 < n && n ≤ 1 <<< 63 then some (Int64.ofInt (-(n : Int))) else none
  | _ => none

def text? : Json → Option String
  | string (some text) => some (String.ofList text)
  | _ => none

/-- A metric: absent when it is null or left out. -/
def metric? {α : Type} (read : Json → Option α) : Option Json → Option (Metric α)
  | none => some none
  | some null => some none
  | some value => (read value).map some

def wordMetric? {α : Type} [Word α] : Option Json → Option (Metric α) :=
  metric? word?

def textMetric? : Option Json → Option (Metric String) :=
  metric? text?

def list? {α : Type} (read : Json → Option α) : Json → Option (List α)
  | array items => items.mapM read
  | _ => none

end Json

open Json

def ProcessKind.ofName? (name : String) : Option ProcessKind :=
  if name = "Graphical" then some .graphical
  else if name = "Compute" then some .compute
  else none

/-- A kind by its name, or as an object whose one member has that name and the value null. -/
def ProcessKind.ofJson? : Json → Option ProcessKind
  | .string (some name) => ofName? (String.ofList name)
  | .object [(some name, .null)] => ofName? (String.ofList name)
  | _ => none

def StaticInfo.memberNames : List String :=
  ["device_name", "max_pcie_gen", "max_pcie_link_width", "temperature_shutdown_threshold",
    "temperature_slowdown_threshold"]

def StaticInfo.ofJson? (value : Json) : Option StaticInfo := do
  match ← members? memberNames value with
  | [name, generation, width, shutdown, slowdown] =>
    return {
      deviceName := ← textMetric? name
      maxPcieGeneration := ← wordMetric? generation
      maxPcieWidth := ← wordMetric? width
      shutdownTemperature := ← wordMetric? shutdown
      slowdownTemperature := ← wordMetric? slowdown }
  | _ => none

def DynamicInfo.memberNames : List String :=
  ["gpu_clock_speed", "gpu_clock_speed_max", "mem_clock_speed", "mem_clock_speed_max",
    "gpu_util_rate", "mem_util_rate", "encoder_rate", "decoder_rate", "total_memory",
    "used_memory", "free_memory", "pcie_link_gen", "pcie_link_width", "pcie_rx", "pcie_tx",
    "fan_speed", "gpu_temp", "power_draw", "power_draw_max"]

def DynamicInfo.ofJson? (value : Json) : Option DynamicInfo := do
  match ← members? memberNames value with
  | [gpuClock, gpuClockMax, memoryClock, memoryClockMax, gpu, memory, encoder, decoder, total,
      used, free, generation, width, received, sent, fan, temperature, power, limit] =>
    return {
      gpuClock := ← wordMetric? gpuClock
      gpuClockMax := ← wordMetric? gpuClockMax
      memoryClock := ← wordMetric? memoryClock
      memoryClockMax := ← wordMetric? memoryClockMax
      gpuUtilization := ← wordMetric? gpu
      memoryUtilization := ← wordMetric? memory
      encoderUtilization := ← wordMetric? encoder
      decoderUtilization := ← wordMetric? decoder
      totalMemory := ← wordMetric? total
      usedMemory := ← wordMetric? used
      freeMemory := ← wordMetric? free
      pcieGeneration := ← wordMetric? generation
      pcieWidth := ← wordMetric? width
      pcieReceived := ← wordMetric? received
      pcieSent := ← wordMetric? sent
      fanSpeed := ← wordMetric? fan
      temperature := ← wordMetric? temperature
      powerDraw := ← wordMetric? power
      powerLimit := ← wordMetric? limit }
  | _ => none

def GpuProcess.memberNames : List String :=
  ["pid", "process_type", "gpu_memory_usage", "gpu_memory_percentage", "gpu_usage",
    "encode_usage", "decode_usage", "gfx_engine_used", "compute_engine_used", "enc_engine_used",
    "dec_engine_used", "cpu_usage", "cpu_memory_res", "cpu_memory_virt", "cmdline", "user_name"]

def GpuProcess.ofJson? (value : Json) : Option GpuProcess := do
  match ← members? memberNames value with
  | [some pid, some kind, memory, share, gpu, encode, decode, gfxTime, computeTime, encodeTime,
      decodeTime, cpu, resident, virtual, commandLine, userName] =>
    return {
      pid := ← word? pid
      kind := ← ProcessKind.ofJson? kind
      memory := ← wordMetric? memory
      memoryShare := ← wordMetric? share
      gpuUsage := ← wordMetric? gpu
      encodeUsage := ← wordMetric? encode
      decodeUsage := ← wordMetric? decode
      engines := {
        gfx := ← wordMetric? gfxTime
        compute := ← wordMetric? computeTime
        encode := ← wordMetric? encodeTime
        decode := ← wordMetric? decodeTime }
      cpuUsage := ← wordMetric? cpu
      residentMemory := ← wordMetric? resident
      virtualMemory := ← wordMetric? virtual
      commandLine := ← textMetric? commandLine
      userName := ← textMetric? userName }
  | _ => none

def DeviceSnapshot.memberNames : List String :=
  ["vendor", "static_info", "dynamic_info", "processes"]

def DeviceSnapshot.ofJson? (value : Json) : Option DeviceSnapshot := do
  match ← members? memberNames value with
  | [some vendor, some staticInfo, some dynamicInfo, some processes] =>
    return {
      vendor := ← text? vendor
      staticInfo := ← StaticInfo.ofJson? staticInfo
      dynamicInfo := ← DynamicInfo.ofJson? dynamicInfo
      processes := ← list? GpuProcess.ofJson? processes }
  | _ => none

namespace Snapshot

def memberNames : List String :=
  ["timestamp", "devices"]

def ofJson? (value : Json) : Option Snapshot := do
  match ← members? memberNames value with
  | [some timestamp, some devices] =>
    return {
      timestamp := ← int64? timestamp
      devices := ← list? DeviceSnapshot.ofJson? devices }
  | _ => none

/-- The snapshot that a JSON text stands for. -/
def read? (text : String) : Option Snapshot := do
  ofJson? (← Json.read? text.toList)

end Snapshot

end GpuTelemetry
