import GpuTelemetry.Metric

/-!
# Process records

What is known about one process that uses one device during one cycle. A process
may hold several descriptors of a device, and `accumulate` adds the usage that
another descriptor reports to the record.
-/

namespace GpuTelemetry

inductive ProcessKind
  | graphical
  | compute
  deriving DecidableEq

/-- Cumulative busy time of each engine in nanoseconds. -/
structure EngineCounters where
  gfx : Metric UInt64 := none
  compute : Metric UInt64 := none
  encode : Metric UInt64 := none
  decode : Metric UInt64 := none
  deriving DecidableEq

structure GpuProcess where
  pid : UInt32
  kind : ProcessKind := .graphical
  /-- Bytes of device memory. -/
  memory : Metric UInt64 := none
  /-- Percent of the memory of the device. -/
  memoryShare : Metric UInt32 := none
  /-- Percent of the graphics and compute engines. -/
  gpuUsage : Metric UInt32 := none
  encodeUsage : Metric UInt32 := none
  decodeUsage : Metric UInt32 := none
  engines : EngineCounters := {}
  cpuUsage : Metric UInt32 := none
  /-- Bytes of main memory. -/
  residentMemory : Metric UInt64 := none
  virtualMemory : Metric UInt64 := none
  commandLine : Metric String := none
  userName : Metric String := none
  deriving DecidableEq

namespace EngineCounters

def accumulate (target other : EngineCounters) : Except Fault EngineCounters := do
  let gfx ← target.gfx.add other.gfx
  let compute ← target.compute.add other.compute
  let encode ← target.encode.add other.encode
  let decode ← target.decode.add other.decode
  return { gfx, compute, encode, decode }

end EngineCounters

namespace GpuProcess

/-- Adds the memory, usage and engine time of `other`, and takes over its kind. -/
def accumulate (target other : GpuProcess) : Except Fault GpuProcess := do
  let memory ← target.memory.add other.memory
  let gpuUsage ← target.gpuUsage.add other.gpuUsage
  let encodeUsage ← target.encodeUsage.add other.encodeUsage
  let decodeUsage ← target.decodeUsage.add other.decodeUsage
  let engines ← target.engines.accumulate other.engines
  return { target with kind := other.kind, memory, gpuUsage, encodeUsage, decodeUsage, engines }

/-- Joins a record to a process list. The descriptors of a process are visited one after the other,
so only the last entry can belong to the same process. -/
def merge (record : GpuProcess) : List GpuProcess → Except Fault (List GpuProcess)
  | [] => .ok [record]
  | [last] =>
    if last.pid = record.pid then (last.accumulate record).map fun sum => [sum]
    else .ok [last, record]
  | first :: second :: rest => (merge record (second :: rest)).map (first :: ·)

end GpuProcess

end GpuTelemetry
