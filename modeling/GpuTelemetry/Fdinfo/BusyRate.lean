import GpuTelemetry.Process.Record

/-!
# Busy rates

The busy percentage of an engine follows from two readings of its cumulative
counter and the time between them, rounded to the nearest percent with halves
going up. There is none when the counter went backwards or ran ahead of the time.
-/

namespace GpuTelemetry

def busyPercent (previous current : UInt64) (elapsed : Nat) : Option UInt32 :=
  let delta := current.toNat - previous.toNat
  if current < previous then none
  else if elapsed = 0 ∨ elapsed < delta then none
  else some (UInt32.ofNat ((delta * 100 + elapsed / 2) / elapsed))

/-- The rate of an engine whose counter was present both times. -/
def busyRate (previous current : Metric UInt64) (elapsed : Nat) : Option UInt32 := do
  busyPercent (← previous) (← current) elapsed

/-- The rates of a client since its last reading, put in place of what the record says. Graphics
and compute share one usage, and the compute rate goes first. -/
def GpuProcess.withRates (process : GpuProcess) (last : EngineCounters) (elapsed : Nat) :
    GpuProcess :=
  let gfx := busyRate last.gfx process.engines.gfx elapsed
  let compute := busyRate last.compute process.engines.compute elapsed
  let decode := busyRate last.decode process.engines.decode elapsed
  let encode := busyRate last.encode process.engines.encode elapsed
  { process with
    gpuUsage := (compute.or gfx).or process.gpuUsage
    decodeUsage := decode.or process.decodeUsage
    encodeUsage := encode.or process.encodeUsage }

end GpuTelemetry
