import GpuTelemetry.Numeral.Binary64

/-!
# Shares in percent

The processor usage of a process between two samples, and its share of the memory
of a device. Both are quotients in binary floating point, rounded to a whole
percentage.
-/

namespace GpuTelemetry

def nanosecondsPerSecond : Nat := 1000000000

/-- A duration in seconds: whole seconds and the rest are converted on their own. -/
def seconds (nanoseconds : Nat) : Binary64 :=
  (Binary64.ofNat (nanoseconds / nanosecondsPerSecond)).add
    ((Binary64.ofNat (nanoseconds % nanosecondsPerSecond)).div
      (Binary64.ofNat nanosecondsPerSecond))

/-- Percent of the time `wall` that the time `busy` makes. -/
def cpuPercent (busy wall : Nat) : UInt32 :=
  Word.saturate (((Binary64.ofNat 100).mul (seconds busy)).div (seconds wall)).round

/-- Percent of `total` bytes that `used` bytes make, at most 100. -/
def memoryPercent (used total : UInt64) : UInt32 :=
  let hundredfold := (Binary64.ofNat 100).mul (Binary64.ofNat used.toNat)
  let share := hundredfold.div (Binary64.ofNat total.toNat)
  UInt32.ofNat (min share.round 100)

end GpuTelemetry
