import GpuTelemetry.Generations
import GpuTelemetry.Process.CpuUsage
import GpuTelemetry.Process.Record

/-!
# The process cache

Names of processes are asked for once and kept as long as the process turns up
in every cycle. Processor usage is a rate, so the cache also keeps the last
sample of processor time, and a process that shows up on several devices is
sampled once per cycle.
-/

namespace GpuTelemetry

/-- One reading of what a process has consumed. -/
structure CpuSample where
  /-- Nanoseconds since the process started. -/
  cpuTime : Nat
  residentMemory : UInt64
  virtualMemory : UInt64
  /-- The monotonic time of the reading in nanoseconds. -/
  time : Nat

inductive ProcessQuestion
  | commandLine (pid : UInt32)
  | userName (pid : UInt32)
  | cpuSample (pid : UInt32)
  deriving DecidableEq

/-- What the operating system says about processes. The first argument of each answer is the number
of questions put before, so that the same question may have another answer later. -/
structure ProcessSource where
  commandLine : Nat → UInt32 → Option String
  userName : Nat → UInt32 → Option String
  cpuSample : Nat → UInt32 → Option CpuSample

def ProcessSource.empty : ProcessSource where
  commandLine _ _ := none
  userName _ _ := none
  cpuSample _ _ := none

/-- The figures of one cycle. -/
structure CpuReading where
  usage : Option UInt32
  residentMemory : UInt64
  virtualMemory : UInt64

structure CachedProcess where
  commandLine : Option String
  userName : Option String
  /-- Processor time and time of the last sample. -/
  lastSample : Option (Nat × Nat) := none
  /-- The reading of the running cycle. -/
  reading : Option CpuReading := none

structure ProcessCache where
  entries : Generations UInt32 CachedProcess := {}
  /-- All questions put so far. -/
  asked : List ProcessQuestion := []

/-- The usage between two samples, given as processor time and time. -/
def cpuUsage (last sample : Nat × Nat) : Option UInt32 :=
  if sample.2 ≤ last.2 then none
  else some (cpuPercent (sample.1 - last.1) (sample.2 - last.2))

namespace CachedProcess

/-- Takes a sample into account. -/
def sampled (entry : CachedProcess) (sample : CpuSample) : CachedProcess :=
  let stamp := (sample.cpuTime, sample.time)
  { entry with
    lastSample := some stamp
    reading := some
      { usage := entry.lastSample.bind fun last => cpuUsage last stamp
        residentMemory := sample.residentMemory
        virtualMemory := sample.virtualMemory } }

end CachedProcess

namespace ProcessCache

def ask (cache : ProcessCache) (question : ProcessQuestion) : ProcessCache :=
  { cache with asked := cache.asked ++ [question] }

/-- The entry of a process and the cache without asking for its sample. An entry of the cycle
before moves on to the running one, unless that has an entry already. -/
def resolve (source : ProcessSource) (cache : ProcessCache) (pid : UInt32) :
    CachedProcess × ProcessCache :=
  let (old, entries) := cache.entries.takePrevious pid
  match Generations.find? pid entries.current, old with
  | some entry, _ => (entry, { cache with entries })
  | none, some entry => (entry, { cache with entries := entries.insert pid entry })
  | none, none =>
    let commandLine := source.commandLine cache.asked.length pid
    let cache := cache.ask (.commandLine pid)
    let userName := source.userName cache.asked.length pid
    let cache := cache.ask (.userName pid)
    let entry : CachedProcess := { commandLine, userName }
    (entry, { cache with entries := entries.insert pid entry })

/-- The entry with its reading of the running cycle, asking for a sample if there is none yet. -/
def measure (source : ProcessSource) (cache : ProcessCache) (pid : UInt32)
    (entry : CachedProcess) : CachedProcess × ProcessCache :=
  match entry.reading with
  | some _ => (entry, cache)
  | none =>
    let entry :=
      match source.cpuSample cache.asked.length pid with
      | some sample => entry.sampled sample
      | none => { entry with lastSample := none }
    let cache := cache.ask (.cpuSample pid)
    (entry, { cache with entries := cache.entries.insert pid entry })

end ProcessCache

/-- Fills the fields of a record that an entry knows. -/
def GpuProcess.describe (process : GpuProcess) (entry : CachedProcess) : GpuProcess :=
  { process with
    commandLine := entry.commandLine.or process.commandLine
    userName := entry.userName.or process.userName
    cpuUsage := (entry.reading.bind CpuReading.usage).or process.cpuUsage
    residentMemory := (entry.reading.map CpuReading.residentMemory).or process.residentMemory
    virtualMemory := (entry.reading.map CpuReading.virtualMemory).or process.virtualMemory }

/-- Fills the share of the device memory, where both amounts are known and there is any memory. -/
def GpuProcess.withMemoryShare (process : GpuProcess) (total : Option UInt64) : GpuProcess :=
  match total, process.memory with
  | some total, some used =>
    if total = 0 then process
    else { process with memoryShare := some (memoryPercent used total) }
  | _, _ => process

namespace ProcessCache

/-- Fills the fields of one record that the operating system knows. -/
def describe (source : ProcessSource) (total : Option UInt64) (cache : ProcessCache)
    (process : GpuProcess) : GpuProcess × ProcessCache :=
  let (entry, cache) := cache.resolve source process.pid
  let (entry, cache) := cache.measure source process.pid entry
  ((process.describe entry).withMemoryShare total, cache)

/-- Fills the records of one device, whose memory is `total` if it reports that. -/
def populate (source : ProcessSource) (total : Option UInt64) :
    ProcessCache → List GpuProcess → List GpuProcess × ProcessCache
  | cache, [] => ([], cache)
  | cache, process :: rest =>
    let (process, cache) := cache.describe source total process
    let (rest, cache) := populate source total cache rest
    (process :: rest, cache)

/-- Forgets the processes that were not seen in this cycle and starts the next one. -/
def endCycle (cache : ProcessCache) : ProcessCache :=
  let entries := cache.entries.rotate
  { cache with
    entries :=
      { entries with
        previous := entries.previous.map fun (k, e) => (k, { e with reading := none }) } }

/-- The number of processes that the end of this cycle would forget. -/
def evicted (cache : ProcessCache) : Nat :=
  cache.entries.previous.length

def clear (cache : ProcessCache) : ProcessCache :=
  { cache with entries := {} }

def contains (cache : ProcessCache) (pid : UInt32) : Bool :=
  cache.entries.contains pid

def size (cache : ProcessCache) : Nat :=
  cache.entries.size

end ProcessCache

end GpuTelemetry
