import GpuTelemetry.Fdinfo.BusyRate
import GpuTelemetry.Fdinfo.Entry
import GpuTelemetry.Generations

/-!
# Reading fdinfo texts for one device

A reader belongs to the device at one address. It turns a text about that device
into usage figures of a process, and remembers the engine counters of every
client for one more cycle, since a busy rate needs two readings.
-/

namespace GpuTelemetry

/-- The counters of a client and the time at which they were read. -/
structure ClientReading where
  counters : EngineCounters
  time : Nat
  deriving DecidableEq

structure FdinfoReader where
  /-- The address of the device, `dddd:bb:dd.f`. -/
  address : List Char
  clients : Generations ClientKey ClientReading := {}

namespace Fdinfo

/-- A record with what the entries of a text have added to it so far. -/
structure Progress where
  process : GpuProcess
  client : Option UInt64 := none

namespace Progress

def recordTime (process : GpuProcess) (engine : Engine) (time : UInt64) : GpuProcess :=
  match engine with
  | .gfx => { process with engines := { process.engines with gfx := some time } }
  | .compute =>
    { process with
      kind := .compute
      engines := { process.engines with compute := some time } }
  | .encode => { process with engines := { process.engines with encode := some time } }
  | .decode => { process with engines := { process.engines with decode := some time } }

/-- Percentages of one engine add up. -/
def recordPercent (process : GpuProcess) (engine : Engine) (percent : UInt32) : GpuProcess :=
  match engine with
  | .gfx => { process with gpuUsage := process.gpuUsage.addSaturating percent }
  | .compute =>
    { process with kind := .compute, gpuUsage := process.gpuUsage.addSaturating percent }
  | .encode => { process with encodeUsage := process.encodeUsage.addSaturating percent }
  | .decode => { process with decodeUsage := process.decodeUsage.addSaturating percent }

def add (progress : Progress) : Entry → Progress
  | .address _ => progress
  | .client id => { progress with client := some id }
  | .memory bytes =>
    { progress with process := { progress.process with memory := some bytes } }
  | .engineTime engine time =>
    { progress with process := recordTime progress.process engine time }
  | .enginePercent engine percent =>
    { progress with process := recordPercent progress.process engine percent }

/-- Adds entries up to the first one that names another address, and says whether there was none. -/
def addAll (address : List Char) : Progress → List Entry → Progress × Bool
  | progress, [] => (progress, true)
  | progress, .address value :: rest =>
    if value = address then addAll address progress rest else (progress, false)
  | progress, entry :: rest => addAll address (progress.add entry) rest

end Progress

end Fdinfo

namespace FdinfoReader

/-- What reading one text leaves behind. -/
structure Outcome where
  reader : FdinfoReader
  process : GpuProcess
  /-- Whether the text is about this device. -/
  accepted : Bool

/-- Sets the rates of a client against its last reading and remembers the new one. -/
def track (reader : FdinfoReader) (process : GpuProcess) (id : UInt64) (now : Nat) :
    Except Fault (FdinfoReader × GpuProcess) :=
  let key : ClientKey := { clientId := id, pid := process.pid }
  let (last, clients) := reader.clients.takePrevious key
  let process :=
    match last with
    | some last => process.withRates last.counters (now - last.time)
    | none => process
  if (Generations.find? key clients.current).isSome then .error (.clientReadTwice key)
  else
    let reading := { counters := process.engines, time := now }
    .ok ({ reader with clients := clients.insert key reading }, process)

def read (reader : FdinfoReader) (text : List Char) (process : GpuProcess) (now : Nat) :
    Except Fault Outcome :=
  match Fdinfo.Progress.addAll reader.address { process } (Fdinfo.entries text) with
  | (progress, false) => .ok { reader, process := progress.process, accepted := false }
  | (progress, true) =>
    match progress.client with
    | none => .ok { reader, process := progress.process, accepted := true }
    | some id =>
      (reader.track progress.process id now).map fun (reader, process) =>
        { reader, process, accepted := true }

/-- Ends a cycle: clients that were not seen in it are forgotten. -/
def rotate (reader : FdinfoReader) : FdinfoReader :=
  { reader with clients := reader.clients.rotate }

/-- The number of clients whose counters are remembered. -/
def trackedClients (reader : FdinfoReader) : Nat :=
  reader.clients.size

end FdinfoReader

end GpuTelemetry
