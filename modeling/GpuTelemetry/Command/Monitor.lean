import GpuTelemetry.Command.Arguments
import GpuTelemetry.Command.Help
import GpuTelemetry.Log.Filter
import GpuTelemetry.Snapshot.Encoding
import GpuTelemetry.Text.Blank
import GpuTelemetry.Text.Split

/-!
# Monitoring

The command of the program: find the devices, then print one snapshot per cycle
until the asked number is reached or the stop flag is up. However it ends, the
devices are given up and the vendors shut down.
-/

namespace GpuTelemetry.Command

/-- How a run of the program ends. -/
inductive Exit
  | success
  | failure
  | usage
  | fault (fault : Fault)

def Exit.code : Exit → Nat
  | success => 0
  | failure => 1
  | usage => 2
  | fault _ => 101

/-- What keeps a snapshot from being printed as it should be, with the reason for it. -/
inductive Obstacle
  | encoding (reason : String)
  /-- The line is not written, or not in full. -/
  | writing (reason : String)
  /-- The line is written, but held back. -/
  | flushing (reason : String)
  deriving DecidableEq

namespace Obstacle

def reason : Obstacle → String
  | encoding reason => reason
  | writing reason => reason
  | flushing reason => reason

def message : Obstacle → String
  | encoding _ => "Failed to serialize snapshot"
  | writing _ => "Failed to write snapshot"
  | flushing _ => "Failed to write snapshot"

/-- Whether the line is written nevertheless. -/
def leavesLine : Obstacle → Bool
  | flushing _ => true
  | _ => false

end Obstacle

/-- Why the command fails. -/
inductive Error
  | failed (failure : Failure)
  /-- The stop flag could not be raised. -/
  | handler (reason : String)
  | unprinted (obstacle : Obstacle)
  deriving DecidableEq

/-- What is complained of, line by line. The reason for a failure comes after its message. -/
def Error.report : Error → List String
  | failed failure => ["Error: " ++ failure.message]
  | handler reason => ["Error: Failed to set Ctrl+C handler: " ++ reason]
  | unprinted obstacle =>
    ["Error: " ++ obstacle.message, "", "Caused by:"]
      ++ (Text.splitBy (· = '\n') obstacle.reason.toList).map fun line =>
        "    " ++ String.ofList line

/-- Everything around a run: the host and the time as they are in each cycle, the stop flag, and how
printing goes. -/
structure Surroundings where
  host : Nat → Host
  /-- Seconds since 1970. -/
  timestamp : Nat → Int64 := fun _ => 0
  /-- Whether the flag is up at a moment. -/
  stopped : Nat → Bool := fun _ => false
  /-- The moment of a look at the flag, given how many looks came before it. Without naps every
  second look is the one before a cycle. -/
  lookedAt : Nat → Nat := fun look => (look + 1) / 2
  /-- How often the wait after a cycle naps until the next cycle is due. -/
  naps : Nat → Nat := fun _ => 0
  /-- Why nothing can be set up that raises the flag, unless it can. -/
  handlerRefusal : Option String := none
  /-- What the snapshot of a cycle runs into as it is printed. -/
  obstacle : Nat → Option Obstacle := fun _ => none
  /-- What is wrong with the setting of the log filter. -/
  logComplaints : List String := []

namespace Surroundings

/-- Whether the flag is found up, given how many looks at it came before. -/
def isUp (around : Surroundings) (look : Nat) : Bool :=
  around.stopped (around.lookedAt look)

/-- Waits until the next cycle is due, looking at the flag before each nap and at the end. The wait
is over when the flag is found up. Gives the number of looks by then. -/
def wait (around : Surroundings) : Nat → Nat → Nat
  | 0, looks => looks + 1
  | naps + 1, looks => if around.isUp looks then looks + 1 else around.wait naps (looks + 1)

end Surroundings

/-- Prints a line as far as an obstacle lets it. -/
def deliver (line : String) : Option Obstacle → Traced (Except Error Unit)
  | none => do
    emit (.printed line)
    return .ok ()
  | some obstacle => do
    if obstacle.leavesLine then emit (.printed line)
    return .error (.unprinted obstacle)

/-- Shuts a collector down as it is dropped. -/
def release (collector : Collector) : Run Unit := do
  let _ ← collector.shutdown

/-- Runs a cycle and prints its snapshot, where `printed` of them came before. Gives the collector
and the number of snapshots now. A collector that is not given any more is released. -/
def runCycle (around : Surroundings) (options : Options) (printed : UInt64)
    (collector : Collector) : Run (Except Error (Collector × UInt64)) := do
  let cycle := printed.toNat
  let collector ← onFault (collector.refresh (around.host cycle)) (release collector)
  let snapshot := collector.snapshot (around.timestamp cycle)
  match ← deliver (snapshot.render options.pretty) (around.obstacle cycle) with
  | .error error =>
    release collector
    return .error error
  | .ok () =>
    let printed ← onFault (liftM (Metric.sum printed 1)) (release collector)
    return .ok (collector, printed)

/-- Prints snapshots and says whether that is over, where `printed` of them and `looks` at the flag
came before. At most `cycles` more cycles are run. -/
def poll (around : Surroundings) (options : Options) :
    Nat → UInt64 → Nat → Collector → Run (Except Error (Collector × Bool))
  | 0, _, _, collector => return .ok (collector, false)
  | cycles + 1, printed, looks, collector => do
    if around.isUp looks then return .ok (collector, true)
    let naps := around.naps printed.toNat
    match ← runCycle around options printed collector with
    | .error error => return .error error
    | .ok (collector, printed) =>
      if 0 < options.count && options.count ≤ printed.toNat then return .ok (collector, true)
      poll around options cycles printed (around.wait naps (looks + 1)) collector

/-- Shuts a collector down, and once more as it is dropped. -/
def finish (collector : Collector) : Run Unit := do
  let collector ← collector.shutdown
  release collector

/-- Reports why there are no devices. -/
def reportVendors (host : Host) (collector : Collector) : Traced Unit :=
  (collector.vendorErrors host).forM fun (name, error) =>
    emit (.complained (name ++ ": " ++ String.ofList (Text.trimEnd error.toList)))

/-- Polls the devices that were found for at most `cycles` cycles, and gives everything up. -/
def attend (around : Surroundings) (options : Options) (cycles : Nat) (collector : Collector) :
    Run (Except Error Unit) := do
  let host := around.host 0
  if collector.devices.isEmpty then
    reportVendors host collector
    finish collector
    return .error (.failed (.noDevices "no GPU to monitor was found"))
  log .info .command ("Monitoring " ++ toString collector.devices.length ++ " device(s)")
  match ← poll around options cycles 0 0 (collector.populateStatic host) with
  | .error error => return .error error
  | .ok (collector, _) =>
    finish collector
    return .ok ()

/-- Monitors the devices that the registry finds. -/
def monitor (around : Surroundings) (registry : Registry) (options : Options) (cycles : Nat) :
    Run (Except Error Unit) := do
  let host := around.host 0
  if options.collectProcesses && !(host.procfs options.procRoot).isDirectory then
    return .error (.failed (.config (options.procRoot ++ " is not a directory")))
  match around.handlerRefusal with
  | some reason => return .error (.handler reason)
  | none => attend around options cycles (← Collector.start host options.settings registry)

def run (around : Surroundings) (registry : Registry) (arguments : List String) (cycles : Nat) :
    Traced Exit := do
  match Request.ofArguments arguments with
  | .error error =>
    emit (.complained ("error: " ++ error.message))
    return .usage
  | .ok .version =>
    emit (.printed versionText)
    return .success
  | .ok (.help long) =>
    (if long then longHelp else shortHelp).forM fun line => emit (.printed line)
    return .success
  | .ok (.monitor options) =>
    around.logComplaints.forM fun text => emit (.complained text)
    match ← (monitor around registry options cycles).run with
    | .ok (.ok ()) => return .success
    | .ok (.error error) =>
      error.report.forM fun line => emit (.complained line)
      return .failure
    | .error fault =>
      emit (.complained ("panic: " ++ fault.message))
      return .fault fault

end GpuTelemetry.Command
