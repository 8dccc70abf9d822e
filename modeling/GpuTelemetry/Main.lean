import GpuTelemetry.Command.Monitor
import GpuTelemetry.Numeral.Word

/-!
# The program

Runs the command on a system where no library of a vendor can be loaded, writes
what it prints, and ends with its exit code.
-/

namespace GpuTelemetry

def directoryExists (path : String) : IO Bool := do
  try
    let _ ← IO.FS.realPath (path ++ "/.")
    return true
  catch _ => return false

/-- A system without libraries, where `root` is the directory given for procfs. -/
def bareHost (root : String) (isDirectory : Bool) : Host where
  libraries := { path := "" }
  drm := { count := 0 }
  nvml := { count := .error Nvml.notSupported }
  procfs path := { path, isDirectory := path = root && isDirectory }

/-- Writes one event of a run. -/
def writeEvent (filter : Log.Filter) (event : Event) : IO Unit :=
  match event with
  | .printed text => IO.println text
  | .complained text => IO.eprintln text
  | .log line => do if filter.admits line then IO.eprint line.render
  | _ => return

def runProgram (arguments : List String) : IO UInt32 := do
  let root :=
    match Command.Request.ofArguments arguments with
    | .ok (.monitor options) => options.procRoot
    | _ => "/proc"
  let host := bareHost root (← directoryExists root)
  let setting ← IO.getEnv "RUST_LOG"
  let reading := (setting.map Log.Reading.ofText).getD { filter := Log.Filter.standard }
  let around : Command.Surroundings :=
    { host := fun _ => host, logComplaints := reading.complaints }
  let run := Command.run around Registry.standard arguments Command.wordLimit
  let (exit, trace) := run.run []
  trace.forM (writeEvent reading.filter)
  return UInt32.ofNat exit.code

end GpuTelemetry

def main (arguments : List String) : IO UInt32 :=
  GpuTelemetry.runProgram arguments
