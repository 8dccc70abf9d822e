import GpuTelemetry.Drm.Driver
import GpuTelemetry.Fault
import GpuTelemetry.Process.Cache

/-!
# Traces

Everything that a run does to the outside, in order: the lines it logs and
prints, the calls into the libraries of the graphics driver, the resources it
takes and gives back, the calls to each vendor, and the questions it puts about
processes. `Run` is a computation that extends a trace and may end in a fault;
the trace up to the fault is kept.
-/

namespace GpuTelemetry

inductive LogLevel
  | error
  | warn
  | info
  | debug
  | trace
  deriving DecidableEq

/-- The part of the program that a log line comes from. -/
inductive LogSource
  | registry
  | processCache
  | sweep
  | drmLibrary
  | sysfs
  | amd
  | nvidia
  | command
  deriving DecidableEq

structure LogLine where
  level : LogLevel
  source : LogSource
  text : String
  deriving DecidableEq

/-- A resource that is held more than once is given back as often. -/
inductive Resource
  | drmLibrary
  | amdgpuLibrary
  /-- The NVML library, by how often it was loaded before, and why it cannot be shut down, unless
  it can. -/
  | nvmlLibrary (load : Nat) (obstacle : Option String)
  /-- The open device node of a listed device. -/
  | deviceNode (device : Nat)
  deriving DecidableEq

/-- Gives up a resource that is no longer held. -/
def Resource.close : Resource → Except Fault Unit
  | nvmlLibrary _ (some reason) => .error (.shutdownMissing reason)
  | _ => .ok ()

inductive VendorCall
  | init
  | enumerate
  | shutdown
  deriving DecidableEq

inductive Event
  | log (line : LogLine)
  /-- A line of standard output. -/
  | printed (text : String)
  /-- A line of the error output that is no log line. -/
  | complained (text : String)
  | drm (call : Drm.Call)
  | acquired (resource : Resource)
  | released (resource : Resource)
  | vendor (index : Nat) (call : VendorCall)
  /-- A device of the vendor with this number is given up. -/
  | deviceReleased (vendor : Nat)
  | asked (question : ProcessQuestion)
  deriving DecidableEq

abbrev Traced := StateM (List Event)

abbrev Run := ExceptT Fault Traced

def emit (event : Event) : Traced Unit :=
  modify fun trace => trace ++ [event]

def log (level : LogLevel) (source : LogSource) (text : String) : Traced Unit :=
  emit (.log { level, source, text })

def call (call : Drm.Call) : Traced Unit :=
  emit (.drm call)

def held (trace : List Event) (resource : Resource) : Nat :=
  trace.count (.acquired resource) - trace.count (.released resource)

/-- Gives back a resource, which is closed when it was held for the last time. -/
def giveBack (resource : Resource) : Run Unit := do
  emit (.released resource)
  let trace ← get
  if held trace resource = 0 then resource.close

/-- Closes all resources that are still held. -/
def closeAll (trace : List Event) : Except Fault Unit :=
  trace.forM fun event =>
    match event with
    | .acquired resource => if held trace resource = 0 then .ok () else resource.close
    | _ => .ok ()

/-- Runs `body`, and `cleanup` before passing on a fault. A fault of the cleanup is not passed
on. -/
def onFault {α : Type} (body : Run α) (cleanup : Run Unit) : Run α :=
  tryCatch body fun fault => do
    tryCatch cleanup fun _ => return
    throw fault

/-- The result of a computation that starts with an empty trace, and the trace. -/
def Run.start {α : Type} (run : Run α) : Except Fault α × List Event :=
  run.run.run []

end GpuTelemetry
