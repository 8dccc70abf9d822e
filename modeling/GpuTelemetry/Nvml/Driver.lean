import GpuTelemetry.Nvml.Status
import GpuTelemetry.Platform.SharedLibrary
import GpuTelemetry.Text.Utf8

/-!
# The NVML library

What NVML answers about each device. A query needs its function in the library
and a status of success; one that a device does not support fails with the code
for that.
-/

namespace GpuTelemetry.Nvml

open Platform

/-- The answer to a query, or the code it fails with. -/
abbrev Answer (α : Type) := Except UInt32 α

/-- The code of a query that a device does not support. -/
def notSupported : UInt32 := 3

/-- The code of a list that does not fit, which the reader of lists takes for an empty one. -/
def insufficientSize : UInt32 := 7

structure MemoryAnswer where
  total : UInt64
  free : UInt64
  used : UInt64

/-- The amount of memory that stands for an unknown one. -/
def unknownMemory : UInt64 := 0xFFFFFFFFFFFFFFFF

/-- A process in one of the lists. -/
structure RunningProcess where
  pid : UInt32
  memory : UInt64

def RunningProcess.memory? (process : RunningProcess) : Option UInt64 :=
  if process.memory = unknownMemory then none else some process.memory

structure UtilizationSample where
  pid : UInt32
  timestamp : UInt64
  sm : UInt32
  encode : UInt32
  decode : UInt32

structure ListedDevice where
  handle : Answer Unit := .ok ()
  name : Answer (List UInt8) := .error notSupported
  maxPcieGeneration : Answer UInt32 := .error notSupported
  maxPcieWidth : Answer UInt32 := .error notSupported
  slowdownTemperature : Answer UInt32 := .error notSupported
  shutdownTemperature : Answer UInt32 := .error notSupported
  graphicsClock : Answer UInt32 := .error notSupported
  memoryClock : Answer UInt32 := .error notSupported
  maxGraphicsClock : Answer UInt32 := .error notSupported
  maxMemoryClock : Answer UInt32 := .error notSupported
  /-- Utilization of the processor and of the memory. -/
  utilization : Answer (UInt32 × UInt32) := .error notSupported
  encoder : Answer UInt32 := .error notSupported
  decoder : Answer UInt32 := .error notSupported
  memory : Answer MemoryAnswer := .error notSupported
  pcieGeneration : Answer UInt32 := .error notSupported
  pcieWidth : Answer UInt32 := .error notSupported
  /-- Kilobytes per second. -/
  pcieReceived : Answer UInt32 := .error notSupported
  pcieSent : Answer UInt32 := .error notSupported
  fan : Answer UInt32 := .error notSupported
  temperature : Answer UInt32 := .error notSupported
  power : Answer UInt32 := .error notSupported
  powerLimit : Answer UInt32 := .error notSupported
  computeProcesses : Answer (List RunningProcess) := .error notSupported
  graphicsProcesses : Answer (List RunningProcess) := .error notSupported
  samples : Answer (List UtilizationSample) := .error notSupported

structure Driver where
  /-- The status of initialization. -/
  initStatus : UInt32 := 0
  count : Answer UInt32
  devices : List ListedDevice := []

def libraryName : String := "libnvidia-ml.so.1"

/-- Runs a query through the function of that name. -/
def query {α : Type} (directory : LibraryDirectory) (library : SharedLibrary) (function : String)
    (answer : Answer α) : Except Failure α :=
  match directory.symbol library function with
  | .error text => .error (.function text)
  | .ok () => answer.mapError Failure.status

/-- A list, where one that does not fit counts as empty. -/
def Answer.fitting {α : Type} (answer : Answer (List α)) : Answer (List α) :=
  match answer with
  | .error code => if code = insufficientSize then .ok [] else .error code
  | .ok list => .ok list

/-- What the library says about the processes that run on a device. -/
structure ProcessAnswers where
  compute : Except Failure (List RunningProcess)
  graphics : Except Failure (List RunningProcess)
  /-- The samples of usage, by the time stamp since which they are asked for. -/
  samplesSince : UInt64 → Except Failure (List UtilizationSample)

/-- The number of bytes that a device name can have. -/
def nameLimit : Nat := 95

/-- The text of a device name: it is cut to its longest length, and ends at the first zero. -/
def nameText? (bytes : List UInt8) : Option String :=
  (Text.Utf8.decode? ((bytes.take nameLimit).takeWhile (· ≠ 0))).map String.ofList

end GpuTelemetry.Nvml
