import GpuTelemetry.Device.Info
import GpuTelemetry.Fdinfo.Reader

/-!
# Devices

The handle of one discovered device: the vendor it came from, the metrics last
read, the processes found on it, the reader of fdinfo texts where the kernel
driver reports usage that way, and the backend that answers its queries.
-/

namespace GpuTelemetry

structure Device (β : Type) where
  /-- The number of the vendor in its registry. -/
  vendor : Nat
  staticInfo : StaticInfo := {}
  dynamicInfo : DynamicInfo := {}
  processes : List GpuProcess := []
  fdinfo : Option FdinfoReader := none
  backend : β

namespace Device

variable {β : Type}

def rotateFdinfo (device : Device β) : Device β :=
  { device with fdinfo := device.fdinfo.map FdinfoReader.rotate }

def clearProcesses (device : Device β) : Device β :=
  { device with processes := [] }

/-- Reads a text into a record, and says whether the text is about this device. -/
def readFdinfo (device : Device β) (text : List Char) (process : GpuProcess) (now : Nat) :
    Except Fault (Device β × GpuProcess × Bool) :=
  match device.fdinfo with
  | none => .ok (device, process, false)
  | some reader => do
    let outcome ← reader.read text process now
    return ({ device with fdinfo := some outcome.reader }, outcome.process, outcome.accepted)

/-- Offers a text about process `pid` to the devices until one of them accepts it. That device gets
the record, and the answer says whether there was one. -/
def dispatch (pid : UInt32) (text : List Char) (now : Nat) :
    List (Device β) → Except Fault (List (Device β) × Bool)
  | [] => .ok ([], false)
  | device :: devices => do
    let (device, process, accepted) ← device.readFdinfo text { pid } now
    if accepted then
      let processes ← process.merge device.processes
      return ({ device with processes } :: devices, true)
    else
      let (devices, claimed) ← dispatch pid text now devices
      return (device :: devices, claimed)

end Device

end GpuTelemetry
