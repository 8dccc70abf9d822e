import GpuTelemetry.Device.Basic
import GpuTelemetry.Procfs.Tree

/-!
# The sweep

One walk of procfs per cycle feeds every device that reads fdinfo texts. Of the
descriptors of a process that are one open file only the first counts, because
duplicates share their client.
-/

namespace GpuTelemetry.Procfs

variable {β : Type}

/-- Whether a descriptor is looked into: it is a regular entry with a number and an open file of
the graphics driver. -/
def Descriptor.drmNumber? (descriptor : Descriptor) : Option Int := do
  let number ← descriptor.number?
  if descriptor.isRegular && descriptor.file.isDrm then some number else none

/-- Visits the descriptors of process `pid`, of which those in `seen` came before. -/
def sweepDescriptors (same : SameOpenFile) (pid : UInt32) :
    List Int → List Descriptor → List (Device β) → Except Fault (List (Device β))
  | _, [], devices => .ok devices
  | seen, descriptor :: rest, devices => do
    match descriptor.drmNumber? with
    | none => sweepDescriptors same pid seen rest devices
    | some number =>
      if seen.any fun other => same pid number other then
        sweepDescriptors same pid seen rest devices
      else
        match descriptor.text? with
        | none => sweepDescriptors same pid (seen ++ [number]) rest devices
        | some text =>
          let (devices, _) ← Device.dispatch pid text descriptor.readAt devices
          sweepDescriptors same pid (seen ++ [number]) rest devices

def sweepEntry (same : SameOpenFile) (entry : Entry) (devices : List (Device β)) :
    Except Fault (List (Device β)) :=
  match entry.pid?, entry.fdinfo with
  | some pid, some descriptors => sweepDescriptors same pid [] descriptors devices
  | _, _ => .ok devices

def sweepEntries (same : SameOpenFile) (entries : List Entry) (devices : List (Device β)) :
    Except Fault (List (Device β)) :=
  entries.foldlM (fun devices entry => sweepEntry same entry devices) devices

/-- Appends the processes found below a root to the process lists of the devices. -/
def sweep (same : SameOpenFile) (root : Root) (devices : List (Device β)) :
    Except Fault (List (Device β)) :=
  if devices.any fun device => device.fdinfo.isSome then
    match root.listing with
    | .ok entries => sweepEntries same entries devices
    | .error _ => .ok devices
  else .ok devices

end GpuTelemetry.Procfs
