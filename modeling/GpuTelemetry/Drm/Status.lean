import GpuTelemetry.Fault
import GpuTelemetry.Platform.Errno

/-!
# Status codes of the graphics driver

A call that fails answers a negative number: one of five codes of the library
itself, or an error number of the operating system with its sign changed. The
smallest status has no such counterpart, and changing its sign is a fault.
-/

namespace GpuTelemetry.Drm

def libraryStatusText? (status : Int32) : Option String :=
  if status = -1001 then some "no device"
  else if status = -1002 then some "no access"
  else if status = -1003 then some "not root"
  else if status = -1004 then some "invalid args"
  else if status = -1005 then some "no fd"
  else none

def statusText (status : Int32) : Except Fault String :=
  match libraryStatusText? status with
  | some text => .ok text
  | none =>
    if status = Int32.minValue then .error .negationOverflow
    else .ok (Platform.errorText (-status.toInt))

end GpuTelemetry.Drm
