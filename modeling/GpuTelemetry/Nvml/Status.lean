/-!
# NVML errors

A call of NVML fails when the library or the function is missing, or with a
status code.
-/

namespace GpuTelemetry.Nvml

inductive Failure
  | library (detail : String)
  | function (detail : String)
  | status (code : UInt32)
  deriving DecidableEq

def statusText (code : UInt32) : String :=
  match code with
  | 1 => "NVML was not first initialized with \u0060Nvml::init()\u0060"
  | 2 => "a supplied argument was invalid"
  | 3 => "the requested operation is not available on the target device"
  | 4 => "the current user does not have permission to perform this operation"
  | 5 => "NVML was already initialized"
  | 6 => "a query to find an object was unsuccessful"
  | 7 => "an input argument is not large enough"
  | 8 => "device's external power cables are not properly attached"
  | 9 => "NVIDIA driver is not loaded"
  | 10 => "the provided timeout was reached"
  | 11 => "NVIDIA kernel detected an interrupt issue with a device"
  | 12 => "a shared library couldn't be found or loaded"
  | 13 => "a function couldn't be found in a shared library"
  | 14 => "the infoROM is corrupted"
  | 15 => "device fell off the bus or has otherwise become inacessible"
  | 16 => "device requires a reset before it can be used again"
  | 17 => "device control has been blocked by the operating system/cgroups"
  | 18 => "RM detects a driver/library version mismatch"
  | 19 => "operation cannot be performed because the GPU is currently in use"
  | 20 => "insufficient memory"
  | 21 => "no data"
  | 22 => "the requested vgpu operation is not available on the target device because ECC is enabled"
  | 999 => "an internal driver error occured"
  | code => "unexpected enum variant value: " ++ toString code.toNat

def Failure.message : Failure → String
  | library detail => "a libloading error occurred: " ++ detail
  | function detail => "function symbol failed to load: " ++ detail
  | status code => statusText code

end GpuTelemetry.Nvml
