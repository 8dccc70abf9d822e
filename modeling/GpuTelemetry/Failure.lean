import GpuTelemetry.Nvml.Status

/-!
# Failures

What can keep a vendor, or the whole program, from working. Each failure is
reported by its kind and a detail.
-/

namespace GpuTelemetry

inductive Failure
  | libraryLoad (detail : String)
  | missingSymbol (library symbol : String)
  | drm (detail : String)
  | noDevices (detail : String)
  | vendorInit (detail : String)
  | nvml (failure : Nvml.Failure)
  | config (detail : String)
  deriving DecidableEq

def Failure.message : Failure → String
  | libraryLoad detail => "Failed to load library: " ++ detail
  | missingSymbol library symbol => "Missing symbol " ++ symbol ++ " in " ++ library
  | drm detail => "DRM error: " ++ detail
  | noDevices detail => "No devices found: " ++ detail
  | vendorInit detail => "Vendor initialization failed: " ++ detail
  | nvml failure => "NVML error: " ++ failure.message
  | config detail => "Configuration error: " ++ detail

end GpuTelemetry
