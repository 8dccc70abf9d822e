import GpuTelemetry.Device.Info
import GpuTelemetry.Device.Mask
import GpuTelemetry.Failure
import GpuTelemetry.Process.Record

/-!
# Simulated vendors

A vendor whose behaviour is given: whether its initialization and its enumeration
fail, which devices it has, and what each of them answers.
-/

namespace GpuTelemetry.Simulated

structure DeviceBehaviour where
  failsToOpen : Bool := false
  staticInfo : StaticInfo := {}
  dynamicInfo : DynamicInfo := {}
  processes : List GpuProcess := []
  /-- The address for which the device reads fdinfo texts, if it does. -/
  address : Option (List Char) := none

structure Behaviour where
  initFailure : Option String := none
  enumerationFailure : Option String := none
  devices : List DeviceBehaviour := []

structure Vendor where
  name : String
  /-- The number of its behaviour among all that are given. -/
  station : Nat

structure Device where
  station : Nat
  index : Nat

/-- A device with the address for which it reads fdinfo texts. -/
structure Found where
  address : Option (List Char)
  device : Device

def Behaviour.init (behaviour : Behaviour) : Except Failure Unit :=
  match behaviour.initFailure with
  | some detail => .error (.libraryLoad detail)
  | none => .ok ()

def Behaviour.lastErrorText (behaviour : Behaviour) : String :=
  (behaviour.initFailure.or behaviour.enumerationFailure).getD "no error"

/-- Opens the selected ones of some devices, the first of which has the number `index`. -/
def openSelected (station : Nat) : Nat → List DeviceBehaviour → DeviceMask → List Found × DeviceMask
  | _, [], mask => ([], mask)
  | index, behaviour :: rest, mask =>
    let (found, left) := openSelected station (index + 1) rest mask.rest
    if mask.selected && !behaviour.failsToOpen then
      ({ address := behaviour.address, device := { station, index } } :: found, left)
    else (found, left)

def Vendor.enumerate (behaviour : Behaviour) (vendor : Vendor) (mask : DeviceMask) :
    Except Failure (List Found) × DeviceMask :=
  match behaviour.enumerationFailure with
  | some detail => (.error (.drm detail), mask)
  | none =>
    let (found, left) := openSelected vendor.station 0 behaviour.devices mask
    (.ok found, left)

end GpuTelemetry.Simulated
