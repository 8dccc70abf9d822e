import GpuTelemetry.Numeral.Hexadecimal
import GpuTelemetry.Numeral.Integer
import GpuTelemetry.Platform.Errno
import GpuTelemetry.Text.Utf8

/-!
# The graphics driver

Everything that the libraries of the graphics driver answer: which devices they
list, what each device says about itself, and the status of every call. `Call`
names the calls that can be observed from the libraries.
-/

namespace GpuTelemetry.Drm

open Numeral

/-- A string of the library: its bytes end at the first zero. -/
abbrev Bytes := List UInt8

/-- The text of a string, with U+FFFD for what is not UTF-8. -/
def textOf (bytes : Bytes) : String :=
  String.ofList (Text.Utf8.decodeLossy (bytes.takeWhile (· ≠ 0)))

structure PciAddress where
  domain : UInt16
  bus : UInt8
  device : UInt8
  function : UInt8
  deriving DecidableEq

/-- The address as the kernel writes it, `dddd:bb:dd.f`. -/
def PciAddress.text (address : PciAddress) : List Char :=
  writeHex 4 address.domain.toNat ++ ':' :: writeHex 2 address.bus.toNat
    ++ ':' :: writeHex 2 address.device.toNat ++ '.' :: write address.function.toNat

/-- A device node. Its path may be null, and opening it may fail. -/
structure DeviceNode where
  path : Option String
  opens : Bool
  /-- The error number of opening it where that fails. -/
  refusal : Int := Platform.noEntry
  deriving DecidableEq

/-- What the kernel driver behind a node says it is. -/
structure DriverVersion where
  name : Option Bytes
  description : Option Bytes

structure GpuInfo where
  family : UInt32
  /-- Kilohertz. -/
  maxEngineClock : UInt64
  maxMemoryClock : UInt64

/-- Sizes of the device memory in bytes. -/
structure MemoryInfo where
  total : UInt64
  usable : UInt64
  used : UInt64

/-- Sensor values; an absent one makes its query fail. -/
structure SensorValues where
  engineClock : Option UInt32 := none
  memoryClock : Option UInt32 := none
  /-- Millidegrees Celsius. -/
  temperature : Option UInt32 := none
  load : Option UInt32 := none
  /-- Watts. -/
  power : Option UInt32 := none

structure ListedDevice where
  /-- Whether the list holds a null pointer in its place. -/
  isNull : Bool := false
  busType : Int32 := 0
  address : Option PciAddress
  /-- Vendor and device number. -/
  ids : Option (UInt16 × UInt16)
  renderNode : Option DeviceNode
  primaryNode : Option DeviceNode
  version : Option DriverVersion
  initStatus : Int32 := 0
  /-- Whether a successful initialization gives a null handle. -/
  nullHandle : Bool := false
  /-- Major and minor number of the interface that an initialization reports. -/
  interface : UInt32 × UInt32 := (3, 57)
  marketingName : Option Bytes := none
  gpuInfo : Option GpuInfo := none
  memory : Option MemoryInfo := none
  sensors : SensorValues := {}

structure Driver where
  /-- The devices in the order of the list. -/
  devices : List ListedDevice := []
  /-- What listing answers when it is asked for the number of devices. -/
  count : Int32
  /-- What it answers when it fills a list, if that is not the number of devices stored. -/
  filled : Option Int32 := none
  magic : UInt32 := 1
  getMagicStatus : Int32 := 0
  authMagicStatus : Int32 := 0
  dropMasterStatus : Int32 := 0

namespace Driver

def device? (driver : Driver) (index : Nat) : Option ListedDevice :=
  driver.devices[index]?

end Driver

inductive Call
  /-- Listing devices into a list with room for `capacity` of them. -/
  | listDevices (modern : Bool) (capacity : Int32)
  | freeDevices (count : Int32)
  | getVersion (device : Nat)
  | freeVersion
  | getMagic (device : Nat)
  | authMagic (magic : UInt32)
  | dropMaster (device : Nat)
  | beginContext (device : Nat)
  | endContext (device : Nat)
  deriving DecidableEq

namespace Call

def text : Call → String
  | listDevices true capacity => "drmGetDevices2 " ++ toString capacity.toInt
  | listDevices false capacity => "drmGetDevices " ++ toString capacity.toInt
  | freeDevices count => "drmFreeDevices " ++ toString count.toInt
  | getVersion device => "drmGetVersion " ++ toString device
  | freeVersion => "drmFreeVersion"
  | getMagic device => "drmGetMagic " ++ toString device
  | authMagic magic => "drmAuthMagic " ++ toString magic.toNat
  | dropMaster device => "drmDropMaster " ++ toString device
  | beginContext device => "amdgpu_device_initialize " ++ toString device
  | endContext device => "amdgpu_device_deinitialize " ++ toString device

end Call

end GpuTelemetry.Drm
