/-!
# Device masks

A mask has one bit for each device that an enumeration meets, the lowest bit for
the first one. The sign bit never runs out, so a device beyond the 64th is
selected as the 64th is.
-/

namespace GpuTelemetry

structure DeviceMask where
  bits : BitVec 64
  deriving DecidableEq

namespace DeviceMask

def all : DeviceMask := ⟨BitVec.allOnes 64⟩

def ofInt (bits : Int) : DeviceMask := ⟨BitVec.ofInt 64 bits⟩

/-- The mask read as a signed integer. -/
def toInt (mask : DeviceMask) : Int := mask.bits.toInt

def selected (mask : DeviceMask) : Bool := mask.bits.getLsbD 0

/-- The mask for the devices after the next one. -/
def rest (mask : DeviceMask) : DeviceMask := ⟨mask.bits.sshiftRight 1⟩

/-- What a number of takes in a row answer, and the mask that is left. -/
def takes : Nat → DeviceMask → List Bool × DeviceMask
  | 0, mask => ([], mask)
  | count + 1, mask =>
    let (answers, left) := takes count mask.rest
    (mask.selected :: answers, left)

end DeviceMask

end GpuTelemetry
