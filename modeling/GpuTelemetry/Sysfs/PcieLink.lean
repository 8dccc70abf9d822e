import GpuTelemetry.Numeral.Binary64
import GpuTelemetry.Text.Affix
import GpuTelemetry.Text.Blank
import GpuTelemetry.Text.DecimalDigit
import GpuTelemetry.Text.Lines

/-!
# The PCIe link

The three sensor files about the link of a device: the table of link states with
the active one marked, the traffic of the last second, and the largest speed.
-/

namespace GpuTelemetry.Sysfs

/-- The PCIe generation with a given link speed in gigatransfers per second. -/
def pcieGeneration (speed : UInt32) : Option UInt32 :=
  match speed with
  | 2 => some 1
  | 5 => some 2
  | 8 => some 3
  | 16 => some 4
  | 32 => some 5
  | 64 => some 6
  | _ => none

/-- Speed and width of a link. -/
structure PcieLink where
  speed : UInt32
  width : UInt32
  deriving DecidableEq

/-- The maximal run of decimal digits at the start of a text, which is not empty, and the rest. -/
def digits? (s : List Char) : Option (List Char × List Char) :=
  let run := s.takeWhile Text.isDecimalDigit
  if run.isEmpty then none else some (run, s.dropWhile Text.isDecimalDigit)

namespace PcieLink

/-- The link that a line of the table describes, as in `1: 8.0GT/s, x16 619Mhz *`. -/
def ofLine? (line : List Char) : Option PcieLink := do
  let (_, rest) ← digits? (Text.trimStart line)
  let rest ← Text.stripStart? [':'] rest
  let (speed, rest) ← digits? (Text.trimStart rest)
  let rest ← Text.stripStart? ['.'] rest
  let (_, rest) ← digits? rest
  let rest ← Text.stripStart? "GT/s,".toList rest
  let rest ← Text.stripStart? ['x'] (Text.trimStart rest)
  let (width, _) ← digits? rest
  return { speed := ← Word.read? speed, width := ← Word.read? width }

def isActive (line : List Char) : Bool :=
  (Text.trimEnd line).getLast? = some '*'

/-- The first active line of the table that describes a link. -/
def active? (table : List Char) : Option PcieLink :=
  ((Text.lines table).filter isActive).findSome? ofLine?

end PcieLink

/-- Bytes received and sent: two packet counts times the packet size that follows them, each
product cut off at the largest word. -/
def pcieTraffic? (text : List Char) : Option (UInt64 × UInt64) :=
  match Text.words text with
  | received :: sent :: size :: _ => do
    let received : UInt64 ← Word.read? received
    let sent : UInt64 ← Word.read? sent
    let size : UInt64 ← Word.read? size
    return (Word.saturatingMul received size, Word.saturatingMul sent size)
  | _ => none

/-- The generation of the largest speed, written as in `8.0 GT/s PCIe`. -/
def largestGeneration? (text : List Char) : Option UInt32 := do
  let word ← (Text.words text).head?
  let decimal ← Decimal.read? ((Text.stripEnd? "GT/s".toList word).getD word)
  pcieGeneration (decimal.toWord Binary64.floor)

end GpuTelemetry.Sysfs
