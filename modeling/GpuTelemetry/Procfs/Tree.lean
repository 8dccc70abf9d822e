import GpuTelemetry.Numeral.Word
import GpuTelemetry.Text.Utf8

/-!
# The procfs tree

What a walk of procfs can meet: process directories, the descriptors listed in
their `fdinfo`, and the files that the descriptors stand for.
-/

namespace GpuTelemetry.Procfs

/-- The major number in a device number of the kernel. -/
def deviceMajor (device : UInt64) : UInt64 :=
  let low : UInt64 := 0xfff
  ((device >>> 8) &&& low) ||| ((device >>> 32) &&& ~~~low)

/-- The major number of the character devices of the graphics driver. -/
def drmMajor : UInt64 := 226

/-- What an open descriptor stands for. -/
inductive OpenFile
  | characterDevice (device : UInt64)
  | other
  /-- The descriptor is gone or may not be looked at. -/
  | unknown

def OpenFile.isDrm : OpenFile → Bool
  | .characterDevice device => deviceMajor device == drmMajor
  | _ => false

/-- One entry of the `fdinfo` directory of a process. -/
structure Descriptor where
  name : String
  isRegular : Bool := true
  file : OpenFile
  /-- The bytes of the entry, if it can be read. -/
  contents : Option (List UInt8)
  /-- The monotonic time in nanoseconds at which a walk reads the entry. -/
  readAt : Nat

namespace Descriptor

def number? (descriptor : Descriptor) : Option Int :=
  Numeral.readInt32? descriptor.name.toList

/-- The text of the entry, if it can be read and is UTF-8. -/
def text? (descriptor : Descriptor) : Option (List Char) :=
  descriptor.contents.bind Text.Utf8.decode?

end Descriptor

/-- One entry of the root directory. -/
structure Entry where
  name : String
  isDirectory : Bool := true
  /-- The entries of its `fdinfo` directory, if it can be listed. -/
  fdinfo : Option (List Descriptor)

/-- The process that a directory belongs to: its name is the number of a process and not zero. -/
def Entry.pid? (entry : Entry) : Option UInt32 := do
  let pid : UInt32 ← Word.read? entry.name.toList
  if pid = 0 || !entry.isDirectory then none else some pid

/-- The place where a walk starts: its path, whether a directory is there, and its entries unless
they cannot be listed for the given reason. -/
structure Root where
  path : String
  isDirectory : Bool := true
  listing : Except String (List Entry) := .ok []

/-- Whether two descriptors of a process are one open file. -/
abbrev SameOpenFile := UInt32 → Int → Int → Bool

/-- The answer of a kernel that cannot compare descriptors: all count as one open file. -/
def SameOpenFile.unsupported : SameOpenFile := fun _ _ _ => true

end GpuTelemetry.Procfs
