import GpuTelemetry.Numeral.Binary64
import GpuTelemetry.Process.Record
import GpuTelemetry.Text.Affix
import GpuTelemetry.Text.Blank
import GpuTelemetry.Text.Lines

/-!
# Entries of an fdinfo text

The kernel describes an open descriptor by lines of the form `key: value`. This
module says which lines mean something and what: the address of the device, the
client, its device memory, the busy time of an engine, and the percentage that
kernels before 5.19 report in place of the time. All other lines mean nothing.
-/

namespace GpuTelemetry.Fdinfo

inductive Engine
  | gfx
  | compute
  | encode
  | decode
  deriving DecidableEq

inductive Entry
  /-- The address of the device that the descriptor belongs to. -/
  | address (value : List Char)
  | client (id : UInt64)
  /-- Bytes of device memory. -/
  | memory (bytes : UInt64)
  /-- Nanoseconds. -/
  | engineTime (engine : Engine) (time : UInt64)
  | enginePercent (engine : Engine) (percent : UInt32)
  deriving DecidableEq

/-- Key and value of a line. The value loses the white space in front of it, and neither may be
empty. -/
def keyValue? (line : List Char) : Option (List Char × List Char) := do
  let (key, value) ← Text.splitAt? ':' line
  let value := Text.trimStart value
  if key.isEmpty || value.isEmpty then none else some (key, value)

/-- An amount in units of 1024 bytes. -/
def kibibytes? (value : List Char) : Option UInt64 := do
  let amount ← (Text.stripEnd? " kB".toList value).or (Text.stripEnd? " KiB".toList value)
  let amount : UInt64 ← Word.read? amount
  if amount.toNat * 1024 < UInt64.size then some (UInt64.ofNat (amount.toNat * 1024)) else none

def nanoseconds? (value : List Char) : Option UInt64 := do
  Word.read? (← Text.stripEnd? " ns".toList value)

/-- A percentage, rounded to the nearest whole one with halves going up. -/
def percent? (value : List Char) : Option UInt32 := do
  let decimal ← Decimal.read? (← Text.stripEnd? ['%'] value)
  return decimal.toWord Binary64.round

def timeKeys : List (List Char × Engine) :=
  [("drm-engine-gfx".toList, .gfx), ("drm-engine-compute".toList, .compute),
    ("drm-engine-enc".toList, .encode), ("drm-engine-dec".toList, .decode)]

def percentKeys : List (List Char × Engine) :=
  [("gfx".toList, .gfx), ("compute".toList, .compute), ("enc".toList, .encode),
    ("dec".toList, .decode)]

def timeKey? (key : List Char) : Option Engine :=
  (timeKeys.find? fun k => k.1 = key).map Prod.snd

/-- An engine name followed by the number of an instance, one or more ASCII digits. -/
def percentKey? (key : List Char) : Option Engine :=
  percentKeys.findSome? fun (name, engine) =>
    match Text.stripStart? name key with
    | some (d :: ds) => if (d :: ds).all Char.isDigit then some engine else none
    | _ => none

namespace Entry

def ofKeyValue? (key value : List Char) : Option Entry :=
  if key = "pdev".toList ∨ key = "drm-pdev".toList then some (.address value)
  else if key = "drm-client-id".toList then (Word.read? value).map .client
  else if key = "vram mem".toList ∨ key = "drm-memory-vram".toList then
    (kibibytes? value).map .memory
  else
    match timeKey? key with
    | some engine => (nanoseconds? value).map (.engineTime engine)
    | none => do
      let engine ← percentKey? key
      (percent? value).map (.enginePercent engine)

def ofLine? (line : List Char) : Option Entry := do
  let (key, value) ← keyValue? line
  ofKeyValue? key value

end Entry

/-- The meaningful lines of a text, in order. -/
def entries (text : List Char) : List Entry :=
  (Text.lines text).filterMap Entry.ofLine?

end GpuTelemetry.Fdinfo
