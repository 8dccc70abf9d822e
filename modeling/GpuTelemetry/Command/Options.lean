import GpuTelemetry.Collector
import GpuTelemetry.Terminal.ControlSequence

/-!
# Command-line options

The options of the program, how they are named in messages, and what the text
given for one of them means.
-/

namespace GpuTelemetry.Command

inductive Switch
  | interval
  | count
  | mask
  | noProcesses
  | pretty
  | procRoot
  | help
  | version
  deriving DecidableEq

namespace Switch

def all : List Switch :=
  [interval, count, mask, noProcesses, pretty, procRoot, help, version]

def long : Switch → String
  | interval => "interval"
  | count => "count"
  | mask => "mask"
  | noProcesses => "no-processes"
  | pretty => "pretty"
  | procRoot => "proc-root"
  | help => "help"
  | version => "version"

def short? : Switch → Option Char
  | interval => some 'i'
  | count => some 'n'
  | mask => some 'm'
  | noProcesses => none
  | pretty => some 'p'
  | procRoot => none
  | help => some 'h'
  | version => some 'V'

/-- What stands for the value of a switch that takes one. -/
def placeholder? : Switch → Option String
  | interval => some "MS"
  | count => some "N"
  | mask => some "BITS"
  | procRoot => some "DIR"
  | _ => none

def takesValue (switch : Switch) : Bool :=
  switch.placeholder?.isSome

/-- A switch as messages name it. -/
def label (switch : Switch) : String :=
  let value :=
    match switch.placeholder? with
    | some name => " <" ++ name ++ ">"
    | none => ""
  "--" ++ switch.long ++ value

def ofLong? (name : List Char) : Option Switch :=
  all.find? fun s => s.long.toList = name

def ofShort? (name : Char) : Option Switch :=
  all.find? fun s => s.short? = some name

end Switch

structure Options where
  /-- Milliseconds between two snapshots. -/
  interval : Nat := 1000
  /-- The number of snapshots, or zero for no end. -/
  count : Nat := 0
  mask : Option Int := none
  collectProcesses : Bool := true
  pretty : Bool := false
  procRoot : String := "/proc"

def Options.settings (options : Options) : Settings where
  mask := (options.mask.map DeviceMask.ofInt).getD DeviceMask.all
  collectProcesses := options.collectProcesses
  procRoot := options.procRoot

inductive UsageError
  | invalidValue (value : String) (switch : Switch) (reason : String)
  | missingValue (switch : Switch)
  | repeated (switch : Switch)
  | superfluousValue (value : String) (switch : Switch)
  | unexpectedArgument (argument : String)

/-- What is wrong, where the texts of the user are shown without their control sequences. -/
def UsageError.message : UsageError → String
  | invalidValue value switch reason =>
    "invalid value '" ++ Terminal.plainPart value ++ "' for '" ++ switch.label ++ "': " ++ reason
  | missingValue switch =>
    "a value is required for '" ++ switch.label ++ "' but none was supplied"
  | repeated switch => "the argument '" ++ switch.label ++ "' cannot be used multiple times"
  | superfluousValue value switch =>
    "unexpected value '" ++ Terminal.plainPart value ++ "' for '" ++ switch.label
      ++ "' found; no more were expected"
  | unexpectedArgument argument =>
    "unexpected argument '" ++ Terminal.plainPart argument ++ "' found"

end Command

/-- What is wrong with a numeral. -/
def NumeralError.reason : NumeralError → String
  | empty => "cannot parse integer from empty string"
  | invalidDigit => "invalid digit found in string"
  | tooLarge => "number too large to fit in target type"
  | tooSmall => "number too small to fit in target type"

namespace Command

/-- The largest value of a 64-bit word. -/
def wordLimit : Nat := UInt64.size - 1

namespace Options

def readCount (switch : Switch) (text : String) : Except UsageError Nat :=
  (Numeral.readUnsigned wordLimit text.toList).mapError fun e =>
    .invalidValue text switch e.reason

/-- The options with a switch set to the value that a text stands for. -/
def assign (options : Options) (switch : Switch) (text : String) : Except UsageError Options :=
  match switch with
  | .interval => do
    let interval ← readCount switch text
    if interval = 0 then
      .error (.invalidValue text switch ("0 is not in 1.." ++ toString wordLimit))
    else return { options with interval }
  | .count => do return { options with count := ← readCount switch text }
  | .mask => do
    let mask ← (Numeral.readSigned (1 <<< 63) text.toList).mapError fun e =>
      UsageError.invalidValue text switch e.reason
    return { options with mask := some mask }
  | .procRoot =>
    if text.isEmpty then .error (.missingValue switch)
    else .ok { options with procRoot := text }
  | _ => .ok options

/-- The options with a switch set that takes no value. -/
def raise (options : Options) : Switch → Options
  | .noProcesses => { options with collectProcesses := false }
  | .pretty => { options with pretty := true }
  | _ => options

end Options

end GpuTelemetry.Command
