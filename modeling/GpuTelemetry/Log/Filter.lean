import GpuTelemetry.Regex.Machine
import GpuTelemetry.Regex.OfText
import GpuTelemetry.Terminal.ControlSequence
import GpuTelemetry.Text.Affix
import GpuTelemetry.Text.Blank
import GpuTelemetry.Text.Split
import GpuTelemetry.Trace

/-!
# Log filters

Which log lines are written, and how. A filter is a list of directives separated
by commas, each a level, a target, or both joined by an equals sign. The longest
target that a line's target starts with decides; without any directive only
errors are written. A slash after the directives introduces a regular expression
that the messages have to match.
-/

namespace GpuTelemetry

def LogLevel.name : LogLevel → String
  | error => "ERROR"
  | warn => "WARN"
  | info => "INFO"
  | debug => "DEBUG"
  | trace => "TRACE"

/-- The rank of a level; a more detailed one is higher. -/
def LogLevel.rank : LogLevel → Nat
  | error => 1
  | warn => 2
  | info => 3
  | debug => 4
  | trace => 5

def LogSource.target : LogSource → String
  | registry => "gpuscope::core::gpuinfo::registry"
  | processCache => "gpuscope::core::gpuinfo::process_cache"
  | sweep => "gpuscope::platform::fdinfo"
  | drmLibrary => "gpuscope::platform::gpu::amd::libdrm"
  | sysfs => "gpuscope::platform::gpu::amd::sysfs"
  | amd => "gpuscope::platform::gpu::amd"
  | nvidia => "gpuscope::platform::gpu::nvidia"
  | command => "gpuscope::commands::snapshot"

namespace Log

structure Directive where
  /-- What the targets begin with that it applies to; without it, it applies to all. -/
  target : Option (List Char)
  /-- The rank of the most detailed level to write, zero for none. -/
  limit : Nat

structure Filter where
  directives : List Directive
  /-- What a part of every message has to match. -/
  pattern : Option Regex.Expression := none

/-- A filter with what is wrong in the text that it was read from. -/
structure Reading where
  filter : Filter
  complaints : List String := []

def lower (s : List Char) : List Char :=
  s.map Char.toLower

/-- The rank that a level name stands for, in any case. -/
def rank? (name : List Char) : Option Nat :=
  let names := ["off", "error", "warn", "info", "debug", "trace"]
  names.findIdx? fun n => n.toList = lower name

def allLevels : Nat := 5

def splitOn (mark : Char) (s : List Char) : List (List Char) :=
  Text.splitBy (fun c => c == mark) s

def invalidText (text : List Char) (detail : String) : String :=
  "warning: invalid logging spec '" ++ String.ofList text ++ "'" ++ detail ++ ", ignoring it"

/-- One directive, or what is wrong with it. -/
def Directive.read (text : List Char) : Except String Directive :=
  match splitOn '=' text with
  | [word] =>
    match rank? word with
    | some limit => .ok { target := none, limit }
    | none => .ok { target := some word, limit := allLevels }
  | [target, level] =>
    let level := Text.trim level
    if level.isEmpty then .ok { target := some target, limit := allLevels }
    else
      match rank? level with
      | some limit => .ok { target := some target, limit }
      | none => .error (invalidText level "")
  | _ => .error (invalidText text "")

/-- Puts a directive in the place of the one for the same target, or else at the end. -/
def insertDirective (directive : Directive) : List Directive → List Directive
  | [] => [directive]
  | d :: ds =>
    if d.target = directive.target then directive :: ds else d :: insertDirective directive ds

/-- The filter that only lets errors through. -/
def Filter.errors : Filter :=
  { directives := [{ target := none, limit := LogLevel.error.rank }] }

/-- The filter that is in force unless another one is given: warnings and errors. -/
def Filter.standard : Filter :=
  { directives := [{ target := none, limit := LogLevel.warn.rank }] }

namespace Reading

/-- Takes one more directive into account. -/
def add (reading : Reading) (text : List Char) : Reading :=
  match Directive.read text with
  | .ok d =>
    { reading with filter.directives := insertDirective d reading.filter.directives }
  | .error complaint => { reading with complaints := reading.complaints ++ [complaint] }

/-- Takes the regular expression for messages into account that a text spells. -/
def addPattern (reading : Reading) (text : List Char) : Reading :=
  match Regex.Expression.ofText text with
  | .ok pattern => { reading with filter.pattern := some pattern }
  | .error refusal =>
    let complaint := "warning: invalid regex filter - " ++ refusal.message ++ ", ignoring it"
    { reading with complaints := reading.complaints ++ [complaint] }

def ofText (text : String) : Reading :=
  match splitOn '/' text.toList with
  | [] => { filter := Filter.errors }
  | _ :: _ :: _ :: _ =>
    { filter := Filter.errors
      complaints := [invalidText text.toList " (too many '/'s)"] }
  | modules :: patterns =>
    let parts := ((splitOn ',' modules).map Text.trim).filter fun part => !part.isEmpty
    let reading := patterns.foldl addPattern (parts.foldl add { filter := { directives := [] } })
    if reading.filter.directives.isEmpty then
      { reading with filter.directives := Filter.errors.directives }
    else reading

end Reading

/-- The number of characters of a target that a directive asks for. -/
def Directive.length (directive : Directive) : Nat :=
  (directive.target.map List.length).getD 0

def Directive.applies (directive : Directive) (target : List Char) : Bool :=
  directive.target.all fun start => (Text.stripStart? start target).isSome

/-- Of two directives that apply, the one with the longer target, or else the later one. -/
def Filter.deciding? (filter : Filter) (target : List Char) : Option Directive :=
  (filter.directives.filter fun d => d.applies target).foldl
    (fun best d =>
      match best with
      | some b => if b.length ≤ d.length then some d else some b
      | none => some d)
    none

def Filter.admits (filter : Filter) (line : LogLine) : Bool :=
  match filter.deciding? line.source.target.toList with
  | some d =>
    line.level.rank ≤ d.limit && filter.pattern.all fun pattern => pattern.isMatch line.text.toList
  | none => false

/-- The name of a level, filled up to five characters. -/
def paddedName (level : LogLevel) : String :=
  let name := level.name
  name ++ String.ofList (List.replicate (5 - name.length) ' ')

def indentLines (text : String) : String :=
  String.ofList (text.toList.flatMap fun c => if c = '\n' then "\n    ".toList else [c])

end Log

/-- A log line as it is written with its end, but without its time. -/
def LogLine.render (line : LogLine) : String :=
  Terminal.plain ("[" ++ Log.paddedName line.level ++ " " ++ line.source.target ++ "] "
    ++ Log.indentLines line.text ++ "\n")

end GpuTelemetry
