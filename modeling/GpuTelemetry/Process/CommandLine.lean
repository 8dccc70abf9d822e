/-!
# Command lines

The command line of a process is its arguments joined by spaces, each without
the ASCII white space around it and the empty ones left out. A process without
arguments goes by its name.
-/

namespace GpuTelemetry

/-- Space, tab, line feed, form feed and carriage return. -/
def isAsciiBlank (c : Char) : Bool :=
  c == ' ' || c == '\t' || c == '\n' || c == '\x0c' || c == '\r'

def trimAscii (s : List Char) : List Char :=
  ((s.dropWhile isAsciiBlank).reverse.dropWhile isAsciiBlank).reverse

def commandLine (name : String) (arguments : List String) : String :=
  let words := (arguments.map fun a => trimAscii a.toList).filter fun w => !w.isEmpty
  if words.isEmpty then name else String.ofList ([' '].intercalate words)

end GpuTelemetry
