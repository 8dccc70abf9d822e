import GpuTelemetry.Unicode.BinaryProperty

/-!
# Looking around

What an expression may require of the characters before and after a position.
-/

namespace GpuTelemetry.Regex

/-- What is required of the word characters at a position. -/
inductive WordLook
  | boundary
  | notBoundary
  | start
  | stop
  | startHalf
  | stopHalf
  deriving DecidableEq

inductive Look
  | start
  | stop
  /-- The beginning of a line, which may also follow a carriage return if that is said. -/
  | startLine (carriageReturn : Bool)
  | endLine (carriageReturn : Bool)
  | word (unicode : Bool) (look : WordLook)
  deriving DecidableEq

def asciiWord : Unicode.CodePointSet where
  ranges := [(0x30, 0x39), (0x41, 0x5A), (0x5F, 0x5F), (0x61, 0x7A)]

def WordLook.holds : WordLook → (before after : Bool) → Bool
  | boundary, before, after => before != after
  | notBoundary, before, after => before == after
  | start, before, after => !before && after
  | stop, before, after => before && !after
  | startHalf, before, _ => !before
  | stopHalf, _, after => !after

/-- The characters before and after a position, which are missing at the ends of a text, and
whether they are characters of words. -/
structure Surroundings where
  before : Option Char
  after : Option Char
  asciiWords : Bool × Bool
  words : Bool × Bool

def Surroundings.between (before after : Option Char) : Surroundings where
  before := before
  after := after
  asciiWords := (before.any asciiWord.has, after.any asciiWord.has)
  words := (before.any Unicode.wordCharacters.has, after.any Unicode.wordCharacters.has)

/-- Whether a requirement is met at a position. Between a carriage return and a line feed there is
no end of a line. -/
def Look.holds (here : Surroundings) : Look → Bool
  | start => here.before.isNone
  | stop => here.after.isNone
  | startLine false => here.before.isNone || here.before = some '\n'
  | startLine true =>
    here.before.isNone || here.before = some '\n'
      || here.before = some '\r' && here.after ≠ some '\n'
  | endLine false => here.after.isNone || here.after = some '\n'
  | endLine true =>
    here.after.isNone || here.after = some '\r'
      || here.after = some '\n' && here.before ≠ some '\r'
  | word unicode look =>
    let words := if unicode then here.words else here.asciiWords
    look.holds words.1 words.2

end GpuTelemetry.Regex
