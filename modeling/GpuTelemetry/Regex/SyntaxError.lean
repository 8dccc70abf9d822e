import GpuTelemetry.Regex.Position
import GpuTelemetry.Text.Lines

/-!
# What is wrong with a pattern

An error has a cause and the part of the pattern that it is about. It is shown
with the pattern, in which that part is marked.
-/

namespace GpuTelemetry.Regex

inductive Cause
  | groupUnclosed
  | groupUnopened
  | classUnclosed
  | classRangeInvalid
  | classRangeBoundary
  | classEscapeInvalid
  | decimalEmpty
  | decimalInvalid
  | hexadecimalEmpty
  | hexadecimalInvalid
  | hexadecimalDigit
  | escapeUnfinished
  | escapeUnknown
  | flagNegationDangling
  | flagNegationRepeated
  | flagRepeated
  | flagsUnfinished
  | flagUnknown
  | nameRepeated
  | nameEmpty
  | nameInvalid
  | nameUnclosed
  | nestedTooDeep (limit : Nat)
  | repetitionInvalid
  | repetitionCountEmpty
  | repetitionUnclosed
  | repetitionMissing
  | boundaryUnclosed
  | boundaryUnknown
  | boundaryUnfinished
  | propertyLetterInvalid
  | backreference
  | lookAround
  | unicodeNotAllowed
  | invalidText
  | propertyUnknown
  | propertyValueUnknown
  deriving DecidableEq

def Cause.message : Cause → String
  | groupUnclosed => "unclosed group"
  | groupUnopened => "unopened group"
  | classUnclosed => "unclosed character class"
  | classRangeInvalid => "invalid character class range, the start must be <= the end"
  | classRangeBoundary => "invalid range boundary, must be a literal"
  | classEscapeInvalid => "invalid escape sequence found in character class"
  | decimalEmpty => "decimal literal empty"
  | decimalInvalid => "decimal literal invalid"
  | hexadecimalEmpty => "hexadecimal literal empty"
  | hexadecimalInvalid => "hexadecimal literal is not a Unicode scalar value"
  | hexadecimalDigit => "invalid hexadecimal digit"
  | escapeUnfinished => "incomplete escape sequence, reached end of pattern prematurely"
  | escapeUnknown => "unrecognized escape sequence"
  | flagNegationDangling => "dangling flag negation operator"
  | flagNegationRepeated => "flag negation operator repeated"
  | flagRepeated => "duplicate flag"
  | flagsUnfinished => "expected flag but got end of regex"
  | flagUnknown => "unrecognized flag"
  | nameRepeated => "duplicate capture group name"
  | nameEmpty => "empty capture group name"
  | nameInvalid => "invalid capture group character"
  | nameUnclosed => "unclosed capture group name"
  | nestedTooDeep limit =>
    "exceed the maximum number of nested parentheses/brackets (" ++ toString limit ++ ")"
  | repetitionInvalid => "invalid repetition count range, the start must be <= the end"
  | repetitionCountEmpty => "repetition quantifier expects a valid decimal"
  | repetitionUnclosed => "unclosed counted repetition"
  | repetitionMissing => "repetition operator missing expression"
  | boundaryUnclosed =>
    "special word boundary assertion is either unclosed or contains an invalid character"
  | boundaryUnknown =>
    "unrecognized special word boundary assertion, valid choices are: start, end, start-half "
      ++ "or end-half"
  | boundaryUnfinished =>
    "found either the beginning of a special word boundary or a bounded repetition on a \\b "
      ++ "with an opening brace, but no closing brace"
  | propertyLetterInvalid => "invalid Unicode character class"
  | backreference => "backreferences are not supported"
  | lookAround => "look-around, including look-ahead and look-behind, is not supported"
  | unicodeNotAllowed => "Unicode not allowed here"
  | invalidText => "pattern can match invalid UTF-8"
  | propertyUnknown => "Unicode property not found"
  | propertyValueUnknown => "Unicode property value not found"

structure SyntaxError where
  cause : Cause
  span : Span
  /-- An earlier part that the cause has to do with. -/
  earlier : Option Span := none
  deriving DecidableEq

namespace SyntaxError

/-- The parts that are marked, in order. -/
def spans (error : SyntaxError) : List Span :=
  error.earlier.toList ++ [error.span]

/-- The marks of the parts of a line. They begin at the column `column`. -/
def marks : Nat → List Span → List Char
  | _, [] => []
  | column, span :: spans =>
    let length := max 1 (span.stop.column - span.start.column)
    List.replicate (span.start.column - column) ' ' ++ List.replicate length '^'
      ++ marks (max column span.start.column + length) spans

/-- The width of the line numbers, or zero if there are none. -/
def numberWidth (pattern : List Char) : Nat :=
  let count := (Text.lines pattern).length + if pattern.getLast? = some '\n' then 1 else 0
  if count ≤ 1 then 0 else (toString count).length

def spaces (n : Nat) : String :=
  String.ofList (List.replicate n ' ')

/-- A line of a pattern, and below it the marks of the parts that lie in it. -/
def notateLine (width number : Nat) (spans : List Span) (line : List Char) : List String :=
  let digits := toString number
  let margin := if width = 0 then spaces 4 else spaces (width - digits.length) ++ digits ++ ": "
  let inLine := spans.filter fun span => span.isOneLine && span.start.line = number
  let marked :=
    if inLine.isEmpty then []
    else [spaces margin.length ++ String.ofList (marks 1 inLine)]
  (margin ++ String.ofList line) :: marked

def notate (error : SyntaxError) (pattern : List Char) : List String :=
  let width := numberWidth pattern
  (Text.lines pattern).zipIdx.flatMap fun (line, i) => notateLine width (i + 1) error.spans line

/-- The note on a part that goes over several lines. -/
def note (span : Span) : String :=
  "on line " ++ toString span.start.line ++ " (column " ++ toString span.start.column
    ++ ") through line " ++ toString span.stop.line ++ " (column "
    ++ toString (span.stop.column - 1) ++ ")"

def message (error : SyntaxError) (pattern : List Char) : String :=
  let divider := String.ofList (List.replicate 79 '~')
  let long := (error.spans.filter fun span => !span.isOneLine).map note
  let notated := error.notate pattern
  let body :=
    if pattern.contains '\n' then divider :: notated ++ divider :: long else notated
  "\n".intercalate ("regex parse error:" :: body ++ ["error: " ++ error.cause.message])

end SyntaxError

end GpuTelemetry.Regex
