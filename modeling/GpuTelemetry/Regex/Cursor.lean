import GpuTelemetry.Regex.Pattern
import GpuTelemetry.Regex.SyntaxError
import GpuTelemetry.Text.Affix
import GpuTelemetry.Text.Blank

/-!
# Moving through a pattern

A reader of a pattern sees the characters that are still to come. While the
flag for it is on, it skips white space and comments between the tokens.
-/

namespace GpuTelemetry.Regex

structure Cursor where
  rest : List Char
  position : Position := {}
  ignoresSpace : Bool := false
  /-- The names that groups have so far, and where they stand. -/
  names : List (List Char × Span) := []

abbrev Reader := StateT Cursor (Except SyntaxError)

/-- What is left after white space and comments, with its position. -/
def skipComments : Bool → Position → List Char → Position × List Char
  | _, position, [] => (position, [])
  | inComment, position, c :: cs =>
    if inComment then skipComments (c ≠ '\n') (position.after c) cs
    else if Text.isBlank c || c = '#' then skipComments (c = '#') (position.after c) cs
    else (position, c :: cs)

/-- What is left after white space, with its position. -/
def skipBlank : Position → List Char → Position × List Char
  | position, [] => (position, [])
  | position, c :: cs =>
    if Text.isBlank c then skipBlank (position.after c) cs else (position, c :: cs)

namespace Reader

def fail {α : Type} (cause : Cause) (span : Span) (earlier : Option Span := none) : Reader α :=
  throw { cause, span, earlier }

/-- The next character. -/
def peek? : Reader (Option Char) := do
  return (← get).rest.head?

def atEnd : Reader Bool := do
  return (← get).rest.isEmpty

def here : Reader Position := do
  return (← get).position

/-- The empty part before the next character. -/
def point : Reader Span := do
  return Span.point (← here)

def since (start : Position) : Reader Span := do
  return ⟨start, ← here⟩

/-- The part that consists of the next character. -/
def ahead : Reader Span := do
  let cursor ← get
  return ⟨cursor.position, (cursor.rest.head?.map cursor.position.after).getD cursor.position⟩

/-- Moves over a character. -/
def advance : Reader Unit :=
  modify fun cursor =>
    match cursor.rest with
    | [] => cursor
    | c :: rest => { cursor with rest, position := cursor.position.after c }

def skipSpace : Reader Unit :=
  modify fun cursor =>
    if cursor.ignoresSpace then
      let (position, rest) := skipComments false cursor.position cursor.rest
      { cursor with rest, position }
    else cursor

/-- Moves over a character and the space after it, and says whether another one follows. -/
def step : Reader Bool := do
  advance
  skipSpace
  return !(← atEnd)

/-- Moves over a text if it comes next. -/
def accept (text : String) : Reader Bool := do
  if (Text.stripStart? text.toList (← get).rest).isSome then
    text.toList.forM fun _ => advance
    return true
  return false

/-- Takes the next characters with a property, each with the space after it. At most `n` are
taken. -/
def takeWhile (property : Char → Bool) : Nat → Reader (List Char)
  | 0 => return []
  | n + 1 => do
    match ← peek? with
    | some c =>
      if property c then
        let _ ← step
        return c :: (← takeWhile property n)
      return []
    | none => return []

/-- Takes all of the next characters with a property, each with the space after it. -/
def takeAll (property : Char → Bool) : Reader (List Char) := do
  takeWhile property (← get).rest.length

/-- Skips white space, also where it counts. -/
def skipBlanks : Reader Unit :=
  modify fun cursor =>
    let (position, rest) := skipBlank cursor.position cursor.rest
    { cursor with rest, position }

end Reader

end GpuTelemetry.Regex
