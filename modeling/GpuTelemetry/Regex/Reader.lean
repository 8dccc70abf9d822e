import GpuTelemetry.Regex.Bracket
import GpuTelemetry.Regex.Group
import GpuTelemetry.Regex.Nesting
import GpuTelemetry.Regex.Repetition

/-!
# Reading patterns

A pattern is read from left to right. Bars divide a group into branches, and the
parts of a branch follow one another. `Pattern.ofText` is the pattern that a text
spells, or what is wrong with the text.
-/

namespace GpuTelemetry.Regex

/-- What has been read of a group. -/
structure Branches where
  /-- Where the first branch begins. -/
  start : Position
  /-- The branches that have ended, the last one first. -/
  finished : List Pattern := []
  /-- Where the branch begins that is being read. -/
  current : Position
  /-- The parts of that branch, the last one first. -/
  parts : List Pattern := []

namespace Branches

def startingAt (position : Position) : Branches where
  start := position
  current := position

def push (branches : Branches) (part : Pattern) : Branches :=
  { branches with parts := part :: branches.parts }

def branch (branches : Branches) (position : Position) : Pattern :=
  Pattern.ofParts ⟨branches.current, position⟩ branches.parts.reverse

/-- All branches as one pattern, if the last one ends at a position. -/
def pattern (branches : Branches) (position : Position) : Pattern :=
  match branches.finished with
  | [] => branches.branch position
  | finished =>
    .alternation ⟨branches.start, position⟩ (branches.branch position :: finished).reverse

/-- Ends a branch at a bar and begins another one after it. -/
def divide (branches : Branches) (bar after : Position) : Branches :=
  { branches with
    finished := branches.branch bar :: branches.finished, current := after, parts := [] }

end Branches

namespace Reader

/-- Reads a part that is no group, no class in brackets and no repetition. -/
def simple (c : Char) : Reader Pattern := do
  if c = '\\' then escape
  else
    let span ← ahead
    advance
    return match c with
      | '.' => .dot span
      | '^' => .assertion span .startLine
      | '$' => .assertion span .endLine
      | c => .literal { span, char := c }

/-- Switches the skipping of space if flags ask for that. -/
def applyChanges (changes : FlagChanges) : Reader Unit :=
  modify fun cursor =>
    { cursor with
      ignoresSpace := (changes.setting? .ignoreSpace).getD cursor.ignoresSpace }

/-- Reads up to the end of a group or of the pattern, in at most `n` steps. -/
def branches : Nat → Branches → Reader Pattern
  | 0, read => return read.pattern (← here)
  | n + 1, read => do
    skipSpace
    match ← peek? with
    | none => return read.pattern (← here)
    | some ')' => return read.pattern (← here)
    | some '|' =>
      let bar ← here
      advance
      branches n (read.divide bar (← here))
    | some '(' =>
      match ← opening with
      | .flags span changes =>
        applyChanges changes
        branches n (read.push (.flags span changes))
      | .group span captures changes =>
        let outside := (← get).ignoresSpace
        applyChanges changes
        let body ← branches n (Branches.startingAt (← here))
        if ← atEnd then fail .groupUnclosed span
        modify fun cursor => { cursor with ignoresSpace := outside }
        advance
        branches n (read.push (.group (← since span.start) captures changes body))
    | some '[' =>
      let part ← bracket
      branches n (read.push part)
    | some c =>
      if c = '?' || c = '*' || c = '+' || c = '\x7b' then
        let part ← repetition c read.parts.head?
        branches n { read with parts := part :: read.parts.tail }
      else
        let part ← simple c
        branches n (read.push part)

def whole : Reader Pattern := do
  let pattern ← branches ((← get).rest.length + 1) (Branches.startingAt (← here))
  if !(← atEnd) then fail .groupUnopened (← ahead)
  return pattern

end Reader

def Pattern.ofText (text : List Char) : Except SyntaxError Pattern := do
  let (pattern, _) ← Reader.whole.run { rest := text }
  pattern.checkNesting 0
  return pattern

end GpuTelemetry.Regex
