import GpuTelemetry.Regex.Pattern
import GpuTelemetry.Regex.SyntaxError

/-!
# Nesting

Patterns may be nested up to a limit. Everything that has parts counts, except
that escapes and single characters do not.
-/

namespace GpuTelemetry.Regex

def nestingLimit : Nat := 250

/-- One level more, unless that is over the limit. -/
def deeper (span : Span) (depth : Nat) : Except SyntaxError Nat :=
  if nestingLimit ≤ depth then .error { cause := .nestedTooDeep nestingLimit, span }
  else .ok (depth + 1)

mutual

/-- Checks what stands in a class that is `depth` levels deep. -/
def ClassItem.checkNesting (depth : Nat) : ClassItem → Except SyntaxError Unit
  | .bracketed span _ content => do content.checkNesting (← deeper span depth)
  | .union span items => do checkItems (← deeper span depth) items
  | .operation span _ left right => do
    let depth ← deeper span depth
    left.checkNesting depth
    right.checkNesting depth
  | _ => return ()

def checkItems (depth : Nat) : List ClassItem → Except SyntaxError Unit
  | [] => return ()
  | item :: items => do
    item.checkNesting depth
    checkItems depth items

end

mutual

def Pattern.checkNesting (depth : Nat) : Pattern → Except SyntaxError Unit
  | .bracketed span _ content => do content.checkNesting (← deeper span depth)
  | .repetition span body _ _ _ => do body.checkNesting (← deeper span depth)
  | .group span _ _ body => do body.checkNesting (← deeper span depth)
  | .alternation span branches => do checkPatterns (← deeper span depth) branches
  | .concatenation span parts => do checkPatterns (← deeper span depth) parts
  | _ => return ()

def checkPatterns (depth : Nat) : List Pattern → Except SyntaxError Unit
  | [] => return ()
  | pattern :: patterns => do
    pattern.checkNesting depth
    checkPatterns depth patterns

end

end GpuTelemetry.Regex
