import GpuTelemetry.Regex.Beginning
import GpuTelemetry.Regex.Meaning
import GpuTelemetry.Regex.Reader
import GpuTelemetry.Regex.Size

/-!
# Regular expressions from texts

A text spells a regular expression unless its pattern is wrong, or the
expression needs automata that would be too large.
-/

namespace GpuTelemetry.Regex

/-- Why a text is no regular expression. -/
inductive Refusal
  | wrong (text : List Char) (error : SyntaxError)
  | tooLarge

def Refusal.message : Refusal → String
  | wrong text error => error.message text
  | tooLarge => "Compiled regex exceeds size limit of " ++ toString sizeLimit ++ " bytes."

/-- The regular expression that a text spells. -/
def Expression.ofText (text : List Char) : Except Refusal Expression := do
  let read : Except SyntaxError Expression := do
    let pattern ← Pattern.ofText text
    return (← pattern.meaning {}).1
  let expression ← read.mapError (Refusal.wrong text)
  if !expression.isPlain && !expression.isSmall then throw .tooLarge
  return expression

end GpuTelemetry.Regex
