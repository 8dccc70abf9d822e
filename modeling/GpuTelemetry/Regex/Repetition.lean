import GpuTelemetry.Regex.Cursor

/-!
# Repetitions

An operator after a part says how often it is repeated. Many repetitions are
tried before few, unless a question mark behind the operator says otherwise.
-/

namespace GpuTelemetry.Regex

/-- The largest count that can be written. -/
def countLimit : Nat := UInt32.size - 1

/-- Whether a pattern is one that an operator can follow. -/
def Pattern.isRepeatable : Pattern → Bool
  | empty _ => false
  | flags _ _ => false
  | _ => true

namespace Reader

/-- Moves over the question mark behind an operator, and says whether none was there. -/
def greed : Reader Bool := do
  if (← peek?) = some '?' then
    advance
    return false
  return true

/-- Reads a decimal number with the blanks around it, or says what is wrong with it. -/
def count : Reader (Except SyntaxError Nat) := do
  skipBlanks
  let start ← here
  let digits ← takeAll Char.isDigit
  let span ← since start
  skipBlanks
  let n := digits.foldl (fun n c => n * 10 + (c.toNat - '0'.toNat)) 0
  if digits.isEmpty then return .error { cause := .repetitionCountEmpty, span }
  if countLimit < n then return .error { cause := .decimalInvalid, span }
  return .ok n

/-- Reads the counts in braces, with the braces and the question mark behind them. -/
def counts (brace : Position) : Reader (Nat × Option Nat × Bool) := do
  if !(← step) then fail .repetitionUnclosed (← since brace)
  let least ← count
  let bounds ←
    match ← peek? with
    | none => fail .repetitionUnclosed (← since brace)
    | some ',' =>
      if !(← step) then fail .repetitionUnclosed (← since brace)
      let least ← liftM least
      if (← peek?) = some '\x7d' then pure (least, none)
      else pure (least, some (← liftM (← count)))
    | some _ =>
      let least ← liftM least
      pure (least, some least)
  if (← peek?) ≠ some '\x7d' then fail .repetitionUnclosed (← since brace)
  let greedy ← if ← step then greed else pure true
  let (least, most) := bounds
  if most.any (· < least) then fail .repetitionInvalid (← since brace)
  return (least, most, greedy)

/-- Reads an operator that begins with `c` and applies to `body`. -/
def repetition (c : Char) (body : Option Pattern) : Reader Pattern := do
  match body.filter Pattern.isRepeatable with
  | none => fail .repetitionMissing (← point)
  | some body =>
    let start := body.span.start
    let operator ← here
    match c with
    | '\x7b' =>
      let (least, most, greedy) ← counts operator
      return .repetition (← since start) body least most greedy
    | _ =>
      advance
      let greedy ← greed
      return .repetition (← since start) body (if c = '+' then 1 else 0)
        (if c = '?' then some 1 else none) greedy

end Reader

end GpuTelemetry.Regex
