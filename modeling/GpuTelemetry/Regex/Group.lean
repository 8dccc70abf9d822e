import GpuTelemetry.Regex.Cursor
import GpuTelemetry.Unicode.Addition

/-!
# The beginnings of groups

After its parenthesis a group may have a name or change flags. Flags that are
closed at once hold for the rest of the group around them.
-/

namespace GpuTelemetry.Regex

/-- What an opening parenthesis begins. -/
inductive Opening
  /-- Flags for the rest of the group around them. -/
  | flags (span : Span) (changes : FlagChanges)
  | group (span : Span) (captures : Bool) (changes : FlagChanges)

def isNameCharacter (first : Bool) (c : Char) : Bool :=
  let isLetter := c = '_' || c.isAlpha || 0x80 ≤ c.toNat && Unicode.nameLetters.has c
  if first then isLetter
  else
    isLetter || c = '.' || c = '[' || c = ']' || c.isDigit
      || 0x80 ≤ c.toNat && Unicode.nameNumbers.has c

/-- The changes that flags and the signs of negation between them ask for. -/
def changesOf (items : List (Option Flag × Span)) : FlagChanges :=
  go true items
where
  go (on : Bool) : List (Option Flag × Span) → FlagChanges
    | [] => []
    | (none, _) :: items => go false items
    | (some flag, _) :: items => (flag, on) :: go on items

namespace Reader

/-- Reads flags and signs of negation up to what ends them, in at most `n` steps. -/
def flags : Nat → List (Option Flag × Span) → Reader (List (Option Flag × Span))
  | 0, items => return items
  | n + 1, items => do
    match ← peek? with
    | none => fail .flagsUnfinished (← point)
    | some c =>
      if c = ':' || c = ')' then
        match items.getLast? with
        | some (none, span) => fail .flagNegationDangling span
        | _ => return items
      else
        let span ← ahead
        let flag := Flag.ofChar? c
        if c ≠ '-' && flag.isNone then fail .flagUnknown span
        match items.find? fun item => item.1 = flag with
        | some (_, earlier) =>
          fail (if c = '-' then .flagNegationRepeated else .flagRepeated) span (some earlier)
        | none =>
          advance
          flags n (items ++ [(flag, span)])

/-- Takes the characters of a name in at most `n` steps. -/
def nameRest : Nat → List Char → Reader (List Char)
  | 0, name => return name
  | n + 1, name => do
    match ← peek? with
    | none => fail .nameUnclosed (← point)
    | some '>' => return name
    | some c =>
      if !isNameCharacter name.isEmpty c then fail .nameInvalid (← ahead)
      advance
      nameRest n (name ++ [c])

def name : Reader Unit := do
  let start ← here
  let name ← nameRest ((← get).rest.length + 1) []
  let span ← since start
  advance
  if name.isEmpty then fail .nameEmpty (Span.point start)
  match (← get).names.find? fun known => known.1 = name with
  | some (_, earlier) => fail .nameRepeated span (some earlier)
  | none => modify fun cursor => { cursor with names := cursor.names ++ [(name, span)] }

/-- Moves over the first of some texts that comes next. -/
def acceptAny : List String → Reader Bool
  | [] => return false
  | text :: texts => do
    if ← accept text then return true
    acceptAny texts

/-- Reads the beginning of a group, starting with its parenthesis. -/
def opening : Reader Opening := do
  let parenthesis ← ahead
  advance
  skipSpace
  if ← acceptAny ["?=", "?!", "?<=", "?<!"] then fail .lookAround (← since parenthesis.start)
  let question ← point
  if ← acceptAny ["?P<", "?<"] then
    name
    return .group parenthesis true []
  else if ← accept "?" then
    if ← atEnd then fail .groupUnclosed parenthesis
    let items ← flags ((← get).rest.length + 1) []
    let final ← peek?
    advance
    if final = some ':' then return .group parenthesis false (changesOf items)
    if items.isEmpty then fail .repetitionMissing question
    return .flags (← since parenthesis.start) (changesOf items)
  else return .group parenthesis true []

end Reader

end GpuTelemetry.Regex
