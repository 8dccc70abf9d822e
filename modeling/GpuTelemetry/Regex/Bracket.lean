import GpuTelemetry.Regex.Escape

/-!
# Classes in brackets

A class in brackets lists characters, ranges, other classes, and classes in
brackets of their own. Operations on sets divide the list; they all bind alike
and to the left.
-/

namespace GpuTelemetry.Regex

/-- The items between two operations, with the part that they take up. -/
structure ItemList where
  span : Span
  /-- The last item comes first. -/
  items : List ClassItem := []

namespace ItemList

def push (list : ItemList) (item : ClassItem) : ItemList where
  span := ⟨if list.items.isEmpty then item.span.start else list.span.start, item.span.stop⟩
  items := item :: list.items

def item (list : ItemList) : ClassItem :=
  match list.items with
  | [] => .empty list.span
  | [item] => item
  | items => .union list.span items.reverse

end ItemList

structure OpenClass where
  /-- The opening bracket and what can only stand there. -/
  opening : Span
  negated : Bool
  /-- What the next operation applies to. -/
  left : Option (SetOperation × ClassItem) := none
  items : ItemList

namespace OpenClass

def push (opened : OpenClass) (item : ClassItem) : OpenClass :=
  { opened with items := opened.items.push item }

/-- What the class holds if it ends here. -/
def content (opened : OpenClass) : ClassItem :=
  let right := opened.items.item
  match opened.left with
  | some (operation, left) => .operation (left.span.join right.span) operation left right
  | none => right

def operate (opened : OpenClass) (operation : SetOperation) (position : Position) : OpenClass :=
  { opened with
    left := some (operation, opened.content)
    items := { span := Span.point position } }

end OpenClass

namespace Reader

/-- A character that stands for itself, as it comes next. -/
def verbatim (c : Char) : Reader Literal := do
  return { span := ← ahead, char := c }

/-- Takes the dashes at the front of a class. -/
def leadingDashes (start : Position) : Nat → ItemList → Reader ItemList
  | 0, items => return items
  | n + 1, items => do
    if (← peek?) ≠ some '-' then return items
    let items := items.push (.literal (← verbatim '-'))
    if !(← step) then fail .classUnclosed (Span.point start)
    leadingDashes start n items

/-- Reads the opening bracket, with a circumflex, and with the dashes or the closing bracket that
stand for themselves at the front. -/
def openBracket : Reader OpenClass := do
  let start ← here
  if !(← step) then fail .classUnclosed (← since start)
  let negated := (← peek?) = some '^'
  if negated then
    if !(← step) then fail .classUnclosed (← since start)
  let items ← leadingDashes start (← get).rest.length { span := ← point }
  if items.items.isEmpty && (← peek?) = some ']' then
    let items := items.push (.literal (← verbatim ']'))
    if !(← step) then fail .classUnclosed (← since start)
    return { opening := ← since start, negated, items }
  return { opening := ← since start, negated, items }

/-- Takes a class with a name in brackets and colons if one comes next. -/
def asciiClass? : Reader (Option ClassItem) := do
  let before ← get
  if ← accept "[:" then
    let negated ← accept "^"
    match Text.splitAt? ':' (← get).rest with
    | some (name, _) =>
      name.forM fun _ => advance
      match AsciiClass.ofName? (String.ofList name), ← accept ":]" with
      | some kind, true => return some (.ascii (← since before.position) kind negated)
      | _, _ => pure ()
    | none => pure ()
  set before
  return none

/-- Reads one character or one escape. -/
def classMember (c : Char) : Reader Pattern := do
  if c = '\\' then escape
  else
    let member := Pattern.literal (← verbatim c)
    advance
    return member

/-- What an escape stands for in a class. -/
def asItem : Pattern → Reader ClassItem
  | .literal l => return .literal l
  | .shorthand span kind negated => return .shorthand span kind negated
  | .property span query negated => return .property span query negated
  | other => fail .classEscapeInvalid other.span

/-- What an escape stands for at an end of a range. -/
def asBoundary : Pattern → Reader Literal
  | .literal l => return l
  | other => fail .classRangeBoundary other.span

/-- The character after the next one and the space behind that, where the sign that introduces a
comment counts as space. -/
def secondNext? : Reader (Option Char) := do
  let cursor ← get
  let rest := cursor.rest.drop 1
  if !cursor.ignoresSpace then return rest.head?
  match (skipBlank {} rest).2 with
  | '#' :: comment => return (skipBlank {} comment).2.head?
  | rest => return rest.head?

/-- Reads a character, an escape or a range. -/
def rangeOrItem (opened : OpenClass) (c : Char) : Reader ClassItem := do
  let first ← classMember c
  skipSpace
  if ← atEnd then fail .classUnclosed opened.opening
  let second ← secondNext?
  if (← peek?) ≠ some '-' || second = some ']' || second = some '-' then asItem first
  else if !(← step) then fail .classUnclosed opened.opening
  else
    match ← peek? with
    | none => fail .classUnclosed opened.opening
    | some c =>
      let last ← classMember c
      let span := first.span.join last.span
      let low ← asBoundary first
      let high ← asBoundary last
      if high.char < low.char then fail .classRangeInvalid span
      return .range span low high

/-- The operation that a text begins with. -/
def operation? : List Char → Option SetOperation
  | '&' :: '&' :: _ => some .intersection
  | '-' :: '-' :: _ => some .difference
  | '~' :: '~' :: _ => some .symmetricDifference
  | _ => none

/-- Reads the rest of a class, up to its closing bracket, in at most `n` steps. -/
def bracketRest : Nat → OpenClass → Reader OpenClass
  | 0, opened => fail .classUnclosed opened.opening
  | n + 1, opened => do
    skipSpace
    let rest := (← get).rest
    match operation? rest, rest with
    | _, [] => fail .classUnclosed opened.opening
    | some operation, _ =>
      advance
      advance
      bracketRest n (opened.operate operation (← here))
    | none, ']' :: _ =>
      advance
      return opened
    | none, '[' :: _ =>
      match ← asciiClass? with
      | some item => bracketRest n (opened.push item)
      | none =>
        let inner ← bracketRest n (← openBracket)
        let span ← since inner.opening.start
        bracketRest n (opened.push (.bracketed span inner.negated inner.content))
    | none, c :: _ =>
      let item ← rangeOrItem opened c
      bracketRest n (opened.push item)

def bracket : Reader Pattern := do
  let length := (← get).rest.length
  let opened ← bracketRest length (← openBracket)
  return .bracketed (← since opened.opening.start) opened.negated opened.content

end Reader

end GpuTelemetry.Regex
