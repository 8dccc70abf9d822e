import GpuTelemetry.Regex.Expression
import GpuTelemetry.Regex.LiteralTree
import GpuTelemetry.Regex.SetAutomaton

/-!
# The size of an expression

For an expression two automata are built that read the bytes of a text, one
forwards and one backwards. Neither may be larger than the limit. In an
automaton a repetition is written out as often as its body is repeated.
-/

namespace GpuTelemetry.Regex

/-- Where an expression stands in a choice. -/
inductive Place
  /-- In none, or first in it. -/
  | first
  | second
  | later
  deriving DecidableEq

/-- Connects a branch to a choice. The states where a choice begins and ends are built behind its
second branch. -/
def Place.connect : Place → Extent → Option Extent
  | first, extent => some extent
  | second, extent => extent.add 2 (2 * referenceSize)
  | later, extent => extent.add 0 referenceSize

namespace Expression

/-- The fewest characters that a match has, unless some part has no match. -/
def shortest? : Expression → Option Nat
  | empty => some 0
  | literal text => some text.length
  | oneOf set _ => if set.ranges.isEmpty then none else some 1
  | look _ => some 0
  | sequence first rest => do return (← first.shortest?) + (← rest.shortest?)
  | choice first rest => do return min (← first.shortest?) (← rest.shortest?)
  | repeated body least _ _ => do return (← body.shortest?) * least
  | captured body => body.shortest?

/-- Whether it can be seen that every match takes up a character. -/
def isProgressive (expression : Expression) : Bool :=
  expression.shortest?.any (0 < ·)

/-- Whether it can be seen that every match begins, or ends, where a requirement is met. -/
def requires (required : Look) (atEnd : Bool) : Expression → Bool
  | look here => here = required
  | sequence first rest =>
    if atEnd then rest.requires required atEnd || rest.isEmptyOnly && first.requires required atEnd
    else first.requires required atEnd || first.isEmptyOnly && rest.requires required atEnd
  | choice first rest => first.requires required atEnd && rest.requires required atEnd
  | repeated body least _ _ => 0 < least && body.requires required atEnd
  | captured body => body.requires required atEnd
  | _ => false

/-- The texts that an expression is a choice between. -/
def texts? : Expression → Option (List (List Char))
  | literal text => some [text]
  | choice (literal text) rest => rest.texts?.map (text :: ·)
  | _ => none

/-- Builds a repetition of something. -/
def buildRepeated (build : Extent → Option Extent) (isProgressive : Bool) (least : Nat) :
    (most : Option Nat) → Extent → Option Extent
  | some most, extent => do
    let links := 2 * referenceSize
    if least = 0 && most = 1 then
      let extent ← build (← extent.add 1 links)
      extent.add 1 0
    else if least = most then Extent.repeated build least extent
    else
      let extent ← if least = 0 then extent.add 1 0 else Extent.repeated build least extent
      let extent ← extent.add 1 0
      Extent.repeated (fun extent => do build (← extent.add 1 links)) (most - least) extent
  | none, extent => do
    let links := 2 * referenceSize
    if 0 < least then
      let extent ← Extent.repeated build least extent
      extent.add 1 links
    else if isProgressive then build (← extent.add 1 links)
    else
      let extent ← build extent
      extent.add 3 (2 * links)

/-- Builds the states for an expression, which may stand in a choice. A choice between texts is
built as a whole. -/
def build (backwards : Bool) : Expression → Place → Extent → Option Extent
  | empty, place, extent => do place.connect (← extent.add 1 0)
  | literal text, place, extent => do
    place.connect (← extent.add (bytesOfText text).length 0)
  | oneOf set _, place, extent => do place.connect (← buildSet backwards set extent)
  | look _, place, extent => do place.connect (← extent.add 1 0)
  | sequence first rest, place, extent => do
    let extent ←
      if backwards then first.build backwards .first (← rest.build backwards .first extent)
      else rest.build backwards .first (← first.build backwards .first extent)
    place.connect extent
  | choice first rest, place, extent => do
    match place, (choice first rest).texts? with
    | .first, some texts => buildTexts backwards texts extent
    | place, _ =>
      let extent ← place.connect (← first.build backwards .first extent)
      rest.build backwards (if place = .first then .second else .later) extent
  | repeated body least most _, place, extent => do
    let extent ←
      buildRepeated (fun extent => body.build backwards .first extent) body.isProgressive least most
        extent
    place.connect extent
  | captured body, place, extent => do
    let extent ←
      if backwards then body.build backwards .first extent
      else (← body.build backwards .first (← extent.add 1 0)).add 1 0
    place.connect extent

/-- Builds the automaton that finds matches in one direction. Unless a match can only begin where
the automaton does, three states pass over what comes before the match. -/
def automaton (backwards : Bool) (expression : Expression) : Option Extent := do
  let isAnchored := expression.requires (if backwards then .stop else .start) backwards
  let extent : Extent := {}
  let extent ←
    if isAnchored then extent.add 1 0 else extent.add 3 (transitionSize + 2 * referenceSize)
  let extent ←
    (if backwards then expression else captured expression).build backwards .first extent
  extent.add 1 0

/-- Whether both automata stay within the limit. -/
def isSmall (expression : Expression) : Bool :=
  (expression.automaton true).isSome && (expression.automaton false).isSome

end Expression

end GpuTelemetry.Regex
