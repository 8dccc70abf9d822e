import GpuTelemetry.Regex.Position

/-!
# Patterns

A regular expression as it is written: every part knows where it stands, so that
what is wrong with it can be shown.
-/

namespace GpuTelemetry.Regex

/-- What can be switched on and off inside a pattern. -/
inductive Flag
  | caseInsensitive
  | multiLine
  | dotMatchesNewline
  | swapGreed
  | unicode
  | carriageReturn
  | ignoreSpace
  deriving DecidableEq

def Flag.ofChar? : Char → Option Flag
  | 'i' => some caseInsensitive
  | 'm' => some multiLine
  | 's' => some dotMatchesNewline
  | 'U' => some swapGreed
  | 'u' => some unicode
  | 'R' => some carriageReturn
  | 'x' => some ignoreSpace
  | _ => none

/-- Flags that are switched on or off, in order. -/
abbrev FlagChanges := List (Flag × Bool)

/-- What becomes of a flag, unless it is left as it is. -/
def FlagChanges.setting? (changes : FlagChanges) (flag : Flag) : Option Bool :=
  (changes.find? fun change => change.1 = flag).map Prod.snd

structure Literal where
  span : Span
  char : Char
  /-- Whether it is written as an escape of two hexadecimal digits. -/
  isByte : Bool := false

inductive Shorthand
  | digit
  | space
  | word
  deriving DecidableEq

/-- The class with a name in brackets and colons. -/
inductive AsciiClass
  | alnum
  | alpha
  | ascii
  | blank
  | cntrl
  | digit
  | graph
  | lower
  | print
  | punct
  | space
  | upper
  | word
  | xdigit
  deriving DecidableEq

def AsciiClass.ofName? : String → Option AsciiClass
  | "alnum" => some alnum
  | "alpha" => some alpha
  | "ascii" => some ascii
  | "blank" => some blank
  | "cntrl" => some cntrl
  | "digit" => some digit
  | "graph" => some graph
  | "lower" => some lower
  | "print" => some print
  | "punct" => some punct
  | "space" => some space
  | "upper" => some upper
  | "word" => some word
  | "xdigit" => some xdigit
  | _ => none

/-- How a class is asked for by property. -/
inductive PropertyQuery
  | named (name : List Char)
  | valued (property value : List Char)

inductive SetOperation
  | intersection
  | difference
  | symmetricDifference
  deriving DecidableEq

/-- What stands in a class in brackets. -/
inductive ClassItem
  | empty (span : Span)
  | literal (literal : Literal)
  | range (span : Span) (first last : Literal)
  | ascii (span : Span) (kind : AsciiClass) (negated : Bool)
  | property (span : Span) (query : PropertyQuery) (negated : Bool)
  | shorthand (span : Span) (kind : Shorthand) (negated : Bool)
  | bracketed (span : Span) (negated : Bool) (content : ClassItem)
  | union (span : Span) (items : List ClassItem)
  | operation (span : Span) (operation : SetOperation) (left right : ClassItem)

def ClassItem.span : ClassItem → Span
  | empty span => span
  | literal l => l.span
  | range span _ _ => span
  | ascii span _ _ => span
  | property span _ _ => span
  | shorthand span _ _ => span
  | bracketed span _ _ => span
  | union span _ => span
  | operation span _ _ _ => span

inductive Assertion
  | startLine
  | endLine
  | startText
  | endText
  | wordBoundary
  | notWordBoundary
  | wordStart
  | wordEnd
  | wordStartHalf
  | wordEndHalf
  deriving DecidableEq

inductive Pattern
  | empty (span : Span)
  /-- Switches flags for the rest of the group. -/
  | flags (span : Span) (changes : FlagChanges)
  | literal (literal : Literal)
  | dot (span : Span)
  | assertion (span : Span) (kind : Assertion)
  | property (span : Span) (query : PropertyQuery) (negated : Bool)
  | shorthand (span : Span) (kind : Shorthand) (negated : Bool)
  | bracketed (span : Span) (negated : Bool) (content : ClassItem)
  | repetition (span : Span) (body : Pattern) (least : Nat) (most : Option Nat)
    (greedy : Bool)
  | group (span : Span) (captures : Bool) (changes : FlagChanges) (body : Pattern)
  | alternation (span : Span) (branches : List Pattern)
  | concatenation (span : Span) (parts : List Pattern)

def Pattern.span : Pattern → Span
  | empty span => span
  | flags span _ => span
  | literal l => l.span
  | dot span => span
  | assertion span _ => span
  | property span _ _ => span
  | shorthand span _ _ => span
  | bracketed span _ _ => span
  | repetition span _ _ _ _ => span
  | group span _ _ _ => span
  | alternation span _ => span
  | concatenation span _ => span

def Pattern.ofParts (span : Span) : List Pattern → Pattern
  | [] => empty span
  | [part] => part
  | parts => concatenation span parts

end GpuTelemetry.Regex
