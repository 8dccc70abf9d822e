import GpuTelemetry.Regex.Expression
import GpuTelemetry.Regex.Pattern
import GpuTelemetry.Regex.SyntaxError
import GpuTelemetry.Unicode.CaseFolding
import GpuTelemetry.Unicode.PropertyName

/-!
# The meaning of patterns

A pattern stands for an expression, which depends on the flags that are in
force. Where Unicode is switched off, a pattern may name ASCII characters only,
since everything else could match a part of a character.
-/

namespace GpuTelemetry.Regex

open Unicode (CodePointSet)

/-- The flags that a meaning depends on. -/
structure Mode where
  caseInsensitive : Bool := false
  multiLine : Bool := false
  dotMatchesNewline : Bool := false
  swapGreed : Bool := false
  unicode : Bool := true
  carriageReturn : Bool := false
  deriving DecidableEq

namespace Mode

def set (mode : Mode) : Flag × Bool → Mode
  | (.caseInsensitive, on) => { mode with caseInsensitive := on }
  | (.multiLine, on) => { mode with multiLine := on }
  | (.dotMatchesNewline, on) => { mode with dotMatchesNewline := on }
  | (.unicode, on) => { mode with unicode := on }
  | (.carriageReturn, on) => { mode with carriageReturn := on }
  | (.swapGreed, on) => { mode with swapGreed := on }
  | (.ignoreSpace, _) => mode

def change (mode : Mode) (changes : FlagChanges) : Mode :=
  changes.foldl set mode

end Mode

def refuse {α : Type} (cause : Cause) (span : Span) : Except SyntaxError α :=
  .error { cause, span }

def AsciiClass.ranges : AsciiClass → List (Char × Char)
  | alnum => [('0', '9'), ('A', 'Z'), ('a', 'z')]
  | alpha => [('A', 'Z'), ('a', 'z')]
  | ascii => [('\x00', '\x7F')]
  | blank => [('\t', '\t'), (' ', ' ')]
  | cntrl => [('\x00', '\x1F'), ('\x7F', '\x7F')]
  | digit => [('0', '9')]
  | graph => [('!', '~')]
  | lower => [('a', 'z')]
  | print => [(' ', '~')]
  | punct => [('!', '/'), (':', '@'), ('[', '\x60'), ('\x7b', '~')]
  | space => [('\t', '\r'), (' ', ' ')]
  | upper => [('A', 'Z')]
  | word => [('0', '9'), ('A', 'Z'), ('_', '_'), ('a', 'z')]
  | xdigit => [('0', '9'), ('A', 'F'), ('a', 'f')]

def AsciiClass.set (kind : AsciiClass) : CodePointSet where
  ranges := kind.ranges.map fun r => (r.1.toNat, r.2.toNat)

def Shorthand.set (unicode : Bool) : Shorthand → CodePointSet
  | digit => if unicode then Unicode.decimalDigits else AsciiClass.digit.set
  | space => if unicode then Unicode.whiteSpace else AsciiClass.space.set
  | word => if unicode then Unicode.wordCharacters else asciiWord

def SetOperation.apply : SetOperation → CodePointSet → CodePointSet → CodePointSet
  | intersection => CodePointSet.inter
  | difference => CodePointSet.diff
  | symmetricDifference => CodePointSet.symmDiff

def Assertion.look (mode : Mode) : Assertion → Look
  | startLine => if mode.multiLine then .startLine mode.carriageReturn else .start
  | endLine => if mode.multiLine then .endLine mode.carriageReturn else .stop
  | startText => .start
  | endText => .stop
  | wordBoundary => .word mode.unicode .boundary
  | notWordBoundary => .word mode.unicode .notBoundary
  | wordStart => .word mode.unicode .start
  | wordEnd => .word mode.unicode .stop
  | wordStartHalf => .word mode.unicode .startHalf
  | wordEndHalf => .word mode.unicode .stopHalf

namespace Mode

/-- A set with what differs from its members only in case, if case does not matter. -/
def fold (mode : Mode) (set : CodePointSet) : CodePointSet :=
  if !mode.caseInsensitive then set
  else if mode.unicode then set.foldCase
  else set.foldAsciiCase

/-- The set that a class stands for, which may be negated. -/
def close (mode : Mode) (span : Span) (negated : Bool) (set : CodePointSet) :
    Except SyntaxError CodePointSet :=
  let set := if negated then set.complement else set
  if mode.unicode || set.isAscii then .ok set else refuse .invalidText span

def character (mode : Mode) (l : Literal) : Except SyntaxError Char :=
  if !mode.unicode && l.isByte && 0x80 ≤ l.char.toNat then refuse .invalidText l.span
  else .ok l.char

/-- The character that a literal stands for in a class. -/
def member (mode : Mode) (l : Literal) : Except SyntaxError Char := do
  let c ← mode.character l
  if mode.unicode || c.toNat < 0x80 then return c
  refuse .unicodeNotAllowed l.span

def property (mode : Mode) (span : Span) (query : PropertyQuery) (negated : Bool) :
    Except SyntaxError CodePointSet :=
  if !mode.unicode then refuse .unicodeNotAllowed span
  else
    let found :=
      match query with
      | .named name => Unicode.named name
      | .valued property value => Unicode.valued property value
    match found with
    | .ok set => mode.close span negated (mode.fold set)
    | .error .unknownProperty => refuse .propertyUnknown span
    | .error .unknownValue => refuse .propertyValueUnknown span

/-- The set of a class of one letter. -/
def shorthand (mode : Mode) (span : Span) (kind : Shorthand) (negated : Bool) :
    Except SyntaxError CodePointSet :=
  mode.close span negated (kind.set mode.unicode)

/-- One character of a set, which is a set of bytes where Unicode is switched off. -/
def oneOf (mode : Mode) (set : CodePointSet) : Expression :=
  Expression.ofSet (!mode.unicode) set

/-- The characters that a dot stands for. -/
def dot (mode : Mode) (span : Span) : Except SyntaxError CodePointSet :=
  if !mode.unicode then refuse .invalidText span
  else
    let excluded :=
      if mode.dotMatchesNewline then CodePointSet.empty
      else if mode.carriageReturn then (CodePointSet.singleton '\n').union (.singleton '\r')
      else CodePointSet.singleton '\n'
    .ok excluded.complement

end Mode

mutual

def ClassItem.meaning (mode : Mode) : ClassItem → Except SyntaxError CodePointSet
  | .empty _ => .ok CodePointSet.empty
  | .literal l => do return CodePointSet.singleton (← mode.member l)
  | .range _ first last => do
    return CodePointSet.range (← mode.member first).toNat (← mode.member last).toNat
  | .ascii span kind negated => mode.close span negated (mode.fold kind.set)
  | .property span query negated => mode.property span query negated
  | .shorthand span kind negated => mode.shorthand span kind negated
  | .bracketed span negated content => do
    mode.close span negated (mode.fold (← content.meaning mode))
  | .union _ items => do return CodePointSet.unions (← meanings mode items)
  | .operation _ operation left right => do
    let left ← left.meaning mode
    let right ← right.meaning mode
    return operation.apply (mode.fold left) (mode.fold right)

def meanings (mode : Mode) : List ClassItem → Except SyntaxError (List CodePointSet)
  | [] => .ok []
  | item :: items => do
    let set ← item.meaning mode
    return set :: (← meanings mode items)

end

mutual

/-- The expression that a pattern stands for, and the flags that are in force after it. -/
def Pattern.meaning (mode : Mode) : Pattern → Except SyntaxError (Expression × Mode)
  | .empty _ => .ok (.empty, mode)
  | .flags _ changes => .ok (.empty, mode.change changes)
  | .literal l => do
    return (mode.oneOf (mode.fold (CodePointSet.singleton (← mode.character l))), mode)
  | .dot span => do return (mode.oneOf (← mode.dot span), mode)
  | .assertion _ kind => .ok (.look (kind.look mode), mode)
  | .property span query negated => do
    return (mode.oneOf (← mode.property span query negated), mode)
  | .shorthand span kind negated => do
    return (mode.oneOf (← mode.shorthand span kind negated), mode)
  | .bracketed span negated content => do
    let set ← content.meaning mode
    return (mode.oneOf (← mode.close span negated (mode.fold set)), mode)
  | .repetition _ body least most greedy => do
    let (body, after) ← body.meaning mode
    return (body.times least most (greedy != mode.swapGreed), after)
  | .group _ captures changes body => do
    let (body, _) ← body.meaning (mode.change changes)
    return (if captures then .captured body else body, mode)
  | .alternation _ branches => do
    let (branches, after) ← expressions mode branches
    return (Expression.choiceOf branches, after)
  | .concatenation _ parts => do
    let (parts, after) ← expressions mode parts
    return (Expression.sequenceOf parts, after)

/-- The expressions that patterns stand for, each with the flags that are in force after those
before it. -/
def expressions (mode : Mode) : List Pattern → Except SyntaxError (List Expression × Mode)
  | [] => .ok ([], mode)
  | pattern :: patterns => do
    let (first, mode) ← pattern.meaning mode
    let (others, mode) ← expressions mode patterns
    return (first :: others, mode)

end

end GpuTelemetry.Regex
