import GpuTelemetry.Numeral.Hexadecimal
import GpuTelemetry.Numeral.Integer
import GpuTelemetry.Regex.Cursor

/-!
# Escapes

What a backslash introduces: a character, a class, or an assertion.
-/

namespace GpuTelemetry.Regex

/-- Whether a character stands for itself only after a backslash. -/
def isMeta (c : Char) : Bool :=
  "\\.+*?()|[]\x7b\x7d^$#&-~".toList.contains c

/-- Whether a character may follow a backslash and then stands for itself. -/
def isEscapable (c : Char) : Bool :=
  isMeta c || c.toNat < 0x80 && !c.isAlphanum && c ≠ '<' && c ≠ '>'

namespace Reader

/-- The character with a hexadecimal number. -/
def charOfHex? (digits : List Char) : Option Char :=
  let n := digits.foldl (fun n c => n * 16 + (Numeral.hexValue? c).getD 0) 0
  if n.isValidChar then some (Char.ofNat n) else none

def isHex (c : Char) : Bool :=
  (Numeral.hexValue? c).isSome

/-- Takes a given number of hexadecimal digits. -/
def hexDigits : Nat → Reader (List Char)
  | 0 => return []
  | n + 1 => do
    match ← peek? with
    | none => fail .escapeUnfinished (← point)
    | some c =>
      if !isHex c then fail .hexadecimalDigit (← ahead)
      let _ ← step
      return c :: (← hexDigits n)

/-- Reads a number after its letter: so many digits, or any number of them in braces. -/
def hexadecimal (backslash : Position) (digits : Nat) : Reader Literal := do
  let brace ← here
  if (← peek?) = some '\x7b' then
    let inside := (← ahead).stop
    let _ ← step
    let number ← takeAll isHex
    let stop ← here
    match ← peek? with
    | none => fail .escapeUnfinished (← since brace)
    | some '\x7d' =>
      let _ ← step
      if number.isEmpty then fail .hexadecimalEmpty (← since brace)
      match charOfHex? number with
      | some char => return { span := ← since backslash, char }
      | none => fail .hexadecimalInvalid ⟨inside, stop⟩
    | some _ => fail .hexadecimalDigit (← ahead)
  else
    let number ← hexDigits digits
    match charOfHex? number with
    | some char => return { span := ← since backslash, char, isByte := digits = 2 }
    | none => fail .hexadecimalInvalid (← since brace)

/-- The property that a text in braces asks for, and whether for the characters without it. -/
def queryOf (text : List Char) : PropertyQuery × Bool :=
  match splitUnequal text with
  | some (property, value) => (.valued property value, true)
  | none =>
    match (Text.splitAt? ':' text).or (Text.splitAt? '=' text) with
    | some (property, value) => (.valued property value, false)
    | none => (.named text, false)
where
  /-- What stands before and after the first unequal sign. -/
  splitUnequal : List Char → Option (List Char × List Char)
    | '!' :: '=' :: cs => some ([], cs)
    | c :: cs => (splitUnequal cs).map fun p => (c :: p.1, p.2)
    | [] => none

/-- Reads the property after its letter: one letter, or a text in braces. -/
def property (backslash : Position) (negated : Bool) : Reader Pattern := do
  match ← peek? with
  | some '\x7b' =>
    let _ ← step
    let text ← takeAll fun c => c ≠ '\x7d'
    if ← atEnd then fail .escapeUnfinished (← point)
    advance
    let (query, unequal) := queryOf text
    return .property (← since backslash) query (negated != unequal)
  | some '\\' => fail .propertyLetterInvalid (← ahead)
  | some c =>
    let _ ← step
    return .property (← since backslash) (.named [c]) negated
  | none => fail .escapeUnfinished (← point)

def isBoundaryLetter (c : Char) : Bool :=
  c.isAlpha || c = '-'

/-- The boundary that a name in braces asks for. -/
def boundary? : String → Option Assertion
  | "start" => some .wordStart
  | "end" => some .wordEnd
  | "start-half" => some .wordStartHalf
  | "end-half" => some .wordEndHalf
  | _ => none

/-- Reads the name in braces that may follow a word boundary. Without a letter after the brace,
it is the brace of a repetition and stays unread. -/
def boundaryName (backslash : Position) : Reader Assertion := do
  let before ← get
  if !(← step) then fail .boundaryUnfinished (← since backslash)
  let start ← here
  if !(← peek?).any isBoundaryLetter then
    set before
    return .wordBoundary
  let name ← takeAll isBoundaryLetter
  if (← peek?) ≠ some '\x7d' then fail .boundaryUnclosed (← since before.position)
  let stop ← here
  advance
  match boundary? (String.ofList name) with
  | some kind => return kind
  | none => fail .boundaryUnknown ⟨start, stop⟩

/-- The control characters that have a letter. -/
def controlCharacter? : Char → Option Char
  | 'a' => some '\x07'
  | 'f' => some '\x0C'
  | 't' => some '\t'
  | 'n' => some '\n'
  | 'r' => some '\r'
  | 'v' => some '\x0B'
  | _ => none

def shorthand? : Char → Option Shorthand
  | 'd' => some .digit
  | 's' => some .space
  | 'w' => some .word
  | _ => none

def assertion? : Char → Option Assertion
  | 'A' => some .startText
  | 'z' => some .endText
  | 'b' => some .wordBoundary
  | 'B' => some .notWordBoundary
  | '<' => some .wordStart
  | '>' => some .wordEnd
  | _ => none

/-- The number of digits after the letter of a hexadecimal escape. -/
def hexWidth? : Char → Option Nat
  | 'x' => some 2
  | 'u' => some 4
  | 'U' => some 8
  | _ => none

def letterEscape (backslash : Position) (c : Char) : Reader Pattern := do
  let span ← since backslash
  if isEscapable c then return .literal { span, char := c }
  match controlCharacter? c, assertion? c with
  | some char, _ => return .literal { span, char }
  | none, some kind =>
    if c = 'b' && (← peek?) = some '\x7b' then
      let kind ← boundaryName backslash
      return .assertion (← since backslash) kind
    return .assertion span kind
  | none, none => fail .escapeUnknown span

/-- Reads what a backslash introduces, starting with the backslash. -/
def escape : Reader Pattern := do
  let backslash ← here
  advance
  match ← peek? with
  | none => fail .escapeUnfinished (← since backslash)
  | some c =>
    if c.isDigit then fail .backreference ⟨backslash, (← ahead).stop⟩
    match hexWidth? c, shorthand? c.toLower with
    | some digits, _ =>
      if !(← step) then fail .escapeUnfinished (← point)
      return .literal (← hexadecimal backslash digits)
    | none, some kind =>
      advance
      return .shorthand (← since backslash) kind c.isUpper
    | none, none =>
      if c = 'p' || c = 'P' then
        if !(← step) then fail .escapeUnfinished (← point)
        property backslash (c = 'P')
      else
        advance
        letterEscape backslash c

end Reader

end GpuTelemetry.Regex
