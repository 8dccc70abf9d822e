import GpuTelemetry.Json.Basic
import GpuTelemetry.Numeral.Hexadecimal
import GpuTelemetry.Numeral.Integer
import GpuTelemetry.Text.Affix

/-!
# Reading JSON

A reader for one value takes it off the front of a text and gives the rest. The
recursion into nested values is bounded by a number that the length of the text
provides.
-/

namespace GpuTelemetry.Json

def isSpace (c : Char) : Bool :=
  c == ' ' || c == '\t' || c == '\n' || c == '\r'

def skipSpace (s : List Char) : List Char :=
  s.dropWhile isSpace

/-- The number that four hexadecimal digits spell. -/
def hex4? (a b c d : Char) : Option Nat := do
  let a ← Numeral.hexValue? a
  let b ← Numeral.hexValue? b
  let c ← Numeral.hexValue? c
  let d ← Numeral.hexValue? d
  return ((a * 16 + b) * 16 + c) * 16 + d

/-- The character after a backslash, where that is all there is to the escape. -/
def simpleEscape? (c : Char) : Option Char :=
  match c with
  | '"' => some '"'
  | '\\' => some '\\'
  | '/' => some '/'
  | 'b' => some '\x08'
  | 'f' => some '\x0c'
  | 'n' => some '\n'
  | 'r' => some '\r'
  | 't' => some '\t'
  | _ => none

/-- One element of a string: a character, or a 16-bit unit given by an escape. -/
inductive Unit16
  | char (c : Char)
  | unit (n : Nat)

/-- The elements of a string up to its closing quote, and the rest after that. -/
def readUnits? : List Char → Option (List Unit16 × List Char)
  | [] => none
  | '"' :: rest => some ([], rest)
  | '\\' :: 'u' :: a :: b :: c :: d :: rest => do
    let n ← hex4? a b c d
    let (units, rest) ← readUnits? rest
    some (.unit n :: units, rest)
  | '\\' :: c :: rest => do
    let c ← simpleEscape? c
    let (units, rest) ← readUnits? rest
    some (.char c :: units, rest)
  | c :: rest =>
    if c = '\\' || c.toNat < 0x20 then none
    else do
      let (units, rest) ← readUnits? rest
      some (.char c :: units, rest)

def isHigh (n : Nat) : Bool :=
  0xD800 ≤ n && n ≤ 0xDBFF

def isLow (n : Nat) : Bool :=
  0xDC00 ≤ n && n ≤ 0xDFFF

/-- The text of a string, where the two halves of every surrogate pair are together. -/
def joinUnits? : List Unit16 → Option (List Char)
  | [] => some []
  | .char c :: units => (joinUnits? units).map (c :: ·)
  | .unit n :: .unit m :: units =>
    if isHigh n then
      if isLow m then
        (joinUnits? units).map
          (Char.ofNat (0x10000 + (n - 0xD800) * 0x400 + (m - 0xDC00)) :: ·)
      else none
    else if isLow n then none
    else (joinUnits? (.unit m :: units)).map (Char.ofNat n :: ·)
  | .unit n :: units =>
    if isHigh n || isLow n then none else (joinUnits? units).map (Char.ofNat n :: ·)

/-- A string after its opening quote. -/
def readString? (s : List Char) : Option (Option (List Char) × List Char) := do
  let (units, rest) ← readUnits? s
  some (joinUnits? units, rest)

/-- The point and the digits behind it, if there is a point: whether there was one, and the rest. -/
def readPoint? : List Char → Option (Bool × List Char)
  | '.' :: rest =>
    match Numeral.takeDigits 0 0 rest with
    | (_, 0, _) => none
    | (_, _, rest) => some (true, rest)
  | rest => some (false, rest)

/-- The exponent, if there is one: whether there was one, and the rest. -/
def readPower? : List Char → Option (Bool × List Char)
  | c :: rest =>
    if c = 'e' || c = 'E' then
      let digits :=
        match rest with
        | '+' :: rest => rest
        | '-' :: rest => rest
        | rest => rest
      match Numeral.takeDigits 0 0 digits with
      | (_, 0, _) => none
      | (_, _, rest) => some (true, rest)
    else some (false, c :: rest)
  | [] => some (false, [])

/-- A number. More than one digit before the point may not start with zero. -/
def readNumber? (s : List Char) : Option (Json × List Char) := do
  let (negative, digits) :=
    match s with
    | '-' :: rest => (true, rest)
    | rest => (false, rest)
  let (n, count, rest) := Numeral.takeDigits 0 0 digits
  if count = 0 || (1 < count && digits.head? = some '0') then none
  else
    let (point, rest) ← readPoint? rest
    let (power, rest) ← readPower? rest
    some (if point || power then .fraction else .integer negative n, rest)

mutual

/-- A value, white space in front of it allowed. -/
def readValue? : Nat → List Char → Option (Json × List Char)
  | 0, _ => none
  | bound + 1, s =>
    match skipSpace s with
    | '"' :: rest => (readString? rest).map fun (text, rest) => (.string text, rest)
    | '[' :: rest =>
      match skipSpace rest with
      | ']' :: rest => some (.array [], rest)
      | rest => (readItems? bound rest).map fun (items, rest) => (.array items, rest)
    | '\x7b' :: rest =>
      match skipSpace rest with
      | '\x7d' :: rest => some (.object [], rest)
      | rest => (readMembers? bound rest).map fun (members, rest) => (.object members, rest)
    | rest =>
      match Text.stripStart? "null".toList rest with
      | some rest => some (.null, rest)
      | none =>
        match Text.stripStart? "true".toList rest with
        | some rest => some (.bool true, rest)
        | none =>
          match Text.stripStart? "false".toList rest with
          | some rest => some (.bool false, rest)
          | none => readNumber? rest

/-- One or more items of an array and the closing bracket. -/
def readItems? : Nat → List Char → Option (List Json × List Char)
  | 0, _ => none
  | bound + 1, s => do
    let (item, rest) ← readValue? bound s
    match skipSpace rest with
    | ']' :: rest => some ([item], rest)
    | ',' :: rest =>
      let (items, rest) ← readItems? bound rest
      some (item :: items, rest)
    | _ => none

/-- One or more members of an object and the closing brace. -/
def readMembers? : Nat → List Char → Option (List (Option (List Char) × Json) × List Char)
  | 0, _ => none
  | bound + 1, s => do
    match skipSpace s with
    | '"' :: rest =>
      let (name, rest) ← readString? rest
      match skipSpace rest with
      | ':' :: rest =>
        let (value, rest) ← readValue? bound rest
        match skipSpace rest with
        | '\x7d' :: rest => some ([(name, value)], rest)
        | ',' :: rest =>
          let (members, rest) ← readMembers? bound rest
          some ((name, value) :: members, rest)
        | _ => none
      | _ => none
    | _ => none

end

/-- The value that a whole text is, white space around it allowed. -/
def read? (text : List Char) : Option Json := do
  let (value, rest) ← readValue? (text.length + 1) text
  if (skipSpace rest).isEmpty then some value else none

end GpuTelemetry.Json
