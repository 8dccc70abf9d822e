import GpuTelemetry.Numeral.Integer
import GpuTelemetry.Text.Affix

/-!
# Decimal fractions

The notation of a real number in a sensor file: an optional sign, then digits
with an optional point and an optional power of ten, or one of the names for
infinity and for no number. `Decimal.read?` gives the exact number written.
-/

namespace GpuTelemetry

inductive Decimal
  /-- The number `mantissa * 10 ^ exponent`, negated if asked for. -/
  | finite (negative : Bool) (mantissa : Nat) (exponent : Int)
  | infinite (negative : Bool)
  | notANumber
  deriving DecidableEq

namespace Decimal

def readSign : List Char → Bool × List Char
  | '-' :: cs => (true, cs)
  | '+' :: cs => (false, cs)
  | cs => (false, cs)

/-- The power of ten at the end of a number: nothing, or a letter e and an integer. -/
def readExponent? : List Char → Option Int
  | [] => some 0
  | c :: cs =>
    if c = 'e' ∨ c = 'E' then
      let (negative, digits) := readSign cs
      match Numeral.takeDigits 0 0 digits with
      | (n, _ + 1, []) => some (if negative then -(n : Int) else n)
      | _ => none
    else none

/-- A number without its sign. -/
def readMagnitude? (negative : Bool) (cs : List Char) : Option Decimal :=
  let (whole, wholeCount, rest) := Numeral.takeDigits 0 0 cs
  let (mantissa, fractionCount, rest) :=
    match rest with
    | '.' :: fraction => Numeral.takeDigits whole 0 fraction
    | _ => (whole, 0, rest)
  if wholeCount + fractionCount = 0 then none
  else (readExponent? rest).map fun e => .finite negative mantissa (e - fractionCount)

/-- The names of the values that have no digits, in any case. -/
def readName? (negative : Bool) (cs : List Char) : Option Decimal :=
  let name := cs.map Char.toLower
  if name = "inf".toList ∨ name = "infinity".toList then some (.infinite negative)
  else if name = "nan".toList then some .notANumber
  else none

def read? (cs : List Char) : Option Decimal :=
  let (negative, rest) := readSign cs
  (readMagnitude? negative rest).or (readName? negative rest)

end Decimal

end GpuTelemetry
