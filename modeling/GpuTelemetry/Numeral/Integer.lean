/-!
# Integers in decimal notation

A numeral is an optional sign and one or more ASCII digits. Reading goes from
left to right and reports the first thing that goes wrong, so a numeral that is
out of range and also malformed is judged by whichever comes first.
-/

namespace GpuTelemetry

inductive NumeralError
  | empty
  | invalidDigit
  | tooLarge
  | tooSmall
  deriving DecidableEq

namespace Numeral

def digit? (c : Char) : Option Nat :=
  if '0' ≤ c ∧ c ≤ '9' then some (c.toNat - '0'.toNat) else none

/-- Appends the digits of a text to the number read so far, which must stay within `limit`. -/
def readDigits (limit : Nat) (excess : NumeralError) : Nat → List Char → Except NumeralError Nat
  | n, [] => .ok n
  | n, c :: cs =>
    match digit? c with
    | none => .error .invalidDigit
    | some d =>
      if n * 10 + d ≤ limit then readDigits limit excess (n * 10 + d) cs else .error excess

/-- The value of the leading digits appended to `n`, how many they are, and what follows them. -/
def takeDigits : Nat → Nat → List Char → Nat × Nat × List Char
  | n, count, [] => (n, count, [])
  | n, count, c :: cs =>
    match digit? c with
    | some d => takeDigits (n * 10 + d) (count + 1) cs
    | none => (n, count, c :: cs)

/-- A numeral from 0 to `limit`; a plus sign is allowed. -/
def readUnsigned (limit : Nat) : List Char → Except NumeralError Nat
  | [] => .error .empty
  | ['+'] => .error .invalidDigit
  | '+' :: cs => readDigits limit .tooLarge 0 cs
  | cs => readDigits limit .tooLarge 0 cs

/-- A numeral from `-bound` to `bound - 1`; either sign is allowed. -/
def readSigned (bound : Nat) : List Char → Except NumeralError Int
  | [] => .error .empty
  | ['+'] => .error .invalidDigit
  | ['-'] => .error .invalidDigit
  | '+' :: cs => (readDigits (bound - 1) .tooLarge 0 cs).map Int.ofNat
  | '-' :: cs => (readDigits bound .tooSmall 0 cs).map fun n => -(n : Int)
  | cs => (readDigits (bound - 1) .tooLarge 0 cs).map Int.ofNat

/-- A file descriptor number: 32 bits, signed. -/
def readInt32? (cs : List Char) : Option Int :=
  (readSigned (1 <<< 31) cs).toOption

def digitChar (d : Nat) : Char :=
  Char.ofNat ('0'.toNat + d)

/-- The digits of `n`, most significant first, put in front of `tail`; there are at most `fuel`. -/
def writeDigits : Nat → Nat → List Char → List Char
  | 0, _, tail => tail
  | fuel + 1, n, tail =>
    if n < 10 then digitChar n :: tail
    else writeDigits fuel (n / 10) (digitChar (n % 10) :: tail)

def write (n : Nat) : List Char :=
  writeDigits (n + 1) n []

end Numeral

theorem Numeral.digit?_digitChar {d : Nat} (h : d < 10) :
    Numeral.digit? (Numeral.digitChar d) = some d := by
  have hd : d = 0 ∨ d = 1 ∨ d = 2 ∨ d = 3 ∨ d = 4 ∨ d = 5 ∨ d = 6 ∨ d = 7 ∨ d = 8 ∨ d = 9 := by
    omega
  rcases hd with h | h | h | h | h | h | h | h | h | h <;> subst h <;> decide

end GpuTelemetry
