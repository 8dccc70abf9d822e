import GpuTelemetry.Numeral.Decimal
import GpuTelemetry.Numeral.Word

/-!
# Binary floating point with 53 significant bits

Percentages are computed in binary floating point and then rounded to whole
numbers, so each operation has to round as a 64-bit float does: to the nearest
number of 53 significant bits, a tie going to the even one. The numbers here are
nonnegative and their exponents unbounded, which no caller can tell from the
real format, because every result is cut down to a word in the end.
-/

namespace GpuTelemetry

/-- The number `numerator / 2 ^ scale`. -/
structure Binary64 where
  numerator : Nat
  scale : Nat
  deriving DecidableEq

namespace Binary64

/-- `n / d` to the nearest whole number, a tie going to the even one. -/
def roundHalfEven (n d : Nat) : Nat :=
  let q := n / d
  let r := n % d
  if 2 * r < d then q
  else if d < 2 * r then q + 1
  else if q % 2 = 0 then q else q + 1

/-- The number nearest to `n / d` whose last significant bit stands for `2 ^ -place`. -/
def atPlace (n d : Nat) (place : Int) : Binary64 :=
  match place with
  | .ofNat s => ⟨roundHalfEven (n <<< s) d, s⟩
  | .negSucc s => ⟨roundHalfEven n (d <<< (s + 1)) <<< (s + 1), 0⟩

/-- `n / d` in units of `2 ^ -place`, rounded down. -/
def unitsAt (n d : Nat) (place : Int) : Nat :=
  match place with
  | .ofNat s => (n <<< s) / d
  | .negSucc s => n / (d <<< (s + 1))

/-- The number of 53 significant bits nearest to `n / d`. -/
def ofRatio (n d : Nat) : Binary64 :=
  if n = 0 then ⟨0, 0⟩
  else
    let place : Int := 52 - ((Nat.log2 n : Int) - Nat.log2 d)
    if unitsAt n d place < 1 <<< 52 then atPlace n d (place + 1) else atPlace n d place

def ofNat (n : Nat) : Binary64 :=
  ofRatio n 1

def add (x y : Binary64) : Binary64 :=
  ofRatio ((x.numerator <<< y.scale) + (y.numerator <<< x.scale)) (1 <<< (x.scale + y.scale))

def mul (x y : Binary64) : Binary64 :=
  ofRatio (x.numerator * y.numerator) (1 <<< (x.scale + y.scale))

def div (x y : Binary64) : Binary64 :=
  ofRatio (x.numerator <<< y.scale) (y.numerator <<< x.scale)

/-- The nearest whole number, a half going up. -/
def round (x : Binary64) : Nat :=
  (2 * x.numerator + (1 <<< x.scale)) >>> (x.scale + 1)

def floor (x : Binary64) : Nat :=
  x.numerator >>> x.scale

/-- Powers of ten beyond this one are taken for it: on either side every value is far out of the
range of a word, or far below one half. -/
def exponentLimit : Nat := 400

def decimalDigits (n : Nat) : Nat :=
  (Numeral.write n).length

/-- The number nearest to `mantissa * 10 ^ exponent`. -/
def ofDecimal (mantissa : Nat) (exponent : Int) : Binary64 :=
  match exponent with
  | .ofNat e => ofRatio (mantissa * Nat.pow 10 (min e exponentLimit)) 1
  | .negSucc e =>
    if decimalDigits mantissa + exponentLimit < e + 1 then ⟨0, 0⟩
    else ofRatio mantissa (Nat.pow 10 (e + 1))

end Binary64

/-- The word for a decimal made whole by `whole`: the largest one if it is too large, and zero if
it is negative or no number. -/
def Decimal.toWord {α : Type} [Word α] (whole : Binary64 → Nat) : Decimal → α
  | .finite false m e => Word.saturate (whole (Binary64.ofDecimal m e))
  | .infinite false => Word.saturate (Word.size α)
  | _ => Word.ofNat 0

end GpuTelemetry
