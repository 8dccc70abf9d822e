/-!
# UTF-8

One decoder splits a byte string into characters and ill-formed pieces, each
piece being the longest beginning of a character that the bytes spell. `decode?`
accepts well-formed byte strings only; `decodeLossy` puts U+FFFD for each piece.
-/

namespace GpuTelemetry.Text.Utf8

def replacement : Char := '\uFFFD'

/-- Whether `b` may continue a character. -/
def isContinuation (b : UInt8) : Bool :=
  0x80 ≤ b && b ≤ 0xBF

/-- The second bytes allowed after a first byte, with the number of bytes that follow the first. -/
def follow? (b : UInt8) : Option (Nat × UInt8 × UInt8) :=
  if 0xC2 ≤ b && b ≤ 0xDF then some (1, 0x80, 0xBF)
  else if b = 0xE0 then some (2, 0xA0, 0xBF)
  else if b = 0xED then some (2, 0x80, 0x9F)
  else if 0xE1 ≤ b && b ≤ 0xEF then some (2, 0x80, 0xBF)
  else if b = 0xF0 then some (3, 0x90, 0xBF)
  else if b = 0xF4 then some (3, 0x80, 0x8F)
  else if 0xF1 ≤ b && b ≤ 0xF3 then some (3, 0x80, 0xBF)
  else none

/-- The code point spelled by the payload bits of `first` and its `rest`. -/
def codePoint (mask : Nat) (first : UInt8) (rest : List UInt8) : Nat :=
  rest.foldl (fun n b => n * 64 + b.toNat % 64) (first.toNat % mask)

/-- Characters and ill-formed pieces (`none`), in order. -/
def pieces : List UInt8 → List (Option Char)
  | [] => []
  | b :: bs =>
    if b < 0x80 then some (Char.ofNat b.toNat) :: pieces bs
    else
      match follow? b, bs with
      | some (count, low, high), c :: cs =>
        if low ≤ c && c ≤ high then
          match count, cs with
          | 1, ds => some (Char.ofNat (codePoint 32 b [c])) :: pieces ds
          | 2, d :: ds =>
            if isContinuation d then some (Char.ofNat (codePoint 16 b [c, d])) :: pieces ds
            else none :: pieces (d :: ds)
          | _, d :: e :: es =>
            if isContinuation d then
              if isContinuation e then some (Char.ofNat (codePoint 8 b [c, d, e])) :: pieces es
              else none :: pieces (e :: es)
            else none :: pieces (d :: e :: es)
          | _, [d] => if isContinuation d then [none] else none :: pieces [d]
          | _, [] => [none]
        else none :: pieces (c :: cs)
      | _, cs => none :: pieces cs
termination_by bs => bs.length

def decode? (bytes : List UInt8) : Option (List Char) :=
  (pieces bytes).mapM id

def decodeLossy (bytes : List UInt8) : List Char :=
  (pieces bytes).map fun c => c.getD replacement

theorem pieces_nil : pieces [] = [] := by
  simp [pieces]

end GpuTelemetry.Text.Utf8
