/-!
# Sequences of bytes

In UTF-8 a code point is written in one to four bytes. The code points of a
range are written as a few sequences of ranges of bytes.
-/

namespace GpuTelemetry.Regex

/-- The number of bytes of a code point. -/
def width (n : Nat) : Nat :=
  if n < 0x80 then 1 else if n < 0x800 then 2 else if n < 0x10000 then 3 else 4

/-- The bytes of a code point. -/
def bytesOf (n : Nat) : List Nat :=
  let tail (shift : Nat) : Nat := 0x80 + (n >>> shift) % 64
  match width n with
  | 1 => [n]
  | 2 => [0xC0 + (n >>> 6), tail 0]
  | 3 => [0xE0 + (n >>> 12), tail 6, tail 0]
  | _ => [0xF0 + (n >>> 18), tail 12, tail 6, tail 0]

theorem length_bytesOf (n : Nat) : (bytesOf n).length = width n := by
  unfold bytesOf width
  split <;> grind

def bytesOfText (text : List Char) : List Nat :=
  text.flatMap fun c => bytesOf c.toNat

/-- A range of bytes for each byte of a code point. -/
abbrev ByteSequence := List (Nat × Nat)

/-- Where the first part of a range ends whose code points are not written alike: at a change of
the number of bytes, before and after the surrogates, and where a block of following bytes is
entered or left that the range does not fill. -/
def division? (first last : Nat) : Option Nat :=
  let ends := [0x7F, 0x7FF, 0xD7FF, 0xDFFF, 0xFFFF].filter fun n => first ≤ n && n < last
  let block (bits : Nat) : Option Nat :=
    let size := 1 <<< bits
    if first / size = last / size then none
    else if first % size ≠ 0 then some (first / size * size + size - 1)
    else if last % size ≠ size - 1 then some (last / size * size - 1)
    else none
  match ends with
  | n :: _ => some n
  | [] => if last < 0x80 then none else ((block 6).or (block 12)).or (block 18)

/-- The sequences that the code points of a range are written as, in order, if the range is
divided at most `depth` times. -/
def sequencesOf : (depth : Nat) → (first last : Nat) → List ByteSequence
  | 0, _, _ => []
  | depth + 1, first, last =>
    match division? first last with
    | some n => sequencesOf depth first n ++ sequencesOf depth (n + 1) last
    | none =>
      if 0xD800 ≤ first && last ≤ 0xDFFF then []
      else [(bytesOf first).zip (bytesOf last)]

/-- The sequences that the code points of some ranges are written as. No range is divided more
than 32 times. -/
def byteSequences (ranges : List (Nat × Nat)) : List ByteSequence :=
  ranges.flatMap fun range => sequencesOf 32 range.1 range.2

end GpuTelemetry.Regex
