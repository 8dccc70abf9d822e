import GpuTelemetry.Text.Split

/-!
# White space

The characters with the Unicode property White_Space, and the three ways the
readers of this library use them: trimming the start of a text, trimming both
ends, and splitting a text into words.
-/

namespace GpuTelemetry.Text

/-- The ranges of code points with the property White_Space. -/
def blankRanges : List (Nat × Nat) :=
  [(0x9, 0xD), (0x20, 0x20), (0x85, 0x85), (0xA0, 0xA0), (0x1680, 0x1680), (0x2000, 0x200A),
    (0x2028, 0x2029), (0x202F, 0x202F), (0x205F, 0x205F), (0x3000, 0x3000)]

def isBlank (c : Char) : Bool :=
  blankRanges.any fun r => r.1 ≤ c.toNat && c.toNat ≤ r.2

def trimStart (s : List Char) : List Char :=
  s.dropWhile isBlank

def trimEnd (s : List Char) : List Char :=
  (s.reverse.dropWhile isBlank).reverse

def trim (s : List Char) : List Char :=
  trimEnd (trimStart s)

/-- The maximal runs of characters that are not white space, in order. -/
def words (s : List Char) : List (List Char) :=
  (splitBy isBlank s).filter fun w => !w.isEmpty

theorem words_append_cons {c : Char} (hc : isBlank c = true) (s t : List Char) :
    words (s ++ c :: t) = words s ++ words t := by
  rw [words, splitBy_append_cons hc, List.filter_append]
  rfl

theorem words_cons {c : Char} (hc : isBlank c = true) (t : List Char) :
    words (c :: t) = words t :=
  words_append_cons hc [] t

end GpuTelemetry.Text
