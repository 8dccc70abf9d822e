import GpuTelemetry.Numeral.Hexadecimal
import GpuTelemetry.Text.Split

/-!
# Sets of code points

A set is a list of ranges, which may overlap and come in any order. What a set
holds is `has`, and each operation has its equation there. Surrogates are no
characters, so ranges neither begin nor end among them.
-/

namespace GpuTelemetry.Unicode

structure CodePointSet where
  ranges : List (Nat × Nat)
  deriving DecidableEq

namespace CodePointSet

def last : Nat := 0x10FFFF

def empty : CodePointSet where
  ranges := []

def all : CodePointSet where
  ranges := [(0, last)]

def range (first last : Nat) : CodePointSet where
  ranges := [(first, last)]

def singleton (c : Char) : CodePointSet :=
  range c.toNat c.toNat

def inRange (n : Nat) (range : Nat × Nat) : Bool :=
  range.1 ≤ n && n ≤ range.2

def contains (set : CodePointSet) (n : Nat) : Bool :=
  set.ranges.any (inRange n)

def has (set : CodePointSet) (c : Char) : Bool :=
  set.contains c.toNat

def union (a b : CodePointSet) : CodePointSet where
  ranges := a.ranges ++ b.ranges

def unions (sets : List CodePointSet) : CodePointSet where
  ranges := sets.flatMap ranges

def surrogates : CodePointSet where
  ranges := [(0xD800, 0xDFFF)]

/-- The code point after another one, surrogates aside. -/
def next (n : Nat) : Nat :=
  if n = 0xD7FF then 0xE000 else n + 1

/-- The code point before another one, surrogates aside. -/
def previous (n : Nat) : Nat :=
  if n = 0xE000 then 0xD7FF else n - 1

/-- What is left of a range without the code points of another one. -/
def cut (taken range : Nat × Nat) : List (Nat × Nat) :=
  (if range.1 < taken.1 then [(range.1, min range.2 (previous taken.1))] else [])
    ++ if taken.2 < range.2 then [(max range.1 (next taken.2), range.2)] else []

/-- What two ranges have in common. -/
def meet (a b : Nat × Nat) : Option (Nat × Nat) :=
  let first := max a.1 b.1
  let last := min a.2 b.2
  if first ≤ last then some (first, last) else none

def diff (a b : CodePointSet) : CodePointSet where
  ranges := b.ranges.foldl (fun rest taken => rest.flatMap (cut taken)) a.ranges

def inter (a b : CodePointSet) : CodePointSet where
  ranges := a.ranges.flatMap fun range => b.ranges.filterMap (meet range)

def symmDiff (a b : CodePointSet) : CodePointSet :=
  (a.union b).diff (a.inter b)

/-- Whether all members are ASCII characters. -/
def isAscii (a : CodePointSet) : Bool :=
  a.ranges.all fun r => r.2 < 0x80

/-- Joins a range with the ranges after it that begin inside it or right behind it. -/
def join : Nat × Nat → List (Nat × Nat) → List (Nat × Nat)
  | range, [] => [range]
  | range, next :: rest =>
    if next.1 ≤ range.2 + 1 then join (range.1, max range.2 next.2) rest
    else range :: join next rest

/-- The ranges of a set in order, as few as possible. -/
def normalized (set : CodePointSet) : List (Nat × Nat) :=
  match set.ranges.mergeSort fun a b => a.1 ≤ b.1 with
  | [] => []
  | range :: rest => join range rest

/-- What lies between neighbours in a list of ranges, and behind the last one. Two ranges that
only the surrogates divide have no gap, and there the two code points that border on the surrogates
are taken instead. -/
def gaps : List (Nat × Nat) → List (Nat × Nat)
  | [] => []
  | [range] => if range.2 < last then [(next range.2, last)] else []
  | range :: other :: rest =>
    let first := next range.2
    let last := previous other.1
    (min first last, max first last) :: gaps (other :: rest)

def complement (set : CodePointSet) : CodePointSet :=
  match set.normalized with
  | [] => all
  | range :: rest =>
    { ranges := (if 0 < range.1 then [(0, previous range.1)] else []) ++ gaps (range :: rest) }

/-- The number that hexadecimal digits stand for. -/
def number (digits : List Char) : Nat :=
  digits.foldl (fun n c => n * 16 + (Numeral.hexValue? c).getD 0) 0

def every (first last step : Nat) : List (Nat × Nat) :=
  (List.range ((last - first) / step + 1)).map fun i => (first + i * step, first + i * step)

/-- The ranges that a word lists: `C0` is a code point, `41-5A` a range, and `100-12E/2` every
other code point of a range. -/
def ofWord (word : List Char) : List (Nat × Nat) :=
  match Text.splitBy (· == '-') word with
  | [first, last] =>
    match Text.splitBy (· == '/') last with
    | [last, step] => every (number first) (number last) (number step)
    | _ => [(number first, number last)]
  | _ => [(number word, number word)]

/-- The set that a text lists, such as `41-5A C0`. -/
def ofText (text : String) : CodePointSet where
  ranges := (Text.splitBy (· == ' ') text.toList).flatMap ofWord

/-- The union of the sets that some texts list. -/
def ofLines (lines : List String) : CodePointSet :=
  unions (lines.map ofText)

theorem has_union (a b : CodePointSet) (c : Char) : (a.union b).has c = (a.has c || b.has c) := by
  simp [has, contains, union]

theorem le_previous_iff {m : Nat} {c : Char} (h : 0 < m) :
    c.toNat ≤ previous m ↔ c.toNat < m := by
  have valid : c.toNat.isValidChar := c.valid
  unfold previous
  unfold Nat.isValidChar at valid
  split <;> omega

theorem next_le_iff {m : Nat} {c : Char} : next m ≤ c.toNat ↔ m < c.toNat := by
  have valid : c.toNat.isValidChar := c.valid
  unfold next
  unfold Nat.isValidChar at valid
  split <;> omega

theorem any_cut {taken range : Nat × Nat} (c : Char) :
    (cut taken range).any (inRange c.toNat) =
      (inRange c.toNat range && !inRange c.toNat taken) := by
  have below (h : range.1 < taken.1) : c.toNat ≤ previous taken.1 ↔ c.toNat < taken.1 :=
    le_previous_iff (by omega)
  have above : next taken.2 ≤ c.toNat ↔ taken.2 < c.toNat := next_le_iff
  unfold cut
  rw [List.any_append]
  split <;> split <;> simp only [List.any_cons, List.any_nil, inRange] <;> grind

theorem any_flatMap_cut (taken : Nat × Nat) (ranges : List (Nat × Nat)) (c : Char) :
    (ranges.flatMap (cut taken)).any (inRange c.toNat) =
      (ranges.any (inRange c.toNat) && !inRange c.toNat taken) := by
  induction ranges with
  | nil => rfl
  | cons r rs ih =>
    rw [List.flatMap_cons, List.any_append, ih, any_cut, List.any_cons]
    cases inRange c.toNat r <;> cases inRange c.toNat taken <;> simp

theorem has_diff (a b : CodePointSet) (c : Char) : (a.diff b).has c = (a.has c && !b.has c) := by
  obtain ⟨as⟩ := a
  obtain ⟨bs⟩ := b
  simp only [has, contains, diff]
  induction bs generalizing as with
  | nil => simp
  | cons r rs ih =>
    rw [List.foldl_cons, ih, any_flatMap_cut, List.any_cons]
    cases inRange c.toNat r <;> simp

theorem any_filterMap_meet (range : Nat × Nat) (ranges : List (Nat × Nat)) (n : Nat) :
    (ranges.filterMap (meet range)).any (inRange n) =
      (inRange n range && ranges.any (inRange n)) := by
  induction ranges with
  | nil => simp
  | cons r rs ih =>
    have met : (meet range r).any (inRange n) = (inRange n range && inRange n r) := by
      unfold meet inRange
      grind
    rw [List.filterMap_cons, List.any_cons]
    cases h : meet range r with
    | none =>
      rw [h] at met
      simp only [ih]
      grind
    | some s =>
      rw [h] at met
      simp only [List.any_cons, ih]
      grind

theorem has_inter (a b : CodePointSet) (c : Char) : (a.inter b).has c = (a.has c && b.has c) := by
  obtain ⟨as⟩ := a
  obtain ⟨bs⟩ := b
  simp only [has, contains, inter]
  induction as with
  | nil => simp
  | cons r rs ih =>
    rw [List.flatMap_cons, List.any_append, any_filterMap_meet, ih, List.any_cons]
    grind

end CodePointSet

end GpuTelemetry.Unicode
