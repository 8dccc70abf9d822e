import GpuTelemetry.Regex.ByteSequence
import GpuTelemetry.Regex.Expression

/-!
# What matches begin with

A match begins with one of some texts, its beginnings. A search can look for the
beginnings first. If those that it looks for are matches already, nothing is left
for an automaton to decide, and none is built.
-/

namespace GpuTelemetry.Regex

/-- A text that a match begins with. It is full if the match is nothing more. -/
structure Beginning where
  bytes : List Nat
  isFull : Bool := true
  deriving DecidableEq

/-- The members that a set may have if its characters are to be beginnings. -/
def memberLimit : Nat := 10

/-- How often a body is repeated in a beginning. -/
def repetitionLimit : Nat := 10

/-- The bytes that a beginning may have. -/
def beginningLength : Nat := 100

/-- The beginnings that an expression may have. -/
def beginningCount : Nat := 250

/-- The bytes that beginnings keep where they are too many. -/
def crowdedLength : Nat := 4

namespace Beginning

/-- The beginning of a match that is the empty text. -/
def nothing : Beginning where
  bytes := []

/-- What a beginning has in its first bytes. -/
def cut (length : Nat) (beginning : Beginning) : Beginning where
  bytes := beginning.bytes.take length
  isFull := beginning.isFull && beginning.bytes.length ≤ length

/-- What a match begins with if something follows what a beginning stands for. -/
def extend (beginning next : Beginning) : Beginning :=
  if beginning.isFull then { next with bytes := beginning.bytes ++ next.bytes } else beginning

/-- Puts a beginning in front of others. If the first of them has the same bytes, one is left. -/
def cons (beginning : Beginning) : List Beginning → List Beginning
  | other :: others =>
    if beginning.bytes = other.bytes then
      { other with isFull := beginning.isFull && other.isFull } :: others
    else beginning :: other :: others
  | [] => [beginning]

/-- Beginnings without repetitions. -/
def distinct (beginnings : List Beginning) : List Beginning :=
  beginnings.foldr cons []

/-- The beginnings that do not begin with one that is preferred. -/
def minimal (beginnings : List Beginning) : List Beginning :=
  beginnings.foldl (fun kept beginning =>
    if kept.any fun other => other.bytes.isPrefixOf beginning.bytes then kept
    else kept ++ [beginning]) []

theorem bytes_cut (length : Nat) (beginning : Beginning) :
    (beginning.cut length).bytes = beginning.bytes.take length := rfl

theorem cut_of_le {length : Nat} {beginning : Beginning} (h : beginning.bytes.length ≤ length) :
    beginning.cut length = beginning := by
  simp [cut, List.take_of_length_le h, h]

theorem mem_bytes_cons {beginning : Beginning} {beginnings : List Beginning} {bytes : List Nat} :
    bytes ∈ (cons beginning beginnings).map Beginning.bytes ↔
      bytes = beginning.bytes ∨ bytes ∈ beginnings.map Beginning.bytes := by
  cases beginnings with
  | nil => simp [cons]
  | cons other others =>
    by_cases h : beginning.bytes = other.bytes <;> simp [cons, h]

theorem mem_bytes_distinct {beginnings : List Beginning} {bytes : List Nat} :
    bytes ∈ (distinct beginnings).map Beginning.bytes ↔ bytes ∈ beginnings.map Beginning.bytes := by
  induction beginnings with
  | nil => simp [distinct]
  | cons beginning beginnings ih =>
    rw [List.map_cons, List.mem_cons, ← ih]
    exact mem_bytes_cons

end Beginning

/-- The beginnings of an expression in the order in which matches are preferred, unless a match can
begin with anything. -/
abbrev Beginnings := Option (List Beginning)

namespace Beginnings

/-- The beginnings where only the empty text matches. -/
def empty : Beginnings :=
  some [Beginning.nothing]

/-- The beginnings of matches that may go on. -/
def unfinished (beginnings : Beginnings) : Beginnings :=
  beginnings.map fun list => list.map fun beginning => { beginning with isFull := false }

/-- The characters of a set, unless they are too many. -/
def ofSet (set : Unicode.CodePointSet) : Beginnings :=
  let members := fun (first, last) => last + 1 - first
  let size := set.ranges.foldl (fun size range => size + members range) 0
  if memberLimit < size then none
  else
    some <| set.ranges.flatMap fun range =>
      (List.range' range.1 (members range)).map fun n => { bytes := bytesOf n }

/-- What matches begin with where others follow. If they may be too many, the others count as
anything. -/
def follow : Beginnings → Beginnings → Beginnings
  | none, _ => none
  | some beginnings, others =>
    if beginnings.all fun beginning => !beginning.isFull then some beginnings
    else
      match others.filter fun others => beginnings.length * others.length ≤ beginningCount with
      | some others =>
        let extended := beginnings.flatMap fun beginning =>
          if beginning.isFull then others.map beginning.extend else [beginning]
        some ((Beginning.distinct extended).map (Beginning.cut beginningLength))
      | none =>
        if beginnings.any fun beginning => beginning.bytes.isEmpty then none
        else Beginnings.unfinished beginnings

/-- Beginnings and others that are preferred less. If they are too many, they are cut. -/
def unite : Beginnings → Beginnings → Beginnings
  | some beginnings, some others =>
    let cut (list : List Beginning) := Beginning.distinct (list.map (Beginning.cut crowdedLength))
    if beginnings.length + others.length ≤ beginningCount then
      some (Beginning.distinct (beginnings ++ others))
    else if (cut beginnings).length + (cut others).length ≤ beginningCount then
      some (Beginning.distinct (cut beginnings ++ cut others))
    else none
  | _, _ => none

/-- The beginnings of a repetition. -/
def repeated (once : Beginnings) (least : Nat) (most : Option Nat) (greedy : Bool) : Beginnings :=
  if least = 0 then
    let once := if most = some 1 then once else once.unfinished
    if greedy then once.unite empty else empty.unite once
  else
    let all := (List.replicate (min least repetitionLimit) once).foldl follow empty
    if most = some least && least ≤ repetitionLimit then all else all.unfinished

end Beginnings

/-- The ASCII characters that are frequent in most texts. -/
def frequentCharacters : List Char :=
  "\n\r (),-./0129:_abcdefghilmnoprstuvxy|".toList

/-- Whether a byte is rare in most texts. -/
def isRare (byte : Nat) : Bool :=
  byte < 0x80 && !(frequentCharacters.map Char.toNat).contains byte

namespace Beginning

/-- What all beginnings begin with. -/
def common : List Beginning → List Nat
  | [] => []
  | beginning :: others =>
    others.foldl (fun bytes other =>
      ((bytes.zip other.bytes).takeWhile fun pair => pair.1 = pair.2).map Prod.fst) beginning.bytes

/-- Cuts beginnings to a length, and what is left to the next one, as long as there are more of them
than belong to the length. -/
def shorten : (steps : List (Nat × Nat)) → List Beginning → List Beginning
  | [], beginnings => beginnings
  | (length, count) :: steps, beginnings =>
    if beginnings.length ≤ count then beginnings
    else shorten steps (minimal (beginnings.map (cut length)))

/-- The beginnings that a search looks for, which are none if a beginning is empty. If all begin
alike, they may be cut to their first byte or to what they have in common. If they are many, they
are cut further, except that full beginnings stay if what is left of them is short or still too
much. -/
def sought (beginnings : List Beginning) : List Beginning :=
  let kept := minimal beginnings
  let bytes := common kept
  if beginnings.any fun beginning => beginning.bytes.isEmpty then []
  else if 1 < beginnings.length && bytes.length ≤ 3 && bytes.head?.any isRare then
    distinct (kept.map (cut 1))
  else
    let isFew := kept.all isFull && kept.length ≤ 16
    let kept :=
      if 4 < bytes.length || 1 < bytes.length && !isFew then
        distinct (kept.map (cut bytes.length))
      else kept
    let short := shorten [(5, 10), (4, 10), (3, 64), (2, 64), (1, 10)] kept
    let isPoor := 64 < short.length || short.any fun beginning => beginning.bytes.length ≤ 2
    if kept.all isFull && isPoor then kept else short

end Beginning

namespace Expression

/-- Whether some part looks at what surrounds a match. -/
def hasLooks : Expression → Bool
  | look _ => true
  | sequence first rest => first.hasLooks || rest.hasLooks
  | choice first rest => first.hasLooks || rest.hasLooks
  | repeated body _ _ _ => body.hasLooks
  | captured body => body.hasLooks
  | _ => false

/-- The beginnings of an expression behind others or, in a choice, beside others. -/
def beginnings (inChoice : Bool) (others : Beginnings) : Expression → Beginnings
  | empty => add Beginnings.empty
  | literal text =>
    add (some [({ bytes := bytesOfText text } : Beginning).cut beginningLength])
  | oneOf set _ => add (Beginnings.ofSet set)
  | look _ => add Beginnings.empty
  | sequence first rest =>
    if inChoice then add (rest.beginnings false (first.beginnings false Beginnings.empty))
    else rest.beginnings false (first.beginnings false others)
  | choice first rest =>
    if inChoice then rest.beginnings true (first.beginnings true others)
    else add (rest.beginnings true (first.beginnings true (some [])))
  | repeated body least most greedy =>
    add ((body.beginnings false Beginnings.empty).repeated least most greedy)
  | captured body => add (body.beginnings false Beginnings.empty)
where
  /-- Adds the beginnings of a part. -/
  add (part : Beginnings) : Beginnings :=
    if inChoice then others.unite part else others.follow part

/-- Whether a search for beginnings finds all matches and nothing else. -/
def isPlain (expression : Expression) : Bool :=
  let sought := (expression.beginnings false Beginnings.empty).map Beginning.sought
  !expression.hasCaptures && !expression.hasLooks &&
    sought.any fun beginnings => !beginnings.isEmpty && beginnings.all Beginning.isFull

end Expression

end GpuTelemetry.Regex
