import GpuTelemetry.Regex.Look

/-!
# Regular expressions

What a pattern means, apart from how it is written. `Expression.ofSet`,
`Expression.sequenceOf`, `Expression.choiceOf` and `Expression.times` build
expressions in a normal form: texts that follow one another are one text, a
choice between characters is a set, and what all branches begin with stands in
front of the choice. An expression in normal form is what its size is counted of.
-/

namespace GpuTelemetry.Regex

open Unicode (CodePointSet)

inductive Expression
  | empty
  /-- Characters one after the other. -/
  | literal (text : List Char)
  /-- One character of a set, which may be a set of bytes. -/
  | oneOf (set : CodePointSet) (isBytes : Bool)
  | look (required : Look)
  /-- A part and the parts after it. -/
  | sequence (first rest : Expression)
  /-- A branch and the branches after it. -/
  | choice (first rest : Expression)
  /-- A repetition, which may try many times before few. -/
  | repeated (body : Expression) (least : Nat) (most : Option Nat) (greedy : Bool)
  /-- A part that a reader of matches can ask for. -/
  | captured (body : Expression)
  deriving DecidableEq

namespace Expression

def parts : Expression → List Expression
  | empty => []
  | sequence first rest => first :: rest.parts
  | other => [other]

/-- The branches of a choice. -/
def branches : Expression → List Expression
  | choice first rest => first :: rest.branches
  | other => [other]

/-- Whether only the empty text can match. -/
def isEmptyOnly : Expression → Bool
  | empty => true
  | literal _ => false
  | oneOf _ _ => false
  | look _ => true
  | sequence first rest => first.isEmptyOnly && rest.isEmptyOnly
  | choice first rest => first.isEmptyOnly && rest.isEmptyOnly
  | repeated body _ _ _ => body.isEmptyOnly
  | captured body => body.isEmptyOnly

def hasCaptures : Expression → Bool
  | sequence first rest => first.hasCaptures || rest.hasCaptures
  | choice first rest => first.hasCaptures || rest.hasCaptures
  | repeated body _ _ _ => body.hasCaptures
  | captured _ => true
  | _ => false

/-- Whether two parts are the same. No two captures are. -/
def agrees (a b : Expression) : Bool :=
  !a.hasCaptures && a = b

def nothing : Expression :=
  oneOf CodePointSet.empty true

/-- One character of a set. -/
def ofSet (isBytes : Bool) (set : CodePointSet) : Expression :=
  match set.normalized with
  | [] => nothing
  | [(first, last)] =>
    if first = last then literal [Char.ofNat first]
    else oneOf ⟨[(first, last)]⟩ isBytes
  | ranges => oneOf ⟨ranges⟩ isBytes

/-- Puts a part in front of others, to which it is joined if both are texts. -/
def cons : Expression → List Expression → List Expression
  | literal text, literal others :: rest => literal (text ++ others) :: rest
  | part, rest => part :: rest

/-- Parts as they are, in a sequence. -/
def inSequence : List Expression → Expression
  | [] => empty
  | [part] => part
  | part :: rest => sequence part (inSequence rest)

/-- Branches as they are, in a choice. -/
def inChoice : List Expression → Expression
  | [] => nothing
  | [branch] => branch
  | branch :: rest => choice branch (inChoice rest)

def sequenceOf (parts : List Expression) : Expression :=
  inSequence ((parts.flatMap Expression.parts).foldr cons [])

def character? : Expression → Option Char
  | literal [c] => some c
  | _ => none

def set? : Expression → Option CodePointSet
  | oneOf set _ => some set
  | _ => none

/-- The set that some branches make up if all are characters or all are sets. -/
def setOf? (branches : List Expression) : Option CodePointSet :=
  match branches.mapM character?, branches.mapM set? with
  | some characters, _ => some (CodePointSet.unions (characters.map CodePointSet.singleton))
  | none, some sets => some (CodePointSet.unions sets)
  | none, none => none

/-- A choice between branches, which may have a common beginning. -/
def plainChoiceOf (branches : List Expression) : Expression :=
  match branches.flatMap Expression.branches with
  | [branch] => branch
  | branches =>
    match setOf? branches with
    | some set => ofSet false set
    | none => inChoice branches

/-- The length of the longest common beginning. -/
def commonLength : List Expression → List Expression → Nat
  | a :: as, b :: bs => if a.agrees b then commonLength as bs + 1 else 0
  | _, _ => 0

/-- The number of parts that a branch has in common with all others at the beginning. A branch of
a single part has none. -/
def sharedLength (first : Expression) (others : List Expression) : Nat :=
  let shared (branch : Expression) : Nat :=
    if 2 ≤ branch.parts.length then commonLength first.parts branch.parts else 0
  others.foldl (fun n branch => min n (shared branch)) (shared first)

/-- A choice between branches. What they have in common at the beginning comes first. -/
def choiceOf (branches : List Expression) : Expression :=
  match branches.flatMap Expression.branches with
  | [] => nothing
  | [branch] => branch
  | first :: others =>
    match sharedLength first others with
    | 0 => plainChoiceOf (first :: others)
    | n =>
      let ends := (first :: others).map fun branch => sequenceOf (branch.parts.drop n)
      sequenceOf (first.parts.take n ++ [plainChoiceOf ends])

/-- A repetition, unless it stands for the empty text or for its body. The empty text need not be
repeated. -/
def times (body : Expression) (least : Nat) (most : Option Nat) (greedy : Bool) : Expression :=
  let (least, most) :=
    if body.isEmptyOnly then (min least 1, some (min (most.getD 1) 1)) else (least, most)
  if most = some 0 then empty
  else if least = 1 && most = some 1 then body
  else repeated body least most greedy

end Expression

end GpuTelemetry.Regex
