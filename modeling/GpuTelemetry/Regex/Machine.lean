import GpuTelemetry.Regex.Expression

/-!
# Machines

A machine reads a text one character at a time and keeps track of all matches of
an expression at once. It has a part for each part of the expression, and knows
of each whether a match of it ends at the present position. `Expression.isMatch`
says whether a part of a text matches.
-/

namespace GpuTelemetry.Regex

open Unicode (CodePointSet)

/-- What is known of a part of a machine at the present position. -/
structure Status where
  /-- Whether the empty text matches here. -/
  passes : Bool
  /-- Whether a match ends here that has read something. -/
  ends : Bool
  /-- Whether something inside has a match that ends here. -/
  isBusy : Bool
  /-- Whether the empty text matches at all positions or at none. -/
  isSteady : Bool

namespace Status

def accepts (status : Status) : Bool :=
  status.passes || status.ends

def sequence (first second : Status) : Status where
  passes := first.passes && second.passes
  ends := second.ends || first.ends && second.passes
  isBusy := first.isBusy || second.isBusy
  isSteady := first.isSteady && second.isSteady

def choice (first second : Status) : Status where
  passes := first.passes || second.passes
  ends := first.ends || second.ends
  isBusy := first.isBusy || second.isBusy
  isSteady := first.isSteady && second.isSteady

def star (body : Status) : Status :=
  { body with passes := true }

end Status

inductive Machine
  | empty
  /-- Reads a character of a set, and has just done so if that is said. -/
  | oneOf (set : CodePointSet) (ends : Bool)
  | look (required : Look) (passes : Bool)
  | sequence (first second : Machine) (status : Status)
  | choice (first second : Machine) (status : Status)
  | star (body : Machine) (status : Status)
  /-- So many machines one after the other, all alike. There is at least one. -/
  | copies (count : Nat) (body : Machine)

namespace Machine

def status : Machine → Status
  | empty => ⟨true, false, false, true⟩
  | oneOf _ ends => ⟨false, ends, ends, true⟩
  | look _ passes => ⟨passes, false, false, false⟩
  | sequence _ _ status => status
  | choice _ _ status => status
  | star _ status => status
  | copies _ body => body.status

def andThen (first second : Machine) : Machine :=
  sequence first second (first.status.sequence second.status)

def orElse (first second : Machine) : Machine :=
  choice first second (first.status.choice second.status)

def many (body : Machine) : Machine :=
  star body body.status.star

@[simp] theorem status_andThen (first second : Machine) :
    (first.andThen second).status = first.status.sequence second.status := rfl

@[simp] theorem status_orElse (first second : Machine) :
    (first.orElse second).status = first.status.choice second.status := rfl

@[simp] theorem status_many (body : Machine) : body.many.status = body.status.star := rfl

/-- Reads the characters of a text. -/
def ofText (text : List Char) : Machine :=
  text.foldr (fun c rest => (oneOf (CodePointSet.singleton c) false).andThen rest) empty

/-- A machine so many times in sequence, and then another one. -/
def times (count : Nat) (body rest : Machine) : Machine :=
  if count = 0 then rest else (copies count body).andThen rest

/-- Whether a match may begin behind a machine, if `begins` says so of the position before it. -/
def passesOn (begins : Bool) (machine : Machine) : Bool :=
  begins && machine.status.passes || machine.status.ends

/-- Behind the second of several machines alike nothing changes any more. -/
theorem passesOn_passesOn (begins : Bool) (machine : Machine) :
    (machine.passesOn (machine.passesOn begins)) = machine.passesOn begins := by
  simp only [passesOn]
  cases begins <;> cases machine.status.passes <;> cases machine.status.ends <;> rfl

/-- Whether nothing in a machine changes at the next position. -/
def isIdle (begins : Bool) (status : Status) : Bool :=
  !begins && !status.isBusy && status.isSteady

/-- The machine after it has read `c` and come to a position, where `begins` says whether a match
may begin before `c`. Of several machines alike only the first one can fare differently. -/
def step (c : Char) (here : Surroundings) (begins : Bool) : Machine → Machine
  | empty => empty
  | oneOf set _ => oneOf set (begins && set.has c)
  | look required _ => look required (required.holds here)
  | sequence first second status =>
    if isIdle begins status then sequence first second status
    else (first.step c here begins).andThen (second.step c here (first.passesOn begins))
  | choice first second status =>
    if isIdle begins status then choice first second status
    else (first.step c here begins).orElse (second.step c here begins)
  | star body status =>
    if isIdle begins status then star body status
    else (body.step c here (begins || body.status.ends)).many
  | copies count body =>
    if isIdle begins body.status then copies count body
    else
      let first := body.step c here begins
      if count = 1 || body.passesOn begins = begins then copies count first
      else first.andThen (copies (count - 1) (body.step c here (body.passesOn begins)))

/-- Whether a match ends here or later. -/
def finds : Machine → List Char → Bool
  | machine, [] => machine.status.accepts
  | machine, c :: cs =>
    machine.status.accepts
      || (machine.step c (Surroundings.between (some c) cs.head?) true).finds cs

end Machine

namespace Expression

/-- The machine for an expression, at the beginning of a text. -/
def machine (here : Surroundings) : Expression → Machine
  | empty => .empty
  | literal text => .ofText text
  | oneOf set _ => .oneOf set false
  | look required => .look required (required.holds here)
  | sequence first rest => (first.machine here).andThen (rest.machine here)
  | choice first rest => (first.machine here).orElse (rest.machine here)
  | repeated body least most _ =>
    let body := body.machine here
    .times least body
      (match most with
      | none => body.many
      | some most => .times (most - least) (Machine.empty.orElse body) .empty)
  | captured body => body.machine here

def isMatch (expression : Expression) (text : List Char) : Bool :=
  (expression.machine (Surroundings.between none text.head?)).finds text

end Expression

end GpuTelemetry.Regex
