import GpuTelemetry.Command.Options

/-!
# Command-line arguments

Arguments are read from left to right. The value of a switch may be joined to it
or be the argument after it; in the second case it is looked at only when the
next switch, or the end, has been reached. A switch with a value may not come
twice, and there are no arguments apart from switches and their values.
-/

namespace GpuTelemetry.Command

/-- What the arguments ask for. -/
inductive Request
  | monitor (options : Options)
  | help (long : Bool)
  | version

/-- A reading of arguments that is over early. -/
inductive Halt
  | wrong (error : UsageError)
  | answered (request : Request)

structure Progress where
  options : Options := {}
  seen : List Switch := []
  /-- The last switch with its value, if that was not joined to it. -/
  pending : Option (Switch × Option String) := none

namespace Progress

/-- Whether the next argument is the value of a switch. -/
def awaiting (progress : Progress) : Option Switch :=
  match progress.pending with
  | some (switch, none) => some switch
  | _ => none

/-- Marks a switch as used. -/
def use (progress : Progress) (switch : Switch) : Except Halt Progress :=
  if progress.seen.contains switch then .error (.wrong (.repeated switch))
  else .ok { progress with seen := switch :: progress.seen }

def assign (progress : Progress) (switch : Switch) (text : String) : Except Halt Progress := do
  let progress ← progress.use switch
  match progress.options.assign switch text with
  | .ok options => return { progress with options }
  | .error error => throw (.wrong error)

/-- Looks at the value that was left pending. -/
def settle (progress : Progress) : Except Halt Progress :=
  match progress.pending with
  | none => .ok progress
  | some (switch, none) => .error (.wrong (.missingValue switch))
  | some (switch, some text) => { progress with pending := none }.assign switch text

/-- Takes a switch that has no value. -/
def flag (progress : Progress) (switch : Switch) (long : Bool) : Except Halt Progress := do
  let progress ← progress.settle
  match switch with
  | .help => throw (.answered (.help long))
  | .version => throw (.answered .version)
  | _ =>
    let progress ← progress.use switch
    return { progress with options := progress.options.raise switch }

/-- Takes a switch and the value joined to it, if there is one. -/
def option (progress : Progress) (switch : Switch) (value : Option String) :
    Except Halt Progress := do
  let progress ← progress.settle
  match value with
  | some text => progress.assign switch text
  | none => return { progress with pending := some (switch, none) }

/-- Takes an argument after two dashes. -/
def long (progress : Progress) (argument : List Char) : Except Halt Progress :=
  let (name, value) :=
    match Text.splitAt? '=' argument with
    | some (name, value) => (name, some (String.ofList value))
    | none => (argument, none)
  match Switch.ofLong? name with
  | none => .error (.wrong (.unexpectedArgument ("--" ++ String.ofList name)))
  | some switch =>
    if switch.takesValue then progress.option switch value
    else
      match value with
      | some text => .error (.wrong (.superfluousValue text switch))
      | none => progress.flag switch true

/-- Takes the letters after one dash. What follows a letter that takes a value is the value, and an
equals sign in front of it is no part of it. -/
def short : Progress → List Char → Except Halt Progress
  | progress, [] => .ok progress
  | progress, letter :: rest =>
    match Switch.ofShort? letter with
    | none => .error (.wrong (.unexpectedArgument ("-" ++ String.singleton letter)))
    | some switch =>
      if switch.takesValue then
        match rest with
        | [] => progress.option switch none
        | '=' :: value => progress.option switch (some (String.ofList value))
        | value => progress.option switch (some (String.ofList value))
      else do
        let progress ← progress.flag switch false
        short progress rest

end Progress

/-- Scans the text of a number after its sign: digits with at most one point, which may not come
first, and at most one exponent, which may come neither first nor last. -/
def numberTail : Bool → Bool → Bool → List Char → Bool
  | _, _, _, [] => true
  | first, point, power, c :: cs =>
    if '0' ≤ c ∧ c ≤ '9' then numberTail false point power cs
    else if c = '.' then !point && !power && !first && numberTail false true power cs
    else if c = 'e' || c = 'E' then
      !power && !first && !cs.isEmpty && numberTail false point true cs
    else false

/-- Whether an argument after a dash looks like a negative number. -/
def looksNumeric (argument : List Char) : Bool :=
  numberTail true false false argument

/-- Takes one argument. -/
def Progress.take (progress : Progress) (argument : String) : Except Halt Progress :=
  let asValue : Except Halt Progress :=
    match progress.awaiting with
    | some switch => .ok { progress with pending := some (switch, some argument) }
    | none => .error (.wrong (.unexpectedArgument argument))
  match argument.toList with
  | '-' :: '-' :: rest => progress.long rest
  | '-' :: letter :: rest =>
    if progress.awaiting = some .mask && looksNumeric (letter :: rest) then asValue
    else progress.short (letter :: rest)
  | _ => asValue

/-- Reads arguments, all of them if there is no argument of two dashes alone. -/
def readArguments : Progress → List String → Except Halt Progress
  | progress, [] => progress.settle
  | progress, argument :: arguments =>
    if argument = "--" then
      match arguments with
      | [] => progress.settle
      | extra :: _ => .error (.wrong (.unexpectedArgument extra))
    else do
      let progress ← progress.take argument
      readArguments progress arguments

/-- What the arguments of the program ask for. -/
def Request.ofArguments (arguments : List String) : Except UsageError Request :=
  match readArguments {} arguments with
  | .ok progress => .ok (.monitor progress.options)
  | .error (.answered request) => .ok request
  | .error (.wrong error) => .error error

end GpuTelemetry.Command
