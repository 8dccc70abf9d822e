/-!
# Control sequences

Texts that come from outside may hold the control sequences of terminals. On an
output that is no terminal they are left out: `plain` keeps what such a text
shows, together with the tabs, line feeds, form feeds and carriage returns.
-/

namespace GpuTelemetry.Terminal

inductive Place
  /-- Outside any sequence. -/
  | ground
  | escape
  | escapeIntermediate
  | controlEntry
  | controlParameter
  | controlIntermediate
  | controlIgnored
  | deviceEntry
  | deviceParameter
  | deviceIntermediate
  | deviceIgnored
  | deviceData
  /-- In a string that lasts until the next escape. -/
  | string
  /-- In a command to the system of the terminal, which a bell ends as well. -/
  | command
  deriving DecidableEq

def within (first last : Char) (c : Char) : Bool :=
  first ≤ c && c ≤ last

/-- Whether the byte 9C, which ends a string, is among the bytes of a character after its first. -/
def holdsTerminator (c : Char) : Bool :=
  0x80 ≤ c.toNat
    && (c.toNat % 64 = 0x1C
      || 0x800 ≤ c.toNat && c.toNat / 64 % 64 = 0x1C
      || 0x10000 ≤ c.toNat && c.toNat / 4096 % 64 = 0x1C)

namespace Place

def afterParameters (intermediate parameter ignored final : Place) (first : Bool) (place : Place)
    (c : Char) : Place :=
  if within ' ' '/' c then intermediate
  else if within '0' (if first then '?' else ';') c then parameter
  else if within '<' '?' c then ignored
  else if within '@' '~' c then final
  else place

def afterIntermediate (ignored final : Place) (place : Place) (c : Char) : Place :=
  if within '0' '?' c then ignored else if within '@' '~' c then final else place

def afterEscape (c : Char) : Place :=
  if within ' ' '/' c then escapeIntermediate
  else if c = 'P' then deviceEntry
  else if c = 'X' || c = '^' || c = '_' then string
  else if c = '[' then controlEntry
  else if c = ']' then command
  else if within '0' '~' c then ground
  else escape

/-- The place after one more character. -/
def after (place : Place) (c : Char) : Place :=
  if c = '\x18' || c = '\x1A' then ground
  else if c = '\x1B' then escape
  else
    match place with
    | ground => ground
    | escape => afterEscape c
    | escapeIntermediate => if within '0' '~' c then ground else place
    | controlEntry =>
      afterParameters controlIntermediate controlParameter controlIgnored ground true place c
    | controlParameter =>
      afterParameters controlIntermediate controlParameter controlIgnored ground false place c
    | controlIntermediate => afterIntermediate controlIgnored ground place c
    | controlIgnored => if within '@' '~' c then ground else place
    | deviceEntry =>
      afterParameters deviceIntermediate deviceParameter deviceIgnored deviceData true place c
    | deviceParameter =>
      afterParameters deviceIntermediate deviceParameter deviceIgnored deviceData false place c
    | deviceIntermediate => afterIntermediate deviceIgnored deviceData place c
    | deviceIgnored => if holdsTerminator c then ground else place
    | deviceData => if holdsTerminator c then ground else place
    | string => if holdsTerminator c then ground else place
    | command => if c = '\x07' then ground else place

/-- Whether control characters take effect at a place. -/
def executes : Place → Bool
  | ground => true
  | escape => true
  | escapeIntermediate => true
  | controlEntry => true
  | controlParameter => true
  | controlIntermediate => true
  | controlIgnored => true
  | _ => false

end Place

/-- The control characters that are kept. -/
def isLayout (c : Char) : Bool :=
  c = '\t' || c = '\n' || c = '\x0C' || c = '\r'

def isGraphic (c : Char) : Bool :=
  within ' ' '~' c || 0x80 ≤ c.toNat

/-- What a text shows that is met at a place. Once a character has been shown, so are the ones
after it up to the first control character that is not kept, whatever the place. -/
def shown : Place → Bool → List Char → List Char
  | _, _, [] => []
  | place, running, c :: cs =>
    if isGraphic c && (running || place = .ground) then
      c :: shown (if 0x80 ≤ c.toNat then .ground else place) true cs
    else if isLayout c && (running || place.executes) then c :: shown place true cs
    else shown (place.after c) false cs

/-- A text without its control sequences. -/
def plain (text : String) : String :=
  String.ofList (shown .ground false text.toList)

/-- The sequence that ends every sequence before it and all styles. -/
def reset : String :=
  "\x1B[0m"

/-- What a text shows that is part of a longer one and is followed by a reset. -/
def plainPart (text : String) : String :=
  plain (text ++ reset)

/-- A text of graphic characters is kept as it is. -/
theorem shown_of_graphic {cs : List Char} (h : ∀ c ∈ cs, isGraphic c = true) :
    shown .ground true cs = cs := by
  induction cs with
  | nil => rfl
  | cons c cs ih =>
    have hc : isGraphic c = true := h c (by simp)
    have ht : shown .ground true cs = cs := ih fun d hd => h d (by simp [hd])
    simp [shown, hc, ht]

end GpuTelemetry.Terminal
