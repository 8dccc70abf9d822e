/-!
# JSON values

Members of an object keep their order and may repeat. Numbers are told apart by
their notation: an integer has neither a point nor an exponent, and its sign is
kept, so that minus zero is not zero. A string whose escapes name half of a
surrogate pair stands for no text.
-/

namespace GpuTelemetry

inductive Json
  | null
  | bool (value : Bool)
  | integer (negative : Bool) (magnitude : Nat)
  /-- A number with a point or an exponent. -/
  | fraction
  | string (text : Option (List Char))
  | array (items : List Json)
  | object (members : List (Option (List Char) × Json))

namespace Json

def ofText (text : String) : Json :=
  .string (some text.toList)

def ofNat (n : Nat) : Json :=
  .integer false n

def ofInt : Int → Json
  | .ofNat n => .integer false n
  | .negSucc n => .integer true (n + 1)

/-- An object from names and values. -/
def ofMembers (members : List (String × Json)) : Json :=
  .object (members.map fun m => (some m.1.toList, m.2))

end Json

end GpuTelemetry
