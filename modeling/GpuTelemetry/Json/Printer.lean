import GpuTelemetry.Json.Basic
import GpuTelemetry.Numeral.Hexadecimal
import GpuTelemetry.Numeral.Integer

/-!
# Printing JSON

A value is printed without any white space, or with one item per line and two
spaces for each level. In a string only quotes, backslashes and control
characters are escaped.
-/

namespace GpuTelemetry.Json

/-- How a character is written in a string. -/
def escape (c : Char) : List Char :=
  if c = '"' then ['\\', '"']
  else if c = '\\' then ['\\', '\\']
  else if c = '\x08' then ['\\', 'b']
  else if c = '\x0c' then ['\\', 'f']
  else if c = '\n' then ['\\', 'n']
  else if c = '\r' then ['\\', 'r']
  else if c = '\t' then ['\\', 't']
  else if c.toNat < 0x20 then
    ['\\', 'u', '0', '0', Numeral.hexDigit (c.toNat / 16), Numeral.hexDigit (c.toNat % 16)]
  else [c]

def quote (text : List Char) : List Char :=
  '"' :: text.flatMap escape ++ ['"']

/-- How the parts of a value are set apart: with an indentation for the given level, or not. -/
structure Layout where
  /-- What stands in front of an item at a level, and in front of a closing bracket. -/
  newline : Nat → List Char
  /-- What stands between a name and its value. -/
  colon : List Char

def compact : Layout where
  newline _ := []
  colon := [':']

def indented : Layout where
  newline level := '\n' :: List.replicate (2 * level) ' '
  colon := [':', ' ']

mutual

def print (layout : Layout) (level : Nat) : Json → List Char
  | null => "null".toList
  | bool true => "true".toList
  | bool false => "false".toList
  | integer negative magnitude => (if negative then ['-'] else []) ++ Numeral.write magnitude
  | fraction => "0.0".toList
  | string text => quote (text.getD [])
  | array [] => ['[', ']']
  | array (item :: items) =>
    '[' :: layout.newline (level + 1) ++ print layout (level + 1) item
      ++ printItems layout (level + 1) items ++ layout.newline level ++ [']']
  | object [] => ['\x7b', '\x7d']
  | object ((name, value) :: members) =>
    '\x7b' :: layout.newline (level + 1) ++ quote (name.getD []) ++ layout.colon
      ++ print layout (level + 1) value ++ printMembers layout (level + 1) members
      ++ layout.newline level ++ ['\x7d']

/-- The items of an array after the first one. -/
def printItems (layout : Layout) (level : Nat) : List Json → List Char
  | [] => []
  | item :: items =>
    ',' :: layout.newline level ++ print layout level item ++ printItems layout level items

/-- The members of an object after the first one. -/
def printMembers (layout : Layout) (level : Nat) :
    List (Option (List Char) × Json) → List Char
  | [] => []
  | (name, value) :: members =>
    ',' :: layout.newline level ++ quote (name.getD []) ++ layout.colon
      ++ print layout level value ++ printMembers layout level members

end

end GpuTelemetry.Json
