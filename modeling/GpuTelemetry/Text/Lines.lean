/-!
# Lines

A line ends at a line feed, together with one carriage return just before it.
What follows the last line feed is a line of its own unless it is empty.
-/

namespace GpuTelemetry.Text

def lines : List Char → List (List Char)
  | [] => []
  | '\n' :: cs => [] :: lines cs
  | '\r' :: '\n' :: cs => [] :: lines cs
  | c :: cs =>
    match lines cs with
    | [] => [[c]]
    | l :: ls => (c :: l) :: ls

theorem lines_nil : lines [] = [] := by
  simp [lines]

theorem lines_newline (cs : List Char) : lines ('\n' :: cs) = [] :: lines cs := by
  simp [lines]

end GpuTelemetry.Text
