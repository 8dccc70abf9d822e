import GpuTelemetry.Unicode.CodePointSet

/-!
# Tables of sets

Sets of characters go by several names. In a table the names are in lower case
and without separators, and the sets are written in lines.
-/

namespace GpuTelemetry.Unicode

structure Entry where
  names : List String
  ranges : List String

namespace Entry

def set (entry : Entry) : CodePointSet :=
  CodePointSet.ofLines entry.ranges

def among (names : List String) (table : List Entry) : CodePointSet :=
  CodePointSet.unions ((table.filter fun entry => entry.names.any names.contains).map set)

def find? (name : String) (table : List Entry) : Option CodePointSet :=
  (table.find? fun entry => entry.names.contains name).map set

end Entry

end GpuTelemetry.Unicode
