/-!
# Shared libraries

Which libraries can be loaded at run time, and how loading one or looking up a
symbol in it fails.
-/

namespace GpuTelemetry.Platform

structure SharedLibrary where
  name : String
  /-- Symbols that a caller may look for in vain. -/
  lacking : List String := []

/-- The directory in which libraries are looked for. -/
structure LibraryDirectory where
  path : String
  libraries : List SharedLibrary := []
  /-- Names of files that are no libraries. -/
  broken : List String := []

namespace LibraryDirectory

def load (directory : LibraryDirectory) (name : String) : Except String SharedLibrary :=
  if directory.broken.contains name then
    .error (directory.path ++ "/" ++ name ++ ": file too short")
  else
    match directory.libraries.find? fun l => l.name = name with
    | some library => .ok library
    | none => .error (name ++ ": cannot open shared object file: No such file or directory")

/-- Looks up a symbol of a loaded library. -/
def symbol (directory : LibraryDirectory) (library : SharedLibrary) (name : String) :
    Except String Unit :=
  if library.lacking.contains name then
    .error (directory.path ++ "/" ++ library.name ++ ": undefined symbol: " ++ name)
  else .ok ()

end LibraryDirectory

end GpuTelemetry.Platform
