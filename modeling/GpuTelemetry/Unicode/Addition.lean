import GpuTelemetry.Unicode.BinaryProperty

/-!
# Additions

The tables of properties are those of version 16 of the standard. The names of
groups follow version 17, which has more letters and numbers and takes none
away.
-/

namespace GpuTelemetry.Unicode

/-- The alphabetic code points that version 17 adds. -/
def addedLetters : CodePointSet :=
  CodePointSet.ofLines
    ["88F C5C CDC A7CE-A7CF A7D2 A7D4 A7F1 10940-10959 10EC5-10EC7 10EFA-10EFB 11B60-11B67",
     "11DB0-11DDB 16EA0-16EB8 16EBB-16ED3 16FF2-16FF6 187F8-187FF 18D09-18D1E 18D80-18DF2",
     "1E6C0-1E6DE 1E6E0-1E6F5 1E6FE-1E6FF 2B73A-2B73F 2CEA2-2CEAD 323B0-33479"]

/-- The numeric code points that version 17 adds. -/
def addedNumbers : CodePointSet :=
  CodePointSet.ofLines ["11DE0-11DE9 16FF4-16FF6"]

/-- What counts as a letter in a name. -/
def nameLetters : CodePointSet :=
  alphabetic.union addedLetters

/-- What counts as a number in a name: the categories Nd, Nl and No. -/
def nameNumbers : CodePointSet :=
  CodePointSet.unions [decimalDigits, categories ["nl", "no"], addedNumbers]

end GpuTelemetry.Unicode
