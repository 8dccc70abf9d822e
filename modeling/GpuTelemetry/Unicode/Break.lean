import GpuTelemetry.Unicode.BinaryProperty
import GpuTelemetry.Unicode.Script

/-!
# Breaks

What a character is when a text is divided into graphemes, words or sentences.
Classes that follow from the categories and properties are stated so.
-/

namespace GpuTelemetry.Unicode

/-- The classes for graphemes that are given by their ranges. -/
def graphemeTable : List Entry :=
  [
    ⟨["cr"],
      ["D"]⟩,
    ⟨["l"],
      ["1100-115F A960-A97C"]⟩,
    ⟨["lf"],
      ["A"]⟩,
    ⟨["lv"],
      ["AC00-D788/1C"]⟩,
    ⟨["pp", "prepend"],
      ["600-605 6DD 70F 890-891 8E2 D4E 110BD 110CD 111C2-111C3 113D1 1193F 11941 11A3A",
       "11A84-11A89 11D46 11F02"]⟩,
    ⟨["ri", "regionalindicator"],
      ["1F1E6-1F1FF"]⟩,
    ⟨["t"],
      ["11A8-11FF D7CB-D7FB"]⟩,
    ⟨["v"],
      ["1160-11A7 D7B0-D7C6 16D63 16D67-16D6A"]⟩,
    ⟨["zwj"],
      ["200D"]⟩
  ]

/-- The classes for words that are given by their ranges. -/
def wordTable : List Entry :=
  [
    ⟨["cr"],
      ["D"]⟩,
    ⟨["dq", "doublequote"],
      ["22"]⟩,
    ⟨["ex", "extendnumlet"],
      ["5F 202F 203F-2040 2054 FE33-FE34 FE4D-FE4F FF3F"]⟩,
    ⟨["fo", "format"],
      ["AD 61C 180E 200E-200F 202A-202E 2060-2064 2066-206F FEFF FFF9-FFFB 13430-1343F",
       "1BCA0-1BCA3 1D173-1D17A E0001"]⟩,
    ⟨["hl", "hebrewletter"],
      ["5D0-5EA 5EF-5F2 FB1D FB1F-FB28 FB2A-FB36 FB38-FB3C FB3E FB40-FB41 FB43-FB44 FB46-FB4F"]⟩,
    ⟨["ka", "katakana"],
      ["3031-3035 309B-309C 30A0-30FA 30FC-30FF 31F0-31FF 32D0-32FE 3300-3357 FF66-FF9D",
       "1AFF0-1AFF3 1AFF5-1AFFB 1AFFD-1AFFE 1B000 1B120-1B122 1B155 1B164-1B167"]⟩,
    ⟨["lf"],
      ["A"]⟩,
    ⟨["ml", "midletter"],
      ["3A B7 387 55F 5F4 2027 FE13 FE55 FF1A"]⟩,
    ⟨["mn", "midnum"],
      ["2C 3B 37E 589 60C-60D 66C 7F8 2044 FE50 FE54 FF0C FF1B"]⟩,
    ⟨["mb", "midnumlet"],
      ["2E 2018-2019 2024 FE52 FF07 FF0E"]⟩,
    ⟨["nl", "newline"],
      ["B-C 85 2028-2029"]⟩,
    ⟨["ri", "regionalindicator"],
      ["1F1E6-1F1FF"]⟩,
    ⟨["sq", "singlequote"],
      ["27"]⟩,
    ⟨["wsegspace"],
      ["20 1680 2000-2006 2008-200A 205F 3000"]⟩,
    ⟨["zwj"],
      ["200D"]⟩
  ]

/-- The classes for sentences that are given by their ranges. -/
def sentenceTable : List Entry :=
  [
    ⟨["at", "aterm"],
      ["2E 2024 FE52 FF0E"]⟩,
    ⟨["cr"],
      ["D"]⟩,
    ⟨["cl", "close"],
      ["22 27-29 5B 5D 7B 7D AB BB F3A-F3D 169B-169C 2018-201F 2039-203A 2045-2046 207D-207E",
       "208D-208E 2308-230B 2329-232A 275B-2760 2768-2775 27C5-27C6 27E6-27EF 2983-2998",
       "29D8-29DB 29FC-29FD 2E00-2E0D 2E1C-2E1D 2E20-2E29 2E42 2E55-2E5C 3008-3011 3014-301B",
       "301D-301F FD3E-FD3F FE17-FE18 FE35-FE44 FE47-FE48 FE59-FE5E FF08-FF09 FF3B FF3D FF5B",
       "FF5D FF5F-FF60 FF62-FF63 1F676-1F678"]⟩,
    ⟨["lf"],
      ["A"]⟩,
    ⟨["sc", "scontinue"],
      ["2C-2D 3A-3B 37E 55D 60C-60D 7F8 1802 1808 2013-2014 3001 FE10-FE11 FE13-FE14 FE31-FE32",
       "FE50-FE51 FE54-FE55 FE58 FE63 FF0C-FF0D FF1A-FF1B FF64"]⟩,
    ⟨["se", "sep"],
      ["85 2028-2029"]⟩,
    ⟨["sp"],
      ["9 B-C 20 A0 1680 2000-200A 202F 205F 3000"]⟩
  ]

/-- The spacing marks that do not join the grapheme before them. -/
def unspacedMarks : List String :=
  ["102B-102C 1038 1062-1064 1067-106D 1083 1087-108C 108F 109A-109C 1A61 1A63-1A64 AA7B AA7D",
   "11720-11721"]

/-- The signs that words may hold like letters. -/
def letterlikeSigns : List String :=
  ["2C2-2C5 2D2-2D7 2DE-2DF 2E5-2EB 2ED 2EF-2FF 55A-55C 55E 58A 5F3 70F A708-A716 A720-A721",
   "A789-A78A AB5B"]

/-- The letters of scripts that are written without spaces between words. -/
def unspacedLetters : List String :=
  ["E01-E30 E32-E33 E40-E46 E81-E82 E84 E86-E8A E8C-EA3 EA5 EA7-EB0 EB2-EB3 EBD EC0-EC4 EC6",
   "EDC-EDF 1000-102A 103F 1050-1055 105A-105D 1061 1065-1066 106E-1070 1075-1081 108E",
   "1780-17B3 17D7 17DC 1950-196D 1970-1974 1980-19AB 19B0-19C9 1A20-1A54 1AA7 A9E0-A9E4",
   "A9E6-A9EF A9FA-A9FE AA60-AA76 AA7A AA7E-AAAF AAB1 AAB5-AAB6 AAB9-AABD AAC0 AAC2 AADB-AADD",
   "11700-1171A 11740-11746"]

/-- The characters of numbers that are no decimal digits. -/
def numberSigns : List String :=
  ["600-605 66B 6DD 890-891 8E2 19DA 110BD 110CD"]

/-- What extends the grapheme before it. -/
def graphemeExtenders : CodePointSet :=
  graphemeExtend.union (properties ["emod"])

def graphemeControls : CodePointSet :=
  let shown := (properties ["pcm"]).union (CodePointSet.ofText "A D 200C-200D E0020-E007F")
  (CodePointSet.unions
    [categories ["zl", "zp", "cc", "cf"], unassigned.inter defaultIgnorable]).diff shown

/-- The syllables of Hangul with a final consonant. -/
def closedSyllables : CodePointSet :=
  (CodePointSet.range 0xAC00 0xD7A3).diff (Entry.among ["lv"] graphemeTable)

/-- The class for graphemes with a name. -/
def graphemeBreak? (name : String) : Option CodePointSet :=
  if ["ex", "extend"].contains name then some graphemeExtenders
  else if ["cn", "control"].contains name then some graphemeControls
  else if ["sm", "spacingmark"].contains name then
    some (((categories ["mc"]).union (CodePointSet.ofText "E33 EB3")).diff
      (graphemeExtenders.union (CodePointSet.ofLines unspacedMarks)))
  else if name = "lvt" then some closedSyllables
  else Entry.find? name graphemeTable

def wordExtenders : CodePointSet :=
  CodePointSet.unions [graphemeExtend, categories ["mc"], properties ["emod"]]

def wordLetters : CodePointSet :=
  let others := CodePointSet.unions
    [properties ["ideo"], Entry.among ["ka", "hl"] wordTable, Entry.among ["hira"] scriptTable,
      wordExtenders, CodePointSet.ofLines unspacedLetters]
  (alphabetic.diff others).union (CodePointSet.ofLines letterlikeSigns)

def numeric : CodePointSet :=
  decimalDigits.union (CodePointSet.ofLines numberSigns)

def wordBreak? (name : String) : Option CodePointSet :=
  if ["le", "aletter"].contains name then some wordLetters
  else if name = "extend" then some wordExtenders
  else if ["nu", "numeric"].contains name then some numeric
  else Entry.find? name wordTable

def sentenceExtenders : CodePointSet :=
  CodePointSet.unions [graphemeExtend, categories ["mc"], CodePointSet.range 0x200D 0x200D]

/-- The lower case of sentences, where the letters of Georgian have no case. -/
def sentenceLower : CodePointSet :=
  lowercase.diff (graphemeExtend.union (CodePointSet.ofText "10D0-10FA 10FD-10FF"))

def sentenceUpper : CodePointSet :=
  (uppercase.union (categories ["lt"])).diff (CodePointSet.ofText "1C90-1CBA 1CBD-1CBF")

/-- The class for sentences with a name. -/
def sentenceBreak? (name : String) : Option CodePointSet :=
  if ["lo", "lower"].contains name then some sentenceLower
  else if ["up", "upper"].contains name then some sentenceUpper
  else if ["le", "oletter"].contains name then
    some ((alphabetic.union (CodePointSet.range 0x5F3 0x5F3)).diff
      (CodePointSet.unions [sentenceLower, sentenceUpper, sentenceExtenders]))
  else if ["nu", "numeric"].contains name then
    some (numeric.union (CodePointSet.range 0x66C 0x66C))
  else if ["ex", "extend"].contains name then some sentenceExtenders
  else if ["fo", "format"].contains name then
    some ((Entry.among ["fo"] wordTable).union (CodePointSet.ofText "70F 200B"))
  else if ["st", "sterm"].contains name then
    some ((properties ["sterm"]).diff (Entry.among ["at"] sentenceTable))
  else Entry.find? name sentenceTable

end GpuTelemetry.Unicode
