import GpuTelemetry.Unicode.Age
import GpuTelemetry.Unicode.Break
import GpuTelemetry.Unicode.ScriptExtension

/-!
# Names of properties

A set of characters is asked for by the name of a binary property, a category or
a script, or by the name of a property together with one of its values. Case,
separators and an `is` in front do not matter.
-/

namespace GpuTelemetry.Unicode

/-- Why a set of characters was not found. -/
inductive LookupError
  | unknownProperty
  | unknownValue
  deriving DecidableEq

/-- The form in which names are compared. The `is` of the property that is called `isc` stays. -/
def normalize (name : List Char) : String :=
  let marked :=
    match name with
    | i :: s :: _ => i.toLower = 'i' && s.toLower = 's'
    | _ => false
  let kept := (if marked then name.drop 2 else name).filter fun c =>
    c.toNat < 0x80 && c ≠ ' ' && c ≠ '_' && c ≠ '-'
  let lower := String.ofList (kept.map Char.toLower)
  if marked && lower = "c" then "isc" else lower

/-- Properties of which no sets are known here. -/
def otherProperties : List String :=
  ["bc", "bidiclass", "bidimirroringglyph", "bidipairedbracket", "bidipairedbrackettype", "blk",
    "block", "bmg", "bpb", "bpt", "canonicalcombiningclass", "casefolding", "ccc", "ce", "cf",
    "changeswhennfkccasefolded", "cjkaccountingnumeric", "cjkcompatibilityvariant", "cjkiicore",
    "cjkirggsource", "cjkirghsource", "cjkirgjsource", "cjkirgkpsource", "cjkirgksource",
    "cjkirgmsource", "cjkirgssource", "cjkirgtsource", "cjkirguksource", "cjkirgusource",
    "cjkirgvsource", "cjkothernumeric", "cjkprimarynumeric", "cjkrsunicode", "compex",
    "compositionexclusion", "cwkcf", "decompositionmapping", "decompositiontype", "dm", "dt",
    "ea", "eastasianwidth", "equideo", "equivalentunifiedideograph", "expandsonnfc",
    "expandsonnfd", "expandsonnfkc", "expandsonnfkd", "fcnfkc", "fcnfkcclosure",
    "fullcompositionexclusion", "hangulsyllabletype", "hst", "incb", "indicconjunctbreak",
    "indicpositionalcategory", "indicsyllabiccategory", "inpc", "insc", "isc", "jamoshortname",
    "jg", "joininggroup", "joiningtype", "jsn", "jt", "kaccountingnumeric",
    "kcompatibilityvariant", "kehcat", "kehdesc", "kehhg", "kehifao", "kehjsesh", "kehnomirror",
    "kehnorotate", "kiicore", "kirggsource", "kirghsource", "kirgjsource", "kirgkpsource",
    "kirgksource", "kirgmsource", "kirgssource", "kirgtsource", "kirguksource", "kirgusource",
    "kirgvsource", "kothernumeric", "kprimarynumeric", "krsunicode", "lb", "lc", "linebreak",
    "lowercasemapping", "na", "na1", "name", "namealias", "nfcqc", "nfcquickcheck", "nfdqc",
    "nfdquickcheck", "nfkccasefold", "nfkccf", "nfkcqc", "nfkcquickcheck", "nfkcscf",
    "nfkcsimplecasefold", "nfkdqc", "nfkdquickcheck", "nt", "numerictype", "numericvalue", "nv",
    "ocomment", "scf", "sfc", "simplecasefolding", "simplelowercasemapping",
    "simpletitlecasemapping", "simpleuppercasemapping", "slc", "stc", "suc", "tc",
    "titlecasemapping", "uc", "unicode1name", "unicoderadicalstroke", "uppercasemapping", "urs",
    "verticalorientation", "vo", "xonfc", "xonfd", "xonfkc", "xonfkd"]

/-- The categories and scripts without characters that a program can meet. -/
def emptyValues : List String :=
  ["cs", "surrogate", "hrkt", "katakanaorhiragana", "zzzz", "unknown"]

/-- The set that goes by a single name. -/
def named (name : List Char) : Except LookupError CodePointSet :=
  let name := normalize name
  let found := ((binaryProperty? name).or (category? name)).or (Entry.find? name scriptTable)
  match found with
  | some set => .ok set
  | none => .error (if emptyValues.contains name then .unknownValue else .unknownProperty)

/-- The set that a value of a property has, for the properties with values of their own. -/
def valueOf? (property : String) : Option (String → Option CodePointSet) :=
  if ["gc", "generalcategory"].contains property then some category?
  else if ["sc", "script"].contains property then some fun name => Entry.find? name scriptTable
  else if ["scx", "scriptextensions"].contains property then some scriptExtension?
  else if property = "age" then some age?
  else if ["gcb", "graphemeclusterbreak"].contains property then some graphemeBreak?
  else if ["wb", "wordbreak"].contains property then some wordBreak?
  else if ["sb", "sentencebreak"].contains property then some sentenceBreak?
  else none

def valued (property value : List Char) : Except LookupError CodePointSet :=
  let property := normalize property
  match valueOf? property with
  | some set =>
    match set (normalize value) with
    | some set => .ok set
    | none => .error .unknownValue
  | none =>
    if otherProperties.contains property || (binaryProperty? property).isSome then
      .error .unknownValue
    else .error .unknownProperty

end GpuTelemetry.Unicode
