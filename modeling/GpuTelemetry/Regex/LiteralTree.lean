import GpuTelemetry.Regex.ByteSequence
import GpuTelemetry.Regex.Extent

/-!
# Trees of texts

A choice between texts is read by an automaton in the form of a tree, in which
texts share what they begin with. Earlier texts go before later ones: where a
text ends inside the tree, what comes after it does not share the branches that
were there before.
-/

namespace GpuTelemetry.Regex

namespace LiteralTree

/-- Divides texts where one ends. -/
def divide : List (List Nat) → List (List (List Nat))
  | [] => [[]]
  | [] :: texts => [] :: divide texts
  | text :: texts =>
    match divide texts with
    | [] => [[text]]
    | chunk :: chunks => (text :: chunk) :: chunks

/-- Puts a text under its first byte. -/
def insertAt (byte : Nat) (rest : List Nat) :
    List (Nat × List (List Nat)) → List (Nat × List (List Nat))
  | [] => [(byte, [rest])]
  | (known, rests) :: groups =>
    if known = byte then (known, rest :: rests) :: groups
    else (known, rests) :: insertAt byte rest groups

/-- What follows each first byte of some texts. -/
def groups : List (List Nat) → List (Nat × List (List Nat))
  | [] => []
  | [] :: texts => groups texts
  | (byte :: rest) :: texts => insertAt byte rest (groups texts)

/-- The texts at a node, divided where one ends. Several that end before any other goes on count as
one. -/
def chunks (texts : List (List Nat)) : List (List (List Nat)) :=
  match texts with
  | [] :: others => divide ([] :: others.dropWhile List.isEmpty)
  | texts => divide texts

/-- What a tree takes without the state where all texts end, if no text is longer than `depth`
bytes. A node has a state for each chunk that is not empty, and one state that leads to them all
and, after each chunk but the last one, to the end. -/
def extent : (depth : Nat) → List (List Nat) → Extent
  | 0, _ => {}
  | depth + 1, texts =>
    if texts.all List.isEmpty then {}
    else
      let chunks := chunks texts
      let branches := (chunks.map groups).filter fun groups => !groups.isEmpty
      let own := branches.map fun groups =>
        { states := 1
          extra := if groups.length = 1 then 0 else transitionSize * groups.length : Extent }
      let below := branches.flatMap fun groups => groups.map fun group => extent depth group.2
      let links := branches.length + (chunks.length - 1)
      Extent.sum ({ states := 1, extra := referenceSize * links } :: own ++ below)

end LiteralTree

/-- Builds the states that read one of some texts. -/
def buildTexts (backwards : Bool) (texts : List (List Char)) (extent : Extent) :
    Option Extent :=
  let sequences := texts.map fun text =>
    if backwards then (bytesOfText text).reverse else bytesOfText text
  let depth := sequences.foldl (fun n sequence => max n sequence.length) 0
  let tree := LiteralTree.extent (depth + 1) sequences
  extent.add (tree.states + 1) tree.extra

end GpuTelemetry.Regex
