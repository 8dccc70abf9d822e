import GpuTelemetry.Json.Printer
import GpuTelemetry.Proofs.Json.Grammar

/-!
# Values that are read as they were printed

A layout may put any white space between the parts of a value. What is printed in
such a layout is one of the ways to write the value, so it is read as the value.
-/

namespace GpuTelemetry.Json

/-- Every string in the value stands for a text. -/
inductive Plain : Json → Prop
  | null : Plain null
  | bool (value : Bool) : Plain (bool value)
  | integer (negative : Bool) (magnitude : Nat) : Plain (integer negative magnitude)
  | fraction : Plain fraction
  | string (text : List Char) : Plain (string (some text))
  | array {items : List Json} (hitems : ∀ item ∈ items, Plain item) : Plain (array items)
  | object {members : List (Option (List Char) × Json)}
      (hnames : ∀ member ∈ members, member.1.isSome = true)
      (hvalues : ∀ member ∈ members, Plain member.2) : Plain (object members)

/-- A layout that sets the parts of a value apart by white space. -/
structure Layout.Spaced (layout : Layout) : Prop where
  newline : ∀ level, IsGap (layout.newline level)
  colon : ∃ gap, layout.colon = ':' :: gap ∧ IsGap gap

theorem Layout.spaced_compact : compact.Spaced where
  newline _ := isGap_nil
  colon := ⟨[], rfl, isGap_nil⟩

theorem Layout.spaced_indented : indented.Spaced where
  newline := by
    intro level c hc
    rcases List.mem_cons.mp hc with rfl | hc
    · decide
    · rw [(List.mem_replicate.mp hc).2]
      decide
  colon := ⟨[' '], rfl, List.forall_mem_singleton.mpr (by decide)⟩

variable {layout : Layout}

/-- The items of an array as they are printed, up to the closing bracket. -/
theorem exists_parts_of_printItems (hlayout : layout.Spaced) (level outer : Nat) {item : Json}
    {items : List Json}
    (hitems : ∀ i ∈ item :: items, Spells i (print layout level i)) :
    ∃ (first : Json × List Char) (others : List (Json × List Char)),
      (first :: others).map Prod.fst = item :: items ∧
      (∀ part ∈ first :: others, Spells part.1 part.2) ∧
      first.2 ++ others.flatMap (fun part => ',' :: part.2) =
        layout.newline level ++ (print layout level item ++
          (printItems layout level items ++ layout.newline outer)) := by
  obtain ⟨hitem, htail⟩ := List.forall_mem_cons.mp hitems
  induction items generalizing item with
  | nil =>
      refine ⟨(item, layout.newline level ++ (print layout level item ++ layout.newline outer)), [],
        rfl, ?_, by simp [printItems]⟩
      exact List.forall_mem_singleton.mpr
        (.spaced (hlayout.newline level) hitem (hlayout.newline outer))
  | cons second items ih =>
      obtain ⟨hsecond, hrest⟩ := List.forall_mem_cons.mp htail
      obtain ⟨first, others, hvalues, hparts, htext⟩ := ih htail hsecond hrest
      refine ⟨(item, layout.newline level ++ (print layout level item ++ [])), first :: others,
        by rw [List.map_cons, hvalues], ?_, ?_⟩
      · exact List.forall_mem_cons.mpr ⟨.spaced (hlayout.newline level) hitem isGap_nil, hparts⟩
      · rw [List.flatMap_cons, List.cons_append, htext]
        simp [printItems]

/-- The members of an object as they are printed, up to the closing brace. -/
theorem exists_parts_of_printMembers (hlayout : layout.Spaced) (level outer : Nat)
    {text : List Char} {value : Json} {members : List (Option (List Char) × Json)}
    (hnames : ∀ member ∈ members, member.1.isSome = true)
    (hvalue : Spells value (print layout level value))
    (hvalues : ∀ member ∈ members, Spells member.2 (print layout level member.2)) :
    ∃ (first : MemberText) (others : List MemberText),
      (first :: others).map MemberText.member = (some text, value) :: members ∧
      (∀ part ∈ first :: others, SpellsName part.name part.nameText) ∧
      (∀ part ∈ first :: others, Spells part.value part.valueText) ∧
      first.text ++ others.flatMap (fun part => ',' :: part.text) =
        layout.newline level ++ (quote text ++ (layout.colon ++ (print layout level value ++
          (printMembers layout level members ++ layout.newline outer)))) := by
  obtain ⟨gap, hcolon, hgap⟩ := hlayout.colon
  have hname (name : List Char) : SpellsName (some name) (layout.newline level ++ quote name) :=
    ⟨layout.newline level, name.flatMap escape, [], by simp [quote], hlayout.newline level,
      spellsText_escape name, isGap_nil⟩
  induction members generalizing text value with
  | nil =>
      refine ⟨⟨some text, value, layout.newline level ++ quote text,
        gap ++ (print layout level value ++ layout.newline outer)⟩, [], rfl, ?_, ?_, ?_⟩
      · exact List.forall_mem_singleton.mpr (hname text)
      · exact List.forall_mem_singleton.mpr (.spaced hgap hvalue (hlayout.newline outer))
      · simp [MemberText.text, printMembers, hcolon]
  | cons second members ih =>
      obtain ⟨name, next⟩ := second
      obtain ⟨hsecond, htail⟩ := List.forall_mem_cons.mp hnames
      obtain ⟨word, rfl⟩ := Option.isSome_iff_exists.mp hsecond
      obtain ⟨hnext, hrest⟩ := List.forall_mem_cons.mp hvalues
      obtain ⟨first, others, hmembers, hnameTexts, hvalueTexts, htext⟩ := ih htail hnext hrest
      refine ⟨⟨some text, value, layout.newline level ++ quote text,
        gap ++ (print layout level value ++ [])⟩, first :: others, ?_, ?_, ?_, ?_⟩
      · rw [List.map_cons, hmembers]
        rfl
      · exact List.forall_mem_cons.mpr ⟨hname text, hnameTexts⟩
      · exact List.forall_mem_cons.mpr ⟨.spaced hgap hvalue isGap_nil, hvalueTexts⟩
      · rw [List.flatMap_cons, List.cons_append, htext]
        simp [MemberText.text, printMembers, hcolon]

theorem spells_print (hlayout : layout.Spaced) {value : Json} (hvalue : Plain value) (level : Nat) :
    Spells value (print layout level value) := by
  induction hvalue generalizing level with
  | null => exact .nothing
  | bool value => cases value <;> exact .truth _
  | integer negative magnitude =>
      have hnumber := Spells.number negative magnitude .absent .absent
      simpa [print] using hnumber
  | fraction =>
      have hzero : IsDigits ['0'] := ⟨by simp, List.forall_mem_singleton.mpr rfl⟩
      exact .number false 0 (.given hzero) .absent
  | string text => exact .quoted (spellsText_escape text)
  | @array items _ ih =>
      cases items with
      | nil => exact .noItems isGap_nil
      | cons item items =>
          obtain ⟨first, others, hvalues, hparts, htext⟩ :=
            exists_parts_of_printItems hlayout (level + 1) level fun i hi => ih i hi (level + 1)
          rw [← hvalues]
          convert Spells.items hparts using 1
          rw [← List.append_assoc first.2, htext, hvalues]
          simp [print]
  | @object members hnames _ ih =>
      cases members with
      | nil => exact .noMembers isGap_nil
      | cons member members =>
          obtain ⟨name, value⟩ := member
          obtain ⟨hname, htail⟩ := List.forall_mem_cons.mp hnames
          obtain ⟨text, rfl⟩ := Option.isSome_iff_exists.mp hname
          obtain ⟨hvalue, hvalues⟩ := List.forall_mem_cons.mp ih
          obtain ⟨first, others, hmembers, hnameTexts, hvalueTexts, htext⟩ :=
            exists_parts_of_printMembers hlayout (level + 1) level htail (hvalue (level + 1))
              fun member hmember => hvalues member hmember (level + 1)
          rw [← hmembers]
          convert Spells.members hnameTexts hvalueTexts using 1
          rw [← List.append_assoc first.text, htext, hmembers]
          simp [print]

/-- A value printed in a layout that only adds white space is read as that value. -/
theorem read?_print (hlayout : layout.Spaced) {value : Json} (hvalue : Plain value) :
    read? (print layout 0 value) = some value :=
  (spells_print hlayout hvalue 0).read?_eq_some

end GpuTelemetry.Json
