import GpuTelemetry.Proofs.Json.Strings
import GpuTelemetry.Proofs.Numeral.Writing
import Mathlib.Data.List.DropRight

/-!
# How values may be written

The grammar of JSON texts, with white space around every value and every name,
and with the value that each text stands for. Whatever is written by it is taken
off the front of a text as its value, as long as something follows that cannot
belong to it. The induction is on the grammar; the bound of the reader need not
exceed the length of what is written.
-/

namespace GpuTelemetry.Json

def IsGap (s : List Char) : Prop :=
  ∀ c ∈ s, c ∈ [' ', '\t', '\n', '\r']

theorem isGap_nil : IsGap [] :=
  nofun

def IsDigits (s : List Char) : Prop :=
  s ≠ [] ∧ ∀ c ∈ s, c.isDigit = true

/-- The point of a number and the digits behind it, if there is one. -/
inductive SpellsPoint : Bool → List Char → Prop
  | absent : SpellsPoint false []
  | given {digits : List Char} : IsDigits digits → SpellsPoint true ('.' :: digits)

/-- The exponent of a number, if there is one. -/
inductive SpellsPower : Bool → List Char → Prop
  | absent : SpellsPower false []
  | given {mark : Char} {sign digits : List Char} :
    mark = 'e' ∨ mark = 'E' → sign = [] ∨ sign = ['+'] ∨ sign = ['-'] → IsDigits digits →
    SpellsPower true (mark :: (sign ++ digits))

/-- A name with its quotes, white space around it allowed. -/
def SpellsName (name : Option (List Char)) (t : List Char) : Prop :=
  ∃ before s after, t = before ++ '"' :: (s ++ '"' :: after) ∧
    IsGap before ∧ SpellsText name s ∧ IsGap after

/-- A member of an object and how its two sides are written. -/
structure MemberText where
  name : Option (List Char)
  value : Json
  nameText : List Char
  valueText : List Char

namespace MemberText

def member (part : MemberText) : Option (List Char) × Json :=
  (part.name, part.value)

def text (part : MemberText) : List Char :=
  part.nameText ++ ':' :: part.valueText

end MemberText

/-- How a value may be written. -/
inductive Spells : Json → List Char → Prop
  | nothing : Spells null "null".toList
  | truth (value : Bool) :
    Spells (bool value) (if value then "true".toList else "false".toList)
  | number (negative : Bool) (magnitude : Nat) {point power : Bool} {p q : List Char} :
    SpellsPoint point p → SpellsPower power q →
    Spells (if point || power then fraction else integer negative magnitude)
      ((if negative then ['-'] else []) ++ (Numeral.write magnitude ++ (p ++ q)))
  | quoted {text : Option (List Char)} {s : List Char} :
    SpellsText text s → Spells (string text) ('"' :: (s ++ ['"']))
  | noItems {gap : List Char} : IsGap gap → Spells (array []) ('[' :: (gap ++ [']']))
  | items {first : Json × List Char} {others : List (Json × List Char)} :
    (∀ part ∈ first :: others, Spells part.1 part.2) →
    Spells (array ((first :: others).map Prod.fst))
      ('[' :: (first.2 ++ (others.flatMap (fun part => ',' :: part.2) ++ [']'])))
  | noMembers {gap : List Char} : IsGap gap → Spells (object []) ('\x7b' :: (gap ++ ['\x7d']))
  | members {first : MemberText} {others : List MemberText} :
    (∀ part ∈ first :: others, SpellsName part.name part.nameText) →
    (∀ part ∈ first :: others, Spells part.value part.valueText) →
    Spells (object ((first :: others).map MemberText.member))
      ('\x7b' :: (first.text ++ (others.flatMap (fun part => ',' :: part.text) ++ ['\x7d'])))
  | spaced {value : Json} {before s after : List Char} :
    IsGap before → Spells value s → IsGap after → Spells value (before ++ (s ++ after))

/-- What may come right behind a value. -/
def Follows (rest : List Char) : Prop :=
  ∀ c ∈ rest.head?, c ∈ [' ', '\t', '\n', '\r', ',', ']', '\x7d']

theorem follows_nil : Follows [] :=
  nofun

theorem follows_cons {c : Char} (hc : c ∈ [',', ']', '\x7d']) (rest : List Char) :
    Follows (c :: rest) := by
  rintro _ ⟨⟩
  exact List.mem_append_right [' ', '\t', '\n', '\r'] hc

theorem IsGap.follows_append {gap : List Char} (hgap : IsGap gap) {rest : List Char}
    (hrest : Follows rest) : Follows (gap ++ rest) := by
  cases gap with
  | nil => exact hrest
  | cons space gap =>
      rintro _ ⟨⟩
      exact List.mem_append_left [',', ']', '\x7d'] (hgap space List.mem_cons_self)

/-! ## White space -/

theorem isSpace_iff {c : Char} : isSpace c = true ↔ c ∈ [' ', '\t', '\n', '\r'] := by
  simp [isSpace, or_assoc]

theorem skipSpace_append {gap : List Char} (hgap : IsGap gap) (s : List Char) :
    skipSpace (gap ++ s) = skipSpace s := by
  have hspaces : ∀ c ∈ gap, isSpace c = true := fun c hc => isSpace_iff.mpr (hgap c hc)
  rw [skipSpace, List.dropWhile_append_of_pos hspaces, skipSpace]

theorem skipSpace_cons {c : Char} (hc : isSpace c = false) (s : List Char) :
    skipSpace (c :: s) = c :: s := by
  rw [skipSpace, List.dropWhile_cons_of_neg (by simp [hc])]

theorem skipSpace_skipSpace (s : List Char) : skipSpace (skipSpace s) = skipSpace s :=
  List.dropWhile_idempotent isSpace s

theorem readValue?_congr {s t : List Char} (h : skipSpace s = skipSpace t) (bound : Nat) :
    readValue? bound s = readValue? bound t := by
  cases bound with
  | zero => rfl
  | succ bound => rw [readValue?, readValue?, h]

theorem readItems?_skipSpace (bound : Nat) (s : List Char) :
    readItems? bound (skipSpace s) = readItems? bound s := by
  cases bound with
  | zero => rfl
  | succ bound => rw [readItems?, readItems?, readValue?_congr (skipSpace_skipSpace s)]

theorem readMembers?_skipSpace (bound : Nat) (s : List Char) :
    readMembers? bound (skipSpace s) = readMembers? bound s := by
  cases bound with
  | zero => rfl
  | succ bound => rw [readMembers?, readMembers?, skipSpace_skipSpace]

/-! ## Numbers -/

theorem digitChar_ne {d : Nat} (hd : d < 10) {c : Char} (hc : Numeral.digit? c = none) :
    Numeral.digitChar d ≠ c := by
  intro heq
  have hdigit := Numeral.digit?_digitChar hd
  rw [heq, hc] at hdigit
  cases hdigit

/-- The first digit of a longer numeral is not zero. -/
theorem write_leading (n : Nat) :
    ¬((Numeral.write n).length = 0 ∨
      (1 < (Numeral.write n).length ∧ (Numeral.write n).head? = some '0')) := by
  obtain ⟨d, hd, hhead, hzero⟩ := Numeral.head?_write n
  rintro (hempty | ⟨hlong, hleading⟩)
  · rw [List.length_eq_zero_iff.mp hempty] at hhead
    cases hhead
  · have hdigit := Numeral.digit?_digitChar hd
    rw [Option.some.inj (hhead.symm.trans hleading)] at hdigit
    have hd0 : d = 0 := (Option.some.inj hdigit).symm
    rw [hzero hd0] at hlong
    exact absurd hlong (by decide)

/-- What cannot go on with the whole part of a number. -/
def EndsWhole (rest : List Char) : Prop :=
  ∀ c ∈ rest.head?, Numeral.digit? c = none ∧ c ≠ '.'

theorem Follows.endsWhole {rest : List Char} (h : Follows rest) : EndsWhole rest := by
  intro c hc
  have hmem := h c hc
  simp only [List.mem_cons, List.not_mem_nil, or_false] at hmem
  rcases hmem with rfl | rfl | rfl | rfl | rfl | rfl | rfl <;> decide

theorem SpellsPower.endsWhole {power : Bool} {q rest : List Char} (hq : SpellsPower power q)
    (h : Follows rest) : EndsWhole (q ++ rest) := by
  cases hq with
  | absent => exact h.endsWhole
  | given hmark hsign hdigits =>
      rintro _ ⟨⟩
      rcases hmark with rfl | rfl <;> decide

theorem SpellsPoint.not_digit {point : Bool} {p rest : List Char} (hp : SpellsPoint point p)
    (h : EndsWhole rest) : ∀ c ∈ (p ++ rest).head?, Numeral.digit? c = none := by
  cases hp with
  | absent => exact fun c hc => (h c hc).1
  | given hdigits =>
      rintro _ ⟨⟩
      rfl

theorem IsDigits.exists_takeDigits {digits rest : List Char} (h : IsDigits digits)
    (hrest : ∀ c ∈ rest.head?, Numeral.digit? c = none) :
    ∃ m count, Numeral.takeDigits 0 0 (digits ++ rest) = (m, count + 1, rest) := by
  have hm := Numeral.takeDigits_append h.2 hrest 0 0
  have hlength : digits.length ≠ 0 := fun hzero => h.1 (List.length_eq_zero_iff.mp hzero)
  obtain ⟨count, hcount⟩ := Nat.exists_eq_add_one_of_ne_zero hlength
  exact ⟨_, count, by rw [hm, Nat.zero_add, hcount]⟩

theorem SpellsPoint.readPoint?_append {point : Bool} {p rest : List Char}
    (hp : SpellsPoint point p) (h : EndsWhole rest) :
    readPoint? (p ++ rest) = some (point, rest) := by
  cases hp with
  | absent =>
      rw [List.nil_append, readPoint?.eq_def]
      split
      next => exact absurd rfl (h '.' rfl).2
      next => rfl
  | given hdigits =>
      obtain ⟨m, count, hm⟩ := hdigits.exists_takeDigits fun c hc => (h c hc).1
      simp only [List.cons_append, readPoint?, hm]

theorem SpellsPower.readPower?_append {power : Bool} {q rest : List Char}
    (hq : SpellsPower power q) (h : Follows rest) :
    readPower? (q ++ rest) = some (power, rest) := by
  cases hq with
  | absent =>
      cases rest with
      | nil => rfl
      | cons c rest =>
          have hmem := h c rfl
          simp only [List.mem_cons, List.not_mem_nil, or_false] at hmem
          rcases hmem with rfl | rfl | rfl | rfl | rfl | rfl | rfl <;> rfl
  | @given mark sign digits hmark hsign hdigits =>
      obtain ⟨m, count, hm⟩ := hdigits.exists_takeDigits fun c hc => (h.endsWhole c hc).1
      have hunsigned : ∀ tail, digits ++ rest ≠ '+' :: tail ∧ digits ++ rest ≠ '-' :: tail := by
        obtain ⟨d, ds, rfl⟩ := List.exists_cons_of_ne_nil hdigits.1
        have hd := hdigits.2 d List.mem_cons_self
        intro tail
        constructor <;> rintro ⟨⟩ <;> cases hd
      have hdigit : (decide (mark = 'e') || decide (mark = 'E')) = true := by simpa using hmark
      rw [List.cons_append, List.append_assoc]
      rcases hsign with rfl | rfl | rfl
      · have hplus := fun tail => (hunsigned tail).1
        have hminus := fun tail => (hunsigned tail).2
        rw [List.nil_append, readPower?.eq_3 mark _ hplus hminus, if_pos hdigit]
        simp only [hm]
      · rw [List.singleton_append, readPower?.eq_1, if_pos hdigit]
        simp only [hm]
      · rw [List.singleton_append, readPower?.eq_2, if_pos hdigit]
        simp only [hm]

theorem readNumber?_append (negative : Bool) (magnitude : Nat) {point power : Bool}
    {p q rest : List Char} (hp : SpellsPoint point p) (hq : SpellsPower power q)
    (h : Follows rest) :
    readNumber?
        ((if negative then ['-'] else []) ++ (Numeral.write magnitude ++ (p ++ q)) ++ rest) =
      some (if point || power then .fraction else .integer negative magnitude, rest) := by
  have htail : EndsWhole (q ++ rest) := hq.endsWhole h
  have hdigits : Numeral.takeDigits 0 0 (Numeral.write magnitude ++ (p ++ (q ++ rest))) =
      (magnitude, (Numeral.write magnitude).length, p ++ (q ++ rest)) := by
    rw [Numeral.takeDigits_write, Numeral.takeDigits_of_not_digit (hp.not_digit htail)]
  obtain ⟨d, hd, hhead, -⟩ := Numeral.head?_write magnitude
  have hhead' : (Numeral.write magnitude ++ (p ++ (q ++ rest))).head? =
      some (Numeral.digitChar d) := by
    rw [List.head?_append, hhead]
    rfl
  have hunsigned : ∀ digits, Numeral.write magnitude ++ (p ++ (q ++ rest)) = '-' :: digits →
      False := by
    intro digits heq
    rw [heq] at hhead'
    exact digitChar_ne hd (by decide) (Option.some.inj hhead').symm
  have hleading := write_leading magnitude
  rw [hhead, ← hhead'] at hleading
  simp only [List.append_assoc]
  cases negative
  case' true => rw [if_pos rfl, List.singleton_append, readNumber?]
  case' false =>
    rw [if_neg Bool.false_ne_true, List.nil_append, readNumber?.eq_2 _ hunsigned]
  all_goals
    simp only [hdigits]
    rw [if_neg (by simpa using hleading), hp.readPoint?_append htail]
    simp only [Option.bind_eq_bind, Option.bind_some, hq.readPower?_append h]

theorem readValue?_number {s : List Char} {c : Char} {cs : List Char} (hs : skipSpace s = c :: cs)
    (hc : c = '-' ∨ Numeral.digit? c ≠ none) (bound : Nat) :
    readValue? (bound + 1) s = readNumber? (c :: cs) := by
  have hother : ∀ d ∈ ['"', '[', '\x7b', 'n', 't', 'f'], c ≠ d := by
    rintro d hd rfl
    simp only [List.mem_cons, List.not_mem_nil, or_false] at hd
    rcases hd with rfl | rfl | rfl | rfl | rfl | rfl <;> exact absurd hc (by decide)
  have hliteral : ∀ d ds, d ∈ ['n', 't', 'f'] → Text.stripStart? (d :: ds) (c :: cs) = none := by
    intro d ds hd
    have hne : c ≠ d := hother d (List.mem_append_right ['"', '[', '\x7b'] hd)
    rw [Text.stripStart?, if_neg hne.symm]
  rw [readValue?, hs]
  split
  next heq => exact (hother '"' (by simp) (List.cons.inj heq).1).elim
  next heq => exact (hother '[' (by simp) (List.cons.inj heq).1).elim
  next heq => exact (hother '\x7b' (by simp) (List.cons.inj heq).1).elim
  next =>
    have hnull : Text.stripStart? "null".toList (c :: cs) = none := hliteral 'n' _ (by simp)
    have htrue : Text.stripStart? "true".toList (c :: cs) = none := hliteral 't' _ (by simp)
    have hfalse : Text.stripStart? "false".toList (c :: cs) = none := hliteral 'f' _ (by simp)
    simp only [hnull, htrue, hfalse]

/-- A number begins with a digit or a minus sign. -/
theorem exists_cons_number (negative : Bool) (magnitude : Nat) (rest : List Char) :
    ∃ c cs, (if negative then ['-'] else []) ++ (Numeral.write magnitude ++ rest) = c :: cs ∧
      (c = '-' ∨ Numeral.digit? c ≠ none) := by
  cases negative with
  | true => exact ⟨'-', _, rfl, .inl rfl⟩
  | false =>
      obtain ⟨d, hd, hhead, -⟩ := Numeral.head?_write magnitude
      obtain ⟨digits, hdigits⟩ := List.head?_eq_some_iff.mp hhead
      refine ⟨Numeral.digitChar d, digits ++ rest, by simp [hdigits], .inr ?_⟩
      rw [Numeral.digit?_digitChar hd]
      exact Option.some_ne_none d

theorem isSpace_eq_false {c : Char} (hc : c = '-' ∨ Numeral.digit? c ≠ none) :
    isSpace c = false := by
  have hne : ∀ d ∈ [' ', '\t', '\n', '\r'], c ≠ d := by
    rintro d hd rfl
    simp only [List.mem_cons, List.not_mem_nil, or_false] at hd
    rcases hd with rfl | rfl | rfl | rfl <;> exact absurd hc (by decide)
  simp [isSpace, hne]

/-! ## Values -/

/-- What is written for a value begins, behind white space, with a character that is neither white
space nor the end of an array. -/
theorem Spells.exists_cons {value : Json} {s : List Char} (h : Spells value s) :
    ∃ gap c cs, s = gap ++ c :: cs ∧ IsGap gap ∧ isSpace c = false ∧ c ≠ ']' := by
  induction h with
  | nothing => exact ⟨[], 'n', _, rfl, nofun, by decide, by decide⟩
  | truth value => cases value <;> exact ⟨[], _, _, rfl, nofun, by decide, by decide⟩
  | @number negative magnitude point power p q hp hq =>
      obtain ⟨c, cs, hs, hc⟩ := exists_cons_number negative magnitude (p ++ q)
      refine ⟨[], c, cs, hs, nofun, isSpace_eq_false hc, ?_⟩
      rintro rfl
      exact absurd hc (by decide)
  | quoted => exact ⟨[], '"', _, rfl, nofun, by decide, by decide⟩
  | noItems => exact ⟨[], '[', _, rfl, nofun, by decide, by decide⟩
  | items => exact ⟨[], '[', _, rfl, nofun, by decide, by decide⟩
  | noMembers => exact ⟨[], '\x7b', _, rfl, nofun, by decide, by decide⟩
  | members => exact ⟨[], '\x7b', _, rfl, nofun, by decide, by decide⟩
  | @spaced value before s after hbefore _ _ ih =>
      obtain ⟨gap, c, cs, rfl, hgap, hc⟩ := ih
      refine ⟨before ++ gap, c, cs ++ after, by simp, ?_, hc⟩
      exact List.forall_mem_append.mpr ⟨hbefore, hgap⟩

/-- What is written is taken off any text that begins with it, up to white space behind it, by a
reader that may go as deep as it is long. -/
def Reads (value : Json) (s : List Char) : Prop :=
  ∀ bound rest, s.length ≤ bound → Follows rest →
    ∃ left, readValue? bound (s ++ rest) = some (value, left) ∧ skipSpace left = skipSpace rest

theorem readItems?_append {first : Json × List Char} {others : List (Json × List Char)}
    (h : ∀ part ∈ first :: others, Reads part.1 part.2) {bound : Nat}
    (hbound : first.2.length + (others.flatMap fun part => ',' :: part.2).length < bound)
    (rest : List Char) :
    readItems? bound (first.2 ++ (others.flatMap (fun part => ',' :: part.2) ++ ']' :: rest)) =
      some ((first :: others).map Prod.fst, rest) := by
  obtain ⟨bound, rfl⟩ := Nat.exists_eq_add_one_of_ne_zero (Nat.ne_zero_of_lt hbound)
  induction others generalizing first bound with
  | nil =>
      obtain ⟨left, hread, hleft⟩ := h first List.mem_cons_self bound (']' :: rest) (by omega)
        (follows_cons (by simp) rest)
      rw [skipSpace_cons (by decide)] at hleft
      rw [List.flatMap_nil, List.nil_append, readItems?, hread]
      simp only [Option.bind_eq_bind, Option.bind_some, hleft]
      rfl
  | cons second others ih =>
      obtain ⟨hfirst, hothers⟩ := List.forall_mem_cons.mp h
      rw [List.flatMap_cons, List.length_append, List.length_cons] at hbound
      rw [List.flatMap_cons, List.append_assoc, List.cons_append]
      have hcomma : Follows (',' :: (second.2 ++ (others.flatMap (fun part => ',' :: part.2) ++
          ']' :: rest))) := follows_cons (by simp) _
      obtain ⟨left, hread, hleft⟩ := hfirst bound _ (by omega) hcomma
      rw [skipSpace_cons (by decide)] at hleft
      obtain ⟨bound, rfl⟩ := Nat.exists_eq_add_one_of_ne_zero (by omega : bound ≠ 0)
      have hitems := ih hothers bound (by omega)
      rw [readItems?, hread]
      simp only [Option.bind_eq_bind, Option.bind_some, hleft, hitems]
      rfl

/-- What is read behind a member: the end of the object, or its further members. -/
def readMembersAfter? (bound : Nat) (member : Option (List Char) × Json) :
    List Char → Option (List (Option (List Char) × Json) × List Char)
  | '\x7d' :: rest => some ([member], rest)
  | ',' :: rest => do
    let (members, rest) ← readMembers? bound rest
    some (member :: members, rest)
  | _ => none

theorem readMembers?_text {part : MemberText} (hname : SpellsName part.name part.nameText)
    (hread : Reads part.value part.valueText) {bound : Nat}
    (hbound : part.valueText.length ≤ bound) {rest : List Char} (hrest : Follows rest) :
    readMembers? (bound + 1) (part.text ++ rest) =
      readMembersAfter? bound part.member (skipSpace rest) := by
  obtain ⟨left, hvalue, hleft⟩ := hread bound rest hbound hrest
  obtain ⟨before, s, after, hnameText, hbefore, hs, hafter⟩ := hname
  have htext : part.text ++ rest =
      before ++ ('"' :: (s ++ '"' :: (after ++ ':' :: (part.valueText ++ rest)))) := by
    simp [MemberText.text, hnameText]
  have hcolon : skipSpace (after ++ ':' :: (part.valueText ++ rest)) =
      ':' :: (part.valueText ++ rest) := by
    rw [skipSpace_append hafter, skipSpace_cons (by decide)]
  rw [htext, readMembers?, skipSpace_append hbefore, skipSpace_cons (by decide)]
  simp only [hs.readString?_append, Option.bind_eq_bind, Option.bind_some, hcolon, hvalue, hleft]
  rfl

theorem readMembers?_append {first : MemberText} {others : List MemberText}
    (hnames : ∀ part ∈ first :: others, SpellsName part.name part.nameText)
    (hvalues : ∀ part ∈ first :: others, Reads part.value part.valueText) {bound : Nat}
    (hbound : first.text.length + (others.flatMap fun part => ',' :: part.text).length < bound)
    (rest : List Char) :
    readMembers? bound (first.text ++ (others.flatMap (fun part => ',' :: part.text) ++
      '\x7d' :: rest)) = some ((first :: others).map MemberText.member, rest) := by
  obtain ⟨bound, rfl⟩ := Nat.exists_eq_add_one_of_ne_zero (Nat.ne_zero_of_lt hbound)
  have hlength (part : MemberText) : part.valueText.length ≤ part.text.length := by
    simp only [MemberText.text, List.length_append, List.length_cons]
    omega
  have hfirst := hlength first
  induction others generalizing first bound with
  | nil =>
      rw [List.flatMap_nil, List.nil_append, readMembers?_text (hnames first List.mem_cons_self)
        (hvalues first List.mem_cons_self) (by omega) (follows_cons (by simp) rest),
        skipSpace_cons (by decide)]
      rfl
  | cons second others ih =>
      rw [List.flatMap_cons, List.length_append, List.length_cons] at hbound
      obtain ⟨bound, rfl⟩ := Nat.exists_eq_add_one_of_ne_zero (by omega : bound ≠ 0)
      have hmembers := ih (List.forall_mem_cons.mp hnames).2 (List.forall_mem_cons.mp hvalues).2
        bound (by omega) (hlength second)
      rw [List.flatMap_cons, List.append_assoc, List.cons_append,
        readMembers?_text (hnames first List.mem_cons_self) (hvalues first List.mem_cons_self)
          (by omega) (follows_cons (by simp) _), skipSpace_cons (by decide), readMembersAfter?,
        hmembers]
      rfl

/-- A value that is not empty and takes nothing from what follows it is read as it is written. -/
theorem reads_of_succ {value : Json} {s : List Char} (hs : s ≠ [])
    (h : ∀ bound rest, s.length ≤ bound + 1 → Follows rest →
      readValue? (bound + 1) (s ++ rest) = some (value, rest)) : Reads value s := by
  intro bound rest hbound hrest
  have hpositive : bound ≠ 0 := by
    rintro rfl
    exact hs (List.length_eq_zero_iff.mp (Nat.le_zero.mp hbound))
  obtain ⟨bound, rfl⟩ := Nat.exists_eq_add_one_of_ne_zero hpositive
  exact ⟨rest, h bound rest hbound hrest, rfl⟩

theorem reads_number (negative : Bool) (magnitude : Nat) {point power : Bool} {p q : List Char}
    (hp : SpellsPoint point p) (hq : SpellsPower power q) :
    Reads (if point || power then fraction else integer negative magnitude)
      ((if negative then ['-'] else []) ++ (Numeral.write magnitude ++ (p ++ q))) := by
  obtain ⟨c, cs, hs, hc⟩ := exists_cons_number negative magnitude (p ++ q)
  refine reads_of_succ (by simp [hs]) fun bound rest _ hrest => ?_
  rw [← readNumber?_append negative magnitude hp hq hrest, hs]
  exact readValue?_number (skipSpace_cons (isSpace_eq_false hc) _) hc bound

theorem reads_items {first : Json × List Char} {others : List (Json × List Char)}
    (h : ∀ part ∈ first :: others, Spells part.1 part.2 ∧ Reads part.1 part.2) :
    Reads (array ((first :: others).map Prod.fst))
      ('[' :: (first.2 ++ (others.flatMap (fun part => ',' :: part.2) ++ [']']))) := by
  refine reads_of_succ (by simp) fun bound rest hbound _ => ?_
  simp only [List.length_cons, List.length_append, List.length_nil] at hbound
  obtain ⟨gap, c, cs, hfirst, hgap, hc, hclose⟩ := (h first List.mem_cons_self).1.exists_cons
  have hitems := readItems?_append (fun part hpart => (h part hpart).2)
    (by omega : _ < bound) rest
  -- no item begins with the bracket that closes the array
  have hopen (tail : List Char) : skipSpace (first.2 ++ tail) = c :: (cs ++ tail) := by
    rw [hfirst, List.append_assoc, skipSpace_append hgap, List.cons_append, skipSpace_cons hc]
  simp only [List.cons_append, List.append_assoc, List.nil_append, readValue?,
    skipSpace_cons (c := '[') (by decide)]
  rw [← readItems?_skipSpace, hopen] at hitems
  rw [hopen]
  split
  next heq => exact (hclose (List.cons.inj heq).1).elim
  next => rw [hitems, Option.map_some]

theorem reads_members {first : MemberText} {others : List MemberText}
    (hnames : ∀ part ∈ first :: others, SpellsName part.name part.nameText)
    (hvalues : ∀ part ∈ first :: others, Reads part.value part.valueText) :
    Reads (object ((first :: others).map MemberText.member))
      ('\x7b' :: (first.text ++ (others.flatMap (fun part => ',' :: part.text) ++ ['\x7d']))) := by
  refine reads_of_succ (by simp) fun bound rest hbound _ => ?_
  simp only [List.length_cons, List.length_append, List.length_nil] at hbound
  have hmembers := readMembers?_append hnames hvalues (by omega : _ < bound) rest
  obtain ⟨before, s, after, hname, hbefore, -, -⟩ := hnames first List.mem_cons_self
  have hopen (tail : List Char) : ∃ cs, skipSpace (first.text ++ tail) = '"' :: cs := by
    rw [MemberText.text, hname, List.append_assoc, List.append_assoc, skipSpace_append hbefore]
    exact ⟨_, skipSpace_cons (by decide) _⟩
  obtain ⟨cs, hcs⟩ := hopen (others.flatMap (fun part => ',' :: part.text) ++ '\x7d' :: rest)
  simp only [List.cons_append, List.append_assoc, List.nil_append, readValue?,
    skipSpace_cons (c := '\x7b') (by decide)]
  rw [← readMembers?_skipSpace, hcs] at hmembers
  rw [hcs]
  split
  next heq => cases heq
  next => rw [hmembers, Option.map_some]

theorem Spells.reads {value : Json} {s : List Char} (h : Spells value s) : Reads value s := by
  induction h with
  | nothing => exact reads_of_succ (by simp) fun _ _ _ _ => rfl
  | truth value =>
      cases value <;> exact reads_of_succ (by simp) fun _ _ _ _ => rfl
  | number negative magnitude hp hq => exact reads_number negative magnitude hp hq
  | @quoted text s htext =>
      refine reads_of_succ (by simp) fun bound rest _ _ => ?_
      rw [List.cons_append, List.append_assoc, readValue?, skipSpace_cons (by decide)]
      simp only [List.singleton_append, htext.readString?_append, Option.map_some]
  | @noItems gap hgap =>
      refine reads_of_succ (by simp) fun bound rest _ _ => ?_
      simp only [List.cons_append, List.append_assoc, List.nil_append, readValue?,
        skipSpace_cons (c := '[') (by decide), skipSpace_append hgap,
        skipSpace_cons (c := ']') (by decide)]
  | items hparts ih => exact reads_items fun part hpart => ⟨hparts part hpart, ih part hpart⟩
  | @noMembers gap hgap =>
      refine reads_of_succ (by simp) fun bound rest _ _ => ?_
      simp only [List.cons_append, List.append_assoc, List.nil_append, readValue?,
        skipSpace_cons (c := '\x7b') (by decide), skipSpace_append hgap,
        skipSpace_cons (c := '\x7d') (by decide)]
  | members hnames _ ih => exact reads_members hnames ih
  | @spaced value before s after hbefore _ hafter ih =>
      intro bound rest hbound hrest
      simp only [List.length_append] at hbound
      obtain ⟨left, hread, hleft⟩ :=
        ih bound (after ++ rest) (by omega) (hafter.follows_append hrest)
      refine ⟨left, ?_, hleft.trans (skipSpace_append hafter rest)⟩
      rw [List.append_assoc, List.append_assoc, ← hread]
      exact readValue?_congr (skipSpace_append hbefore _) bound

/-- Whatever is written for a value is read as the value. -/
theorem Spells.read?_eq_some {value : Json} {s : List Char} (h : Spells value s) :
    read? s = some value := by
  obtain ⟨left, hread, hleft⟩ := h.reads (s.length + 1) [] (Nat.le_succ _) follows_nil
  rw [List.append_nil] at hread
  rw [read?, hread]
  simp only [Option.bind_eq_bind, Option.bind_some, hleft]
  rfl

end GpuTelemetry.Json
