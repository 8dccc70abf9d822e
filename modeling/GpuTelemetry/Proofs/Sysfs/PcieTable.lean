import GpuTelemetry.Proofs.Numeral.Reading
import GpuTelemetry.Proofs.Numeral.Writing
import GpuTelemetry.Proofs.Text.Blank
import GpuTelemetry.Proofs.Text.Lines
import GpuTelemetry.Sysfs.PcieLink
import Mathlib.Data.Bool.AllAny

/-!
# The table of link states

Which lines of the table describe a link, with no reference to how they are read.
The reader takes the first line that does so and is marked active, and no other.
So in a table as the driver writes it, it finds the speed and the width of the
state that is marked, wherever that stands.
-/

namespace GpuTelemetry

/-! ## Digits -/

namespace Text

/-- No run of digits meets a range of white space. -/
theorem digitZeros_blankRanges :
    ∀ start ∈ digitZeros, ∀ range ∈ blankRanges, start + 9 < range.1 ∨ range.2 < start := by
  decide

theorem isBlank_of_isDecimalDigit {c : Char} (h : isDecimalDigit c = true) :
    isBlank c = false := by
  obtain ⟨start, hstart, hdigit⟩ := List.any_eq_true.mp h
  simp only [Bool.and_eq_true, decide_eq_true_eq] at hdigit
  rw [isBlank, List.any_eq_false]
  intro range hrange
  have hapart := digitZeros_blankRanges start hstart range hrange
  simp only [Bool.and_eq_true, decide_eq_true_eq]
  omega

theorem isDecimalDigit_of_isDigit {c : Char} (h : c.isDigit = true) :
    isDecimalDigit c = true := by
  obtain ⟨hlow, hhigh⟩ := Numeral.isDigit_iff.mp h
  refine List.any_eq_true.mpr ⟨'0'.toNat, by decide, ?_⟩
  simp only [Bool.and_eq_true, decide_eq_true_eq]
  exact ⟨UInt32.le_iff_toNat_le.mp hlow, Nat.lt_succ_of_le (UInt32.le_iff_toNat_le.mp hhigh)⟩

end Text

namespace Sysfs

/-- A run of decimal digits of any script. -/
def IsNumber (s : List Char) : Prop :=
  s ≠ [] ∧ ∀ c ∈ s, Text.isDecimalDigit c = true

/-- A number in ASCII digits that fits a word. -/
def Denotes (s : List Char) (n : UInt32) : Prop :=
  s ≠ [] ∧ (∀ c ∈ s, c.isDigit = true) ∧ Numeral.valueOf s = n.toNat

theorem denotes_write (n : UInt32) : Denotes (Numeral.write n.toNat) n :=
  ⟨Numeral.write_ne_nil _, fun _ => Numeral.isDigit_of_mem_write, Numeral.valueOf_write _⟩

theorem isNumber_write (n : Nat) : IsNumber (Numeral.write n) :=
  ⟨Numeral.write_ne_nil n,
    fun _ hc => Text.isDecimalDigit_of_isDigit (Numeral.isDigit_of_mem_write hc)⟩

theorem Denotes.isNumber {s : List Char} {n : UInt32} (h : Denotes s n) : IsNumber s :=
  ⟨h.1, fun c hc => Text.isDecimalDigit_of_isDigit (h.2.1 c hc)⟩

/-- Of a run of digits, the reader of words takes just those that are all ASCII and in range. -/
theorem IsNumber.read?_eq_some_iff {s : List Char} (h : IsNumber s) {n : UInt32} :
    Word.read? s = some n ↔ Denotes s n := by
  rw [Word.read?_eq_some_iff]
  constructor
  · rintro ⟨digits, rfl | rfl, hne, hall, hvalue⟩
    · exact ⟨hne, hall, hvalue⟩
    · exact absurd (h.2 '+' List.mem_cons_self) (by decide)
  · rintro ⟨hne, hall, hvalue⟩
    exact ⟨s, .inl rfl, hne, hall, hvalue⟩

theorem digits?_eq_some_iff {s run rest : List Char} :
    digits? s = some (run, rest) ↔
      s = run ++ rest ∧ IsNumber run ∧ ∀ c ∈ rest.head?, Text.isDecimalDigit c = false := by
  constructor
  · intro h
    simp only [digits?] at h
    split at h
    next => cases h
    next hne =>
      cases h
      refine ⟨List.takeWhile_append_dropWhile.symm, ⟨?_, ?_⟩, ?_⟩
      · simpa using hne
      · exact List.all_eq_true.mp List.all_takeWhile
      · intro c hc
        have hstop := List.head?_dropWhile_not Text.isDecimalDigit s
        rwa [Option.mem_def.mp hc] at hstop
  · rintro ⟨rfl, ⟨hne, hall⟩, hrest⟩
    have htake : (run ++ rest).takeWhile Text.isDecimalDigit = run := by
      rw [List.takeWhile_append_of_pos hall]
      cases rest with
      | nil => simp
      | cons c rest => simp [hrest c rfl]
    have hdrop : (run ++ rest).dropWhile Text.isDecimalDigit = rest := by
      rw [List.dropWhile_append_of_pos hall]
      cases rest with
      | nil => rfl
      | cons c rest => rw [List.dropWhile_cons_of_neg (by simp [hrest c rfl])]
    simp [digits?, htake, hdrop, hne]

/-- Digits do not begin with white space, so none of them is trimmed. -/
theorem digits?_trimStart_eq_some_iff {s run rest : List Char} :
    digits? (Text.trimStart s) = some (run, rest) ↔
      ∃ blanks, s = blanks ++ (run ++ rest) ∧ (∀ c ∈ blanks, Text.isBlank c = true) ∧
        IsNumber run ∧ ∀ c ∈ rest.head?, Text.isDecimalDigit c = false := by
  have htrim (h : IsNumber run) : Text.trimStart s = run ++ rest ↔
      ∃ blanks, s = blanks ++ (run ++ rest) ∧ ∀ c ∈ blanks, Text.isBlank c = true := by
    refine Text.trimStart_eq_iff ⟨run.head h.1, ?_, ?_⟩
    · rw [List.head?_append_of_ne_nil run h.1]
      exact List.head_mem_head? h.1
    · exact Text.isBlank_of_isDecimalDigit (h.2 _ (List.head_mem h.1))
  rw [digits?_eq_some_iff]
  constructor
  · rintro ⟨hs, hrun, hrest⟩
    obtain ⟨blanks, hs, hblanks⟩ := (htrim hrun).mp hs
    exact ⟨blanks, hs, hblanks, hrun, hrest⟩
  · rintro ⟨blanks, hs, hblanks, hrun, hrest⟩
    exact ⟨(htrim hrun).mpr ⟨blanks, hs, hblanks⟩, hrun, hrest⟩

theorem stripStart?_trimStart_eq_some_iff {mark : Char} (hmark : Text.isBlank mark = false)
    {s rest : List Char} :
    Text.stripStart? [mark] (Text.trimStart s) = some rest ↔
      ∃ blanks, s = blanks ++ mark :: rest ∧ ∀ c ∈ blanks, Text.isBlank c = true := by
  rw [Text.stripStart?_eq_some_iff]
  exact Text.trimStart_eq_iff ⟨mark, rfl, hmark⟩

/-! ## Lines that describe a link -/

/-- The lines that describe a link: an index and a colon, a speed with a point, its fraction and its
unit, and a width behind the letter for it. What comes behind the width is free. -/
inductive Describes : List Char → PcieLink → Prop
  | line {before index between speed fraction gap width rest : List Char} {link : PcieLink}
    (hblanks : ∀ c ∈ before ++ between ++ gap, Text.isBlank c = true)
    (hindex : IsNumber index) (hspeed : Denotes speed link.speed)
    (hfraction : IsNumber fraction) (hwidth : Denotes width link.width)
    (hrest : ∀ c ∈ rest.head?, Text.isDecimalDigit c = false) :
    Describes (before ++ (index ++ ':' :: (between ++ (speed ++ '.' :: (fraction ++
      ("GT/s,".toList ++ (gap ++ 'x' :: (width ++ rest)))))))) link

theorem ofLine?_eq_some_iff {line : List Char} {link : PcieLink} :
    PcieLink.ofLine? line = some link ↔ Describes line link := by
  constructor
  · intro h
    obtain ⟨⟨index, r⟩, hindex, h⟩ := Option.bind_eq_some_iff.mp h
    obtain ⟨r₁, hcolon, h⟩ := Option.bind_eq_some_iff.mp h
    obtain ⟨⟨speed, r₂⟩, hspeed, h⟩ := Option.bind_eq_some_iff.mp h
    obtain ⟨r₃, hpoint, h⟩ := Option.bind_eq_some_iff.mp h
    obtain ⟨⟨fraction, r₄⟩, hfraction, h⟩ := Option.bind_eq_some_iff.mp h
    obtain ⟨r₅, hunit, h⟩ := Option.bind_eq_some_iff.mp h
    obtain ⟨r₆, hletter, h⟩ := Option.bind_eq_some_iff.mp h
    obtain ⟨⟨width, rest⟩, hwidth, h⟩ := Option.bind_eq_some_iff.mp h
    obtain ⟨speedWord, hspeedWord, h⟩ := Option.bind_eq_some_iff.mp h
    obtain ⟨widthWord, hwidthWord, h⟩ := Option.bind_eq_some_iff.mp h
    cases h
    dsimp only at *
    obtain ⟨before, rfl, hbefore, hindex', -⟩ := digits?_trimStart_eq_some_iff.mp hindex
    obtain rfl := Text.stripStart?_eq_some_iff.mp hcolon
    obtain ⟨between, rfl, hbetween, hspeed', -⟩ := digits?_trimStart_eq_some_iff.mp hspeed
    obtain rfl := Text.stripStart?_eq_some_iff.mp hpoint
    obtain ⟨rfl, hfraction', -⟩ := digits?_eq_some_iff.mp hfraction
    obtain rfl := Text.stripStart?_eq_some_iff.mp hunit
    obtain ⟨gap, rfl, hgap⟩ := (stripStart?_trimStart_eq_some_iff (by decide)).mp hletter
    obtain ⟨rfl, hwidth', hrest⟩ := digits?_eq_some_iff.mp hwidth
    refine .line ?_ hindex' (hspeed'.read?_eq_some_iff.mp hspeedWord) hfraction'
      (hwidth'.read?_eq_some_iff.mp hwidthWord) hrest
    intro c hc
    rcases List.mem_append.mp hc with hc | hc
    · exact (List.mem_append.mp hc).elim (hbefore c) (hbetween c)
    · exact hgap c hc
  · intro h
    obtain @⟨before, index, between, speed, fraction, gap, width, rest, _, hblanks, hindex, hspeed,
      hfraction, hwidth, hrest⟩ := h
    simp only [List.forall_mem_append] at hblanks
    obtain ⟨⟨hbefore, hbetween⟩, hgap⟩ := hblanks
    -- each number ends at a character that is no digit
    have hstop (c : Char) (hc : Text.isDecimalDigit c = false) (s : List Char) :
        ∀ d ∈ (c :: s).head?, Text.isDecimalDigit d = false := by
      rintro _ ⟨⟩
      exact hc
    refine Option.bind_eq_some_iff.mpr ⟨(index, _), digits?_trimStart_eq_some_iff.mpr
      ⟨before, rfl, hbefore, hindex, hstop ':' (by decide) _⟩, ?_⟩
    refine Option.bind_eq_some_iff.mpr ⟨_, Text.stripStart?_eq_some_iff.mpr rfl, ?_⟩
    refine Option.bind_eq_some_iff.mpr ⟨(speed, _), digits?_trimStart_eq_some_iff.mpr
      ⟨between, rfl, hbetween, hspeed.isNumber, hstop '.' (by decide) _⟩, ?_⟩
    refine Option.bind_eq_some_iff.mpr ⟨_, Text.stripStart?_eq_some_iff.mpr rfl, ?_⟩
    refine Option.bind_eq_some_iff.mpr ⟨(fraction, _), digits?_eq_some_iff.mpr
      ⟨rfl, hfraction, hstop 'G' (by decide) _⟩, ?_⟩
    refine Option.bind_eq_some_iff.mpr ⟨_, Text.stripStart?_eq_some_iff.mpr rfl, ?_⟩
    refine Option.bind_eq_some_iff.mpr
      ⟨_, (stripStart?_trimStart_eq_some_iff (by decide)).mpr ⟨gap, rfl, hgap⟩, ?_⟩
    refine Option.bind_eq_some_iff.mpr ⟨(width, rest), digits?_eq_some_iff.mpr
      ⟨rfl, hwidth.isNumber, hrest⟩, ?_⟩
    refine Option.bind_eq_some_iff.mpr
      ⟨_, hspeed.isNumber.read?_eq_some_iff.mpr hspeed, ?_⟩
    exact Option.bind_eq_some_iff.mpr ⟨_, hwidth.isNumber.read?_eq_some_iff.mpr hwidth, rfl⟩

/-! ## The line that counts -/

/-- Whether a line is marked: behind an asterisk there is only white space. -/
def IsMarked (line : List Char) : Prop :=
  ∃ front blanks, line = front ++ '*' :: blanks ∧ ∀ c ∈ blanks, Text.isBlank c = true

/-- A line shows a link if it is marked and describes the link. -/
def Shows (line : List Char) (link : PcieLink) : Prop :=
  IsMarked line ∧ Describes line link

/-- The link of a table is that of the first line that shows one. -/
def IsFirstShown (table : List Char) (link : PcieLink) : Prop :=
  ∃ before line after, Text.lines table = before ++ line :: after ∧ Shows line link ∧
    ∀ earlier ∈ before, ∀ other, ¬ Shows earlier other

theorem isActive_iff {line : List Char} : PcieLink.isActive line = true ↔ IsMarked line := by
  rw [PcieLink.isActive, decide_eq_true_eq]
  exact Text.getLast?_trimEnd_eq_some_iff (by decide)

/-- What the table is searched for. -/
def shown? (line : List Char) : Option PcieLink :=
  if PcieLink.isActive line then PcieLink.ofLine? line else none

theorem active?_eq (table : List Char) :
    PcieLink.active? table = (Text.lines table).findSome? shown? := by
  rw [PcieLink.active?, ← List.head?_filterMap, List.filterMap_filter, List.head?_filterMap]
  rfl

theorem shown?_eq_some_iff {line : List Char} {link : PcieLink} :
    shown? line = some link ↔ Shows line link := by
  rw [shown?, Option.ite_none_right_eq_some, isActive_iff, ofLine?_eq_some_iff]
  rfl

theorem shown?_eq_none_iff {line : List Char} :
    shown? line = none ↔ ∀ link, ¬ Shows line link := by
  rw [Option.eq_none_iff_forall_ne_some]
  exact forall_congr' fun link => not_congr shown?_eq_some_iff

theorem active?_eq_some_iff {table : List Char} {link : PcieLink} :
    PcieLink.active? table = some link ↔ IsFirstShown table link := by
  simp only [active?_eq, List.findSome?_eq_some_iff, shown?_eq_some_iff, shown?_eq_none_iff,
    IsFirstShown]

theorem active?_eq_none_iff {table : List Char} :
    PcieLink.active? table = none ↔ ∀ line ∈ Text.lines table, ∀ link, ¬ Shows line link := by
  simp only [active?_eq, List.findSome?_eq_none_iff, shown?_eq_none_iff]

/-! ## Tables as the driver writes them -/

/-- A state of the link, with the spaces that pad its line behind the width and at the end. -/
structure LinkState where
  link : PcieLink
  fraction : List Char
  fraction_isNumber : IsNumber fraction
  clock : Nat
  padding : Nat
  trailing : Nat

namespace LinkState

/-- The line up to the mark. -/
def front (index : Nat) (state : LinkState) : List Char :=
  Numeral.write index ++ ':' :: ([' '] ++ (Numeral.write state.link.speed.toNat ++
    '.' :: (state.fraction ++ ("GT/s,".toList ++ ([' '] ++
      'x' :: (Numeral.write state.link.width.toNat ++ ' ' ::
        (List.replicate state.padding ' ' ++ Numeral.write state.clock ++ "Mhz".toList)))))))

def row (active index : Nat) (state : LinkState) : List Char :=
  front index state ++ (if index = active then " *".toList else []) ++
    List.replicate state.trailing ' '

/-- The lines of a table, numbered from `index`, with the mark in one of them. -/
def rows (active : Nat) : Nat → List LinkState → List (List Char)
  | _, [] => []
  | index, state :: states => row active index state :: rows active (index + 1) states

def writeTable (states : List LinkState) (active : Nat) : List Char :=
  (rows active 0 states).flatMap fun line => line ++ ['\n']

theorem describes_row (active index : Nat) (state : LinkState) :
    Describes (row active index state) state.link := by
  have hblanks : ∀ c ∈ [] ++ [' '] ++ [' '], Text.isBlank c = true :=
    List.all_eq_true.mp (by decide)
  have hend : ∀ c ∈ (' ' :: (List.replicate state.padding ' ' ++ Numeral.write state.clock ++
      "Mhz".toList) ++ (if index = active then " *".toList else []) ++
        List.replicate state.trailing ' ').head?, Text.isDecimalDigit c = false := by
    rintro _ ⟨⟩
    decide
  have hdescribes := Describes.line hblanks (isNumber_write index)
    (denotes_write state.link.speed) state.fraction_isNumber (denotes_write state.link.width) hend
  convert hdescribes using 1
  simp only [row, front, List.append_assoc, List.cons_append, List.nil_append]

theorem getLast?_front (index : Nat) (state : LinkState) :
    (front index state).getLast? = some 'z' := by
  simp [front, List.getLast?_append, List.getLast?_cons]

theorem isMarked_row_iff {active index : Nat} {state : LinkState} :
    IsMarked (row active index state) ↔ index = active := by
  have hspaces : ∀ c ∈ List.replicate state.trailing ' ', Text.isBlank c = true := by
    intro c hc
    rw [List.eq_of_mem_replicate hc]
    decide
  constructor
  · intro hmarked
    by_contra hindex
    -- without the mark the line ends in the unit of the clock
    have hunit : (Text.trimEnd (row active index state)).getLast? = some 'z' := by
      obtain ⟨body, hbody⟩ := List.getLast?_eq_some_iff.mp (getLast?_front index state)
      refine (Text.getLast?_trimEnd_eq_some_iff (by decide)).mpr ⟨body, _, ?_, hspaces⟩
      rw [row, if_neg hindex, hbody]
      simp
    have hmark := isActive_iff.mpr hmarked
    rw [PcieLink.isActive, hunit] at hmark
    exact absurd hmark (by decide)
  · rintro rfl
    refine ⟨front index state ++ [' '], _, ?_, hspaces⟩
    rw [row, if_pos rfl]
    simp

/-- The only white space in a line is the space. -/
theorem eq_space_of_mem_row (active index : Nat) (state : LinkState) :
    ∀ c ∈ row active index state, Text.isBlank c = true → c = ' ' := by
  have hnumber {s : List Char} (hs : IsNumber s) : ∀ c ∈ s, Text.isBlank c = true → c = ' ' := by
    intro c hc hblank
    rw [Text.isBlank_of_isDecimalDigit (hs.2 c hc)] at hblank
    cases hblank
  have hspaces (n : Nat) : ∀ c ∈ List.replicate n ' ', Text.isBlank c = true → c = ' ' :=
    fun _ hc _ => List.eq_of_mem_replicate hc
  have hmark : ∀ c ∈ (if index = active then " *".toList else []),
      Text.isBlank c = true → c = ' ' := by
    split
    · exact List.all_iff_forall_prop.mp (by decide)
    · nofun
  have hunits : ∀ c ∈ "GT/s,".toList ++ "Mhz".toList, Text.isBlank c = true → c = ' ' :=
    List.all_iff_forall_prop.mp (by decide)
  obtain ⟨hspeed, hclock⟩ := List.forall_mem_append.mp hunits
  simp only [row, front, List.forall_mem_append, List.forall_mem_cons]
  exact ⟨⟨⟨hnumber (isNumber_write _), by decide, ⟨fun _ => trivial, nofun⟩,
    hnumber (isNumber_write _), by decide, hnumber state.fraction_isNumber, hspeed,
    ⟨fun _ => trivial, nofun⟩, by decide, hnumber (isNumber_write _), by decide,
    ⟨hspaces _, hnumber (isNumber_write _)⟩, hclock⟩, hmark⟩, hspaces _⟩

theorem exists_of_mem_rows {states : List LinkState} {active first : Nat} {line : List Char}
    (h : line ∈ rows active first states) : ∃ index state, line = row active index state := by
  induction states generalizing first with
  | nil => cases h
  | cons state states ih =>
      rcases List.mem_cons.mp h with rfl | h
      · exact ⟨first, state, rfl⟩
      · exact ih h

theorem lines_writeTable (states : List LinkState) (active : Nat) :
    Text.lines (writeTable states active) = rows active 0 states := by
  have hrow : ∀ line ∈ rows active 0 states, '\n' ∉ line ∧ '\r' ∉ line := by
    intro line hline
    obtain ⟨index, state, rfl⟩ := exists_of_mem_rows hline
    have hspace := eq_space_of_mem_row active index state
    exact ⟨fun hc => absurd (hspace _ hc (by decide)) (by decide),
      fun hc => absurd (hspace _ hc (by decide)) (by decide)⟩
  rw [writeTable, Text.lines_flatMap fun line hline => (hrow line hline).1]
  conv_rhs => rw [← List.map_id (rows active 0 states)]
  exact List.map_congr_left fun line hline => Text.withoutReturn_of_not_mem (hrow line hline).2

theorem findSome?_rows {active index : Nat} (states : List LinkState) (h : index ≤ active) :
    (rows active index states).findSome? shown? = states[active - index]?.map LinkState.link := by
  induction states generalizing index with
  | nil => rfl
  | cons state states ih =>
      rw [rows, List.findSome?_cons]
      by_cases hindex : index = active
      · subst hindex
        have hshows : Shows (row index index state) state.link :=
          ⟨isMarked_row_iff.mpr rfl, describes_row index index state⟩
        rw [shown?_eq_some_iff.mpr hshows, Nat.sub_self]
        rfl
      · have hnone : shown? (row active index state) = none :=
          shown?_eq_none_iff.mpr fun link hshows => hindex (isMarked_row_iff.mp hshows.1)
        obtain ⟨distance, hdistance⟩ := Nat.exists_eq_add_of_lt (Nat.lt_of_le_of_ne h hindex)
        rw [hnone, ih (by omega)]
        have hnext : active - index = active - (index + 1) + 1 := by omega
        rw [hnext, List.getElem?_cons_succ]

end LinkState

/-- The link that is found in a table is that of the first marked line that describes one, and none
is found if there is no such line. In a table as the driver writes it that is the marked state. -/
theorem active?_of_table :
    (∀ table link, PcieLink.active? table = some link ↔ IsFirstShown table link) ∧
    (∀ table, PcieLink.active? table = none ↔
      ∀ line ∈ Text.lines table, ∀ link, ¬ Shows line link) ∧
    ∀ (states : List LinkState) (active : Fin states.length),
      PcieLink.active? (LinkState.writeTable states active) = some states[active].link := by
  refine ⟨fun _ _ => active?_eq_some_iff, fun _ => active?_eq_none_iff, fun states active => ?_⟩
  rw [active?_eq, LinkState.lines_writeTable,
    LinkState.findSome?_rows states (Nat.zero_le active)]
  simp

example : PcieLink.active?
    "0: 4294967296.0GT/s, x8 97Mhz *\n1: 8.0GT/s, x16 619Mhz * \n".toList =
      some { speed := 8, width := 16 } := by decide +kernel

end Sysfs

end GpuTelemetry
