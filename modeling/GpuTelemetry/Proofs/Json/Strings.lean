import GpuTelemetry.Json.Printer
import GpuTelemetry.Json.Reader

/-!
# How strings may be written

A character may stand for itself, be written as a short escape, or as the number
of its code point, which takes two escapes beyond the 16-bit range. The reader
finds the same text in all of these forms. The printer uses just one of them.
-/

namespace GpuTelemetry.Json

/-- The escapes of a single character: what stands behind the backslash, and what that is for. -/
def shortEscapes : List (Char × Char) :=
  [('"', '"'), ('\\', '\\'), ('/', '/'), ('b', '\x08'), ('f', '\x0c'), ('n', '\n'), ('r', '\r'),
    ('t', '\t')]

/-- Whether a character is the hexadecimal digit for a number, in either case. -/
def IsHexDigit (c : Char) (n : Nat) : Prop :=
  "0123456789abcdef".toList[n]? = some c ∨ "0123456789ABCDEF".toList[n]? = some c

/-- The first half of a surrogate pair. -/
def IsFirstHalf (n : Nat) : Prop :=
  0xD800 ≤ n ∧ n < 0xDC00

/-- The second half of a surrogate pair. -/
def IsSecondHalf (n : Nat) : Prop :=
  0xDC00 ≤ n ∧ n < 0xE000

/-- How an element of a string may be written. -/
inductive SpellsUnit : Unit16 → List Char → Prop
  | plain {c : Char} : c ≠ '"' → c ≠ '\\' → 0x20 ≤ c.toNat → SpellsUnit (.char c) [c]
  | short {c d : Char} : (d, c) ∈ shortEscapes → SpellsUnit (.char c) ['\\', d]
  | number {a b c d : Char} {i j k l : Nat} :
    IsHexDigit a i → IsHexDigit b j → IsHexDigit c k → IsHexDigit d l →
    SpellsUnit (.unit (i * 0x1000 + j * 0x100 + k * 0x10 + l)) ['\\', 'u', a, b, c, d]

/-- How a character may be written. -/
inductive SpellsChar : Char → List Char → Prop
  | char {c : Char} {s : List Char} : SpellsUnit (.char c) s → SpellsChar c s
  | unit {c : Char} {s : List Char} : SpellsUnit (.unit c.toNat) s → SpellsChar c s
  | pair {c : Char} {high low : Nat} {s t : List Char} :
    SpellsUnit (.unit high) s → SpellsUnit (.unit low) t → IsFirstHalf high → IsSecondHalf low →
    c.toNat = 0x10000 + (high - 0xD800) * 0x400 + (low - 0xDC00) → SpellsChar c (s ++ t)

/-- Whether the elements of a string are no text: there is a first half that no second half follows,
or a second half that follows no first half. -/
def IsBroken (units : List Unit16) : Prop :=
  ∃ front back n, units = front ++ .unit n :: back ∧
    ((IsFirstHalf n ∧ ∀ m, back.head? = some (.unit m) → ¬ IsSecondHalf m) ∨
      (IsSecondHalf n ∧ ∀ m, front.getLast? = some (.unit m) → ¬ IsFirstHalf m))

/-- What may stand between the quotes of a string, if it is a text and if it is none. -/
inductive SpellsText : Option (List Char) → List Char → Prop
  | text {parts : List (Char × List Char)} :
    (∀ part ∈ parts, SpellsChar part.1 part.2) →
    SpellsText (some (parts.map Prod.fst)) (parts.flatMap Prod.snd)
  | broken {parts : List (Unit16 × List Char)} :
    (∀ part ∈ parts, SpellsUnit part.1 part.2) → IsBroken (parts.map Prod.fst) →
    SpellsText none (parts.flatMap Prod.snd)

/-- A text that needs no escapes may stand for itself. -/
theorem spellsText_self {text : List Char}
    (h : ∀ c ∈ text, c ≠ '"' ∧ c ≠ '\\' ∧ 0x20 ≤ c.toNat) : SpellsText (some text) text := by
  have hparts : ∀ part ∈ text.map (fun c => (c, [c])), SpellsChar part.1 part.2 :=
    List.forall_mem_map.mpr fun c hc => .char (.plain (h c hc).1 (h c hc).2.1 (h c hc).2.2)
  have htext := SpellsText.text hparts
  simpa [List.flatMap_map, Function.comp_def] using htext

/-! ## Escapes -/

theorem simpleEscape?_of_mem {c d : Char} (h : (d, c) ∈ shortEscapes) :
    simpleEscape? d = some c := by
  have hall : ∀ pair ∈ shortEscapes, simpleEscape? pair.1 = some pair.2 := by decide
  exact hall _ h

theorem hexValue?_of_isHexDigit {c : Char} {n : Nat} (h : IsHexDigit c n) :
    Numeral.hexValue? c = some n := by
  have hlower : ∀ i : Fin 16,
      Numeral.hexValue? ("0123456789abcdef".toList.get i) = some i.val := by decide
  have hupper : ∀ i : Fin 16,
      Numeral.hexValue? ("0123456789ABCDEF".toList.get i) = some i.val := by decide
  rcases h with h | h
  · obtain ⟨hn, rfl⟩ := List.getElem?_eq_some_iff.mp h
    exact hlower ⟨n, hn⟩
  · obtain ⟨hn, rfl⟩ := List.getElem?_eq_some_iff.mp h
    exact hupper ⟨n, hn⟩

theorem isHexDigit_hexDigit {n : Nat} (h : n < 16) : IsHexDigit (Numeral.hexDigit n) n := by
  have hall : ∀ i < 16, "0123456789abcdef".toList[i]? = some (Numeral.hexDigit i) := by decide
  exact .inl (hall n h)

theorem hex4?_of_isHexDigit {a b c d : Char} {i j k l : Nat} (ha : IsHexDigit a i)
    (hb : IsHexDigit b j) (hc : IsHexDigit c k) (hd : IsHexDigit d l) :
    hex4? a b c d = some (i * 0x1000 + j * 0x100 + k * 0x10 + l) := by
  have hvalue : some (((i * 16 + j) * 16 + k) * 16 + l) =
      some (i * 0x1000 + j * 0x100 + k * 0x10 + l) := congrArg some (by omega)
  rw [← hvalue, hex4?, hexValue?_of_isHexDigit ha, hexValue?_of_isHexDigit hb,
    hexValue?_of_isHexDigit hc, hexValue?_of_isHexDigit hd]
  rfl

theorem isHigh_iff {n : Nat} : isHigh n = true ↔ IsFirstHalf n := by
  simp only [isHigh, IsFirstHalf, Bool.and_eq_true, decide_eq_true_eq]
  omega

theorem isLow_iff {n : Nat} : isLow n = true ↔ IsSecondHalf n := by
  simp only [isLow, IsSecondHalf, Bool.and_eq_true, decide_eq_true_eq]
  omega

/-! ## Reading strings -/

theorem readUnits?_plain {c : Char} (hquote : c ≠ '"') (hslash : c ≠ '\\')
    (hcontrol : 0x20 ≤ c.toNat) (rest : List Char) :
    readUnits? (c :: rest) = (readUnits? rest).map fun read => (.char c :: read.1, read.2) := by
  rw [readUnits?.eq_def]
  split
  next heq => cases heq
  next heq => exact (hquote (List.cons.inj heq).1).elim
  next heq => exact (hslash (List.cons.inj heq).1).elim
  next heq => exact (hslash (List.cons.inj heq).1).elim
  next heq =>
    obtain ⟨rfl, rfl⟩ := List.cons.inj heq
    rw [if_neg (by simp [hslash, hcontrol])]
    cases readUnits? rest <;> rfl

theorem readUnits?_simple {c d : Char} (h : simpleEscape? c = some d) (rest : List Char) :
    readUnits? ('\\' :: c :: rest) =
      (readUnits? rest).map fun read => (.char d :: read.1, read.2) := by
  rw [readUnits?.eq_def]
  split
  next heq => cases heq
  next heq => cases heq
  next heq =>
    cases heq
    cases h
  next heq =>
    cases heq
    rw [h]
    cases readUnits? rest <;> rfl
  next hother heq =>
    obtain ⟨hslash, hrest⟩ := List.cons.inj heq
    exact (hother _ _ hslash.symm hrest.symm).elim

theorem SpellsUnit.readUnits?_append {unit : Unit16} {s : List Char} (h : SpellsUnit unit s)
    (rest : List Char) :
    readUnits? (s ++ rest) = (readUnits? rest).map fun read => (unit :: read.1, read.2) := by
  cases h with
  | plain hquote hslash hcontrol => exact readUnits?_plain hquote hslash hcontrol rest
  | short hshort => exact readUnits?_simple (simpleEscape?_of_mem hshort) rest
  | number ha hb hc hd =>
      simp only [List.cons_append, List.nil_append, readUnits?, hex4?_of_isHexDigit ha hb hc hd]
      cases readUnits? rest <;> rfl

theorem readUnits?_flatMap {parts : List (Unit16 × List Char)}
    (h : ∀ part ∈ parts, SpellsUnit part.1 part.2) (rest : List Char) :
    readUnits? (parts.flatMap Prod.snd ++ '"' :: rest) = some (parts.map Prod.fst, rest) := by
  induction parts with
  | nil => rfl
  | cons part parts ih =>
      obtain ⟨hpart, hparts⟩ := List.forall_mem_cons.mp h
      rw [List.flatMap_cons, List.append_assoc, hpart.readUnits?_append, ih hparts]
      rfl

/-- A code point is no half of a surrogate pair. -/
theorem isHigh_isLow_toNat (c : Char) : isHigh c.toNat = false ∧ isLow c.toNat = false := by
  have hvalid : c.toNat < 0xD800 ∨ 0xDFFF < c.toNat ∧ c.toNat < 0x110000 := c.valid
  simp only [isHigh, isLow, Bool.and_eq_false_iff, decide_eq_false_iff_not]
  omega

theorem joinUnits?_unit (c : Char) (units : List Unit16) :
    joinUnits? (.unit c.toNat :: units) = (joinUnits? units).map (c :: ·) := by
  obtain ⟨hhigh, hlow⟩ := isHigh_isLow_toNat c
  cases units with
  | nil => simp [joinUnits?, hhigh, hlow]
  | cons unit units => cases unit <;> simp [joinUnits?, hhigh, hlow]

/-- A character is one element or two, and these make it up again. -/
theorem SpellsChar.exists_units {c : Char} {s : List Char} (h : SpellsChar c s) :
    ∃ parts : List (Unit16 × List Char), s = parts.flatMap Prod.snd ∧
      (∀ part ∈ parts, SpellsUnit part.1 part.2) ∧
      ∀ units, joinUnits? (parts.map Prod.fst ++ units) = (joinUnits? units).map (c :: ·) := by
  cases h with
  | char hchar =>
      exact ⟨[(.char c, s)], by simp, by simpa using hchar, fun units => by simp [joinUnits?]⟩
  | unit hunit =>
      exact ⟨[(.unit c.toNat, s)], by simp, by simpa using hunit, joinUnits?_unit c⟩
  | @pair high low s t hs ht hhigh hlow hvalue =>
      refine ⟨[(.unit high, s), (.unit low, t)], by simp, by simp [hs, ht], fun units => ?_⟩
      simp only [List.map_cons, List.map_nil, List.cons_append, List.nil_append, joinUnits?,
        isHigh_iff.mpr hhigh, isLow_iff.mpr hlow, if_true, ← hvalue, Char.ofNat_toNat]

theorem exists_units_of_spellsChar {parts : List (Char × List Char)}
    (h : ∀ part ∈ parts, SpellsChar part.1 part.2) :
    ∃ units : List (Unit16 × List Char), parts.flatMap Prod.snd = units.flatMap Prod.snd ∧
      (∀ unit ∈ units, SpellsUnit unit.1 unit.2) ∧
      joinUnits? (units.map Prod.fst) = some (parts.map Prod.fst) := by
  induction parts with
  | nil => exact ⟨[], rfl, nofun, rfl⟩
  | cons part parts ih =>
      obtain ⟨hpart, hparts⟩ := List.forall_mem_cons.mp h
      obtain ⟨first, htext, hfirst, hjoin⟩ := hpart.exists_units
      obtain ⟨units, hrest, hunits, hjoins⟩ := ih hparts
      refine ⟨first ++ units, ?_, List.forall_mem_append.mpr ⟨hfirst, hunits⟩, ?_⟩
      · rw [List.flatMap_cons, List.flatMap_append, htext, hrest]
      · rw [List.map_append, hjoin, hjoins]
        rfl

/-- An element that is no half by itself leaves the rest as broken as it was. -/
theorem IsBroken.of_cons {unit : Unit16} {units : List Unit16} (h : IsBroken (unit :: units))
    (hunit : ∀ n, unit = .unit n → ¬ IsFirstHalf n ∧ ¬ IsSecondHalf n) : IsBroken units := by
  obtain ⟨front, back, n, hunits, hhalf⟩ := h
  cases front with
  | nil =>
      obtain ⟨hfirst, hsecond⟩ := hunit n (List.cons.inj hunits).1
      exact absurd hhalf (by simp [hfirst, hsecond])
  | cons first front =>
      refine ⟨front, back, n, (List.cons.inj hunits).2, hhalf.imp id fun hsecond => ⟨hsecond.1, ?_⟩⟩
      intro m hlast
      cases front with
      | nil => cases hlast
      | cons second front => exact hsecond.2 m (List.getLast?_cons_cons.trans hlast)

/-- A pair leaves the rest as broken as it was. -/
theorem IsBroken.of_pair {n m : Nat} {units : List Unit16} (hn : IsFirstHalf n)
    (hm : IsSecondHalf m) (h : IsBroken (.unit n :: .unit m :: units)) : IsBroken units := by
  obtain ⟨front, back, half, hunits, hhalf⟩ := h
  have hapart {k : Nat} (hfirst : IsFirstHalf k) (hsecond : IsSecondHalf k) : False :=
    absurd hfirst.2 (Nat.not_lt.mpr hsecond.1)
  match front with
  | [] =>
      obtain ⟨hself, hback⟩ := List.cons.inj hunits
      cases hself
      rcases hhalf with ⟨-, hnext⟩ | ⟨hsecond, -⟩
      · exact absurd hm (hnext m (by rw [← hback]; rfl))
      · exact (hapart hn hsecond).elim
  | [first] =>
      obtain ⟨rfl, hrest⟩ := List.cons.inj hunits
      cases (List.cons.inj hrest).1
      rcases hhalf with ⟨hfirst, -⟩ | ⟨-, hlast⟩
      · exact (hapart hfirst hm).elim
      · exact absurd hn (hlast n rfl)
  | first :: second :: front =>
      refine ⟨front, back, half, (List.cons.inj (List.cons.inj hunits).2).2,
        hhalf.imp id fun hsecond => ⟨hsecond.1, fun k hlast => hsecond.2 k ?_⟩⟩
      cases front with
      | nil => cases hlast
      | cons third front => exact List.getLast?_cons_cons.trans (List.getLast?_cons_cons.trans hlast)

theorem joinUnits?_of_isBroken {units : List Unit16} (h : IsBroken units) :
    joinUnits? units = none := by
  have hplain {n : Nat} (hhigh : ¬ isHigh n = true) (hlow : ¬ isLow n = true) :
      ∀ k, Unit16.unit n = .unit k → ¬ IsFirstHalf k ∧ ¬ IsSecondHalf k := by
    rintro k ⟨⟩
    rw [isHigh_iff] at hhigh
    rw [isLow_iff] at hlow
    exact ⟨hhigh, hlow⟩
  induction units using joinUnits?.induct with
  | case1 =>
      obtain ⟨front, back, n, hunits, -⟩ := h
      simp at hunits
  | case2 c units ih =>
      rw [joinUnits?, ih (h.of_cons nofun)]
      rfl
  | case3 n m units hhigh hlow ih =>
      rw [joinUnits?, if_pos hhigh, if_pos hlow,
        ih (h.of_pair (isHigh_iff.mp hhigh) (isLow_iff.mp hlow))]
      rfl
  | case4 n m units hhigh hlow => rw [joinUnits?, if_pos hhigh, if_neg hlow]
  | case5 n m units hhigh hlow => rw [joinUnits?, if_neg hhigh, if_pos hlow]
  | case6 n m units hhigh hlow ih =>
      rw [joinUnits?, if_neg hhigh, if_neg hlow, ih (h.of_cons (hplain hhigh hlow))]
      rfl
  | case7 n units hnext hhalf =>
      rw [joinUnits?, if_pos hhalf]
      exact hnext
  | case8 n units hnext hhalf ih =>
      rw [Bool.or_eq_true, not_or] at hhalf
      rw [joinUnits?, if_neg (by simpa using hhalf), ih (h.of_cons (hplain hhalf.1 hhalf.2))]
      · rfl
      · exact hnext

theorem SpellsText.readString?_append {text : Option (List Char)} {s : List Char}
    (h : SpellsText text s) (rest : List Char) :
    readString? (s ++ '"' :: rest) = some (text, rest) := by
  cases h with
  | text hparts =>
      obtain ⟨units, hs, hunits, hjoin⟩ := exists_units_of_spellsChar hparts
      simp only [hs, readString?, readUnits?_flatMap hunits, Option.bind_eq_bind, Option.bind_some,
        hjoin]
  | broken hparts hbroken =>
      simp only [readString?, readUnits?_flatMap hparts, Option.bind_eq_bind, Option.bind_some,
        joinUnits?_of_isBroken hbroken]

/-! ## Printed strings -/

theorem spellsUnit_control {n : Nat} (h : n < 0x20) :
    SpellsUnit (.unit n)
      ['\\', 'u', '0', '0', Numeral.hexDigit (n / 16), Numeral.hexDigit (n % 16)] := by
  have hzero : IsHexDigit '0' 0 := .inl rfl
  have hnumber := SpellsUnit.number hzero hzero (isHexDigit_hexDigit (n := n / 16) (by omega))
    (isHexDigit_hexDigit (n := n % 16) (by omega))
  have hvalue : 0 * 0x1000 + 0 * 0x100 + n / 16 * 0x10 + n % 16 = n := by omega
  rwa [hvalue] at hnumber

theorem spellsChar_escape (c : Char) : SpellsChar c (escape c) := by
  by_cases hshort : c ∈ ['"', '\\', '\x08', '\x0c', '\n', '\r', '\t']
  · simp only [List.mem_cons, List.not_mem_nil, or_false] at hshort
    refine .char ?_
    rcases hshort with rfl | rfl | rfl | rfl | rfl | rfl | rfl <;> exact .short (by decide)
  · simp only [List.mem_cons, List.not_mem_nil, or_false, not_or] at hshort
    obtain ⟨hquote, hslash, hb, hf, hn, hr, ht⟩ := hshort
    by_cases hcontrol : c.toNat < 0x20
    · have hescape : escape c = ['\\', 'u', '0', '0', Numeral.hexDigit (c.toNat / 16),
          Numeral.hexDigit (c.toNat % 16)] := by simp [escape, *]
      exact hescape ▸ .unit (spellsUnit_control hcontrol)
    · have hescape : escape c = [c] := by simp [escape, *]
      exact hescape ▸ .char (.plain hquote hslash (Nat.le_of_not_lt hcontrol))

theorem spellsText_escape (text : List Char) : SpellsText (some text) (text.flatMap escape) := by
  have hparts : ∀ part ∈ text.map (fun c => (c, escape c)), SpellsChar part.1 part.2 :=
    List.forall_mem_map.mpr fun c _ => spellsChar_escape c
  have htext := SpellsText.text hparts
  simpa [List.flatMap_map, Function.comp_def] using htext

end GpuTelemetry.Json
