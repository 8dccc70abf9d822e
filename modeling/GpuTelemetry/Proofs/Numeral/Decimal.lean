import GpuTelemetry.Numeral.Decimal
import GpuTelemetry.Proofs.Numeral.Reading

/-!
# Which texts are decimal fractions

The notation of decimal fractions as a grammar: a sign, digits with a point among
them, and a power of ten, of which all but one digit may be absent, or a sign and
a name in any case. A text in this notation stands for one value, and the reader
answers just for these texts and with that value.
-/

namespace GpuTelemetry.Decimal

open Numeral

/-- A sign that may be absent, and whether it is a minus. -/
inductive SpellsSign : Bool → List Char → Prop
  | absent : SpellsSign false []
  | plus : SpellsSign false ['+']
  | minus : SpellsSign true ['-']

/-- A power of ten that may be absent, and its exponent. -/
inductive SpellsPower : Int → List Char → Prop
  | absent : SpellsPower 0 []
  | given {mark : Char} {negative : Bool} {sign digits : List Char} :
    mark = 'e' ∨ mark = 'E' → SpellsSign negative sign → digits ≠ [] →
    (∀ c ∈ digits, c.isDigit = true) →
    SpellsPower (if negative then -(valueOf digits : Int) else valueOf digits)
      (mark :: (sign ++ digits))

/-- A point that may be absent, with digits after it. -/
inductive SpellsPoint : List Char → List Char → Prop
  | absent : SpellsPoint [] []
  | given {digits : List Char} :
    (∀ c ∈ digits, c.isDigit = true) → SpellsPoint digits ('.' :: digits)

/-- The values that texts stand for. Each digit after the point takes one from the exponent. -/
inductive Spells : List Char → Decimal → Prop
  | finite {negative : Bool} {sign whole fraction point power : List Char} {exponent : Int} :
    SpellsSign negative sign → (∀ c ∈ whole, c.isDigit = true) → SpellsPoint fraction point →
    whole ++ fraction ≠ [] → SpellsPower exponent power →
    Spells (sign ++ (whole ++ (point ++ power)))
      (finite negative (valueOf (whole ++ fraction)) (exponent - fraction.length))
  | infinite {negative : Bool} {sign name : List Char} :
    SpellsSign negative sign →
    name.map Char.toLower = "inf".toList ∨ name.map Char.toLower = "infinity".toList →
    Spells (sign ++ name) (infinite negative)
  | notANumber {negative : Bool} {sign name : List Char} :
    SpellsSign negative sign → name.map Char.toLower = "nan".toList →
    Spells (sign ++ name) notANumber

/-! ## Signs and powers -/

theorem exists_sign_append (cs : List Char) :
    ∃ negative sign rest, SpellsSign negative sign ∧ cs = sign ++ rest ∧
      readSign cs = (negative, rest) := by
  rw [readSign.eq_def]
  split
  next rest => exact ⟨true, ['-'], rest, .minus, rfl, rfl⟩
  next rest => exact ⟨false, ['+'], rest, .plus, rfl, rfl⟩
  next => exact ⟨false, [], cs, .absent, rfl, rfl⟩

theorem SpellsSign.readSign_append {negative : Bool} {sign rest : List Char}
    (h : SpellsSign negative sign) (hrest : ∀ c ∈ rest.head?, c ≠ '-' ∧ c ≠ '+') :
    readSign (sign ++ rest) = (negative, rest) := by
  cases h with
  | absent =>
      rw [List.nil_append, readSign.eq_def]
      split
      · exact absurd rfl (hrest '-' rfl).1
      · exact absurd rfl (hrest '+' rfl).2
      · rfl
  | plus => rfl
  | minus => rfl

theorem head?_not_sign_of_isDigit {digits : List Char} (h : ∀ c ∈ digits, c.isDigit = true) :
    ∀ c ∈ digits.head?, c ≠ '-' ∧ c ≠ '+' := by
  intro c hc
  have hdigit := h c (List.mem_of_head? hc)
  exact ⟨fun heq => absurd hdigit (by simp [heq]), fun heq => absurd hdigit (by simp [heq])⟩

theorem readExponent?_eq_some_iff {cs : List Char} {exponent : Int} :
    readExponent? cs = some exponent ↔ SpellsPower exponent cs := by
  constructor
  · intro h
    cases cs with
    | nil =>
        cases h
        exact .absent
    | cons mark cs =>
        rw [readExponent?] at h
        split at h
        next hmark =>
          obtain ⟨negative, sign, number, hsign, rfl, hread⟩ := exists_sign_append cs
          obtain ⟨digits, rest, rfl, hall, hrest⟩ := exists_digits_append number
          rw [hread] at h
          dsimp only at h
          rw [takeDigits_append hall hrest, Nat.zero_add] at h
          split at h
          next n k hdigits =>
            cases h
            simp only [Prod.mk.injEq] at hdigits
            obtain ⟨rfl, hlength, rfl⟩ := hdigits
            rw [List.append_nil]
            refine .given hmark hsign ?_ hall
            rintro rfl
            cases hlength
          next => cases h
        next => cases h
  · intro h
    cases h with
    | absent => rfl
    | @given mark negative sign digits hmark hsign hne hall =>
        have hnothing : ∀ c ∈ ([] : List Char).head?, digit? c = none := nofun
        have hread := takeDigits_append hall hnothing 0 0
        obtain ⟨k, hk⟩ := Nat.exists_eq_add_one_of_ne_zero
          (fun hzero => hne (List.length_eq_zero_iff.mp hzero))
        rw [List.append_nil, Nat.zero_add, hk] at hread
        rw [readExponent?, if_pos hmark,
          hsign.readSign_append (head?_not_sign_of_isDigit hall)]
        simp only [hread, valueOf]

theorem SpellsPower.not_digit {exponent : Int} {power : List Char}
    (h : SpellsPower exponent power) :
    ∀ c ∈ power.head?, digit? c = none ∧ c ≠ '.' := by
  cases h with
  | absent => exact nofun
  | given hmark =>
      rintro _ ⟨⟩
      rcases hmark with rfl | rfl <;> decide

/-! ## Magnitudes and names -/

/-- What follows the digits is read as a power, with the digits on both sides of the point. -/
theorem SpellsPoint.readMagnitude?_append {whole fraction point power : List Char}
    (hpoint : SpellsPoint fraction point) (hwhole : ∀ c ∈ whole, c.isDigit = true)
    (hdigit : ∀ c ∈ power.head?, digit? c = none)
    (hdot : point = [] → ∀ c ∈ power.head?, c ≠ '.') (negative : Bool) :
    readMagnitude? negative (whole ++ (point ++ power)) =
      if whole ++ fraction = [] then none
      else (readExponent? power).map fun exponent =>
        .finite negative (valueOf (whole ++ fraction)) (exponent - fraction.length) := by
  have hempty : whole.length + fraction.length = 0 ↔ whole ++ fraction = [] := by
    rw [← List.length_append, List.length_eq_zero_iff]
  have hvalue :
      fraction.foldl appendDigit (whole.foldl appendDigit 0) = valueOf (whole ++ fraction) :=
    List.foldl_append.symm
  cases hpoint with
  | absent =>
      rw [List.nil_append, readMagnitude?, takeDigits_append hwhole hdigit, Nat.zero_add]
      dsimp only
      split
      next => exact absurd rfl (hdot rfl '.' rfl)
      next =>
        rw [← hvalue]
        simp only [← hempty, List.foldl_nil, List.length_nil]
  | given hfraction =>
      have hrest : ∀ c ∈ ('.' :: (fraction ++ power)).head?, digit? c = none := by
        rintro _ ⟨⟩
        rfl
      rw [List.cons_append, readMagnitude?, takeDigits_append hwhole hrest]
      simp only [takeDigits_append hfraction hdigit, Nat.zero_add, hempty, hvalue]

/-- Every text can be cut where the digits, the point and the digits after it end. -/
theorem exists_magnitude_append (cs : List Char) :
    ∃ whole fraction point power, cs = whole ++ (point ++ power) ∧
      (∀ c ∈ whole, c.isDigit = true) ∧ SpellsPoint fraction point ∧
      (∀ c ∈ power.head?, digit? c = none) ∧ (point = [] → ∀ c ∈ power.head?, c ≠ '.') := by
  obtain ⟨whole, rest, rfl, hwhole, hrest⟩ := exists_digits_append cs
  by_cases hdot : rest.head? = some '.'
  · obtain ⟨tail, rfl⟩ := List.head?_eq_some_iff.mp hdot
    obtain ⟨fraction, power, rfl, hfraction, hpower⟩ := exists_digits_append tail
    exact ⟨whole, fraction, '.' :: fraction, power, rfl, hwhole, .given hfraction, hpower, nofun⟩
  · refine ⟨whole, [], [], rest, rfl, hwhole, .absent, hrest, ?_⟩
    rintro - c hc rfl
    exact hdot hc

theorem readMagnitude?_eq_some_iff {negative : Bool} {cs : List Char} {decimal : Decimal} :
    readMagnitude? negative cs = some decimal ↔
      ∃ whole fraction point power exponent, cs = whole ++ (point ++ power) ∧
        (∀ c ∈ whole, c.isDigit = true) ∧ SpellsPoint fraction point ∧ whole ++ fraction ≠ [] ∧
        SpellsPower exponent power ∧
        decimal = .finite negative (valueOf (whole ++ fraction)) (exponent - fraction.length) := by
  constructor
  · intro h
    obtain ⟨whole, fraction, point, power, rfl, hwhole, hpoint, hdigit, hdot⟩ :=
      exists_magnitude_append cs
    rw [hpoint.readMagnitude?_append hwhole hdigit hdot] at h
    split at h
    next => cases h
    next hne =>
      obtain ⟨exponent, hpower, rfl⟩ := Option.map_eq_some_iff.mp h
      exact ⟨whole, fraction, point, power, exponent, rfl, hwhole, hpoint, hne,
        readExponent?_eq_some_iff.mp hpower, rfl⟩
  · rintro ⟨whole, fraction, point, power, exponent, rfl, hwhole, hpoint, hne, hpower, rfl⟩
    rw [hpoint.readMagnitude?_append hwhole (fun c hc => (hpower.not_digit c hc).1)
      (fun _ c hc => (hpower.not_digit c hc).2), if_neg hne, readExponent?_eq_some_iff.mpr hpower]
    rfl

theorem readName?_eq_some_iff {negative : Bool} {cs : List Char} {decimal : Decimal} :
    readName? negative cs = some decimal ↔
      ((cs.map Char.toLower = "inf".toList ∨ cs.map Char.toLower = "infinity".toList) ∧
          decimal = .infinite negative) ∨
        (cs.map Char.toLower = "nan".toList ∧ decimal = .notANumber) := by
  rw [readName?]
  generalize cs.map Char.toLower = name
  by_cases hname : name = "inf".toList ∨ name = "infinity".toList
  · have hother : name ≠ "nan".toList := by
      rcases hname with rfl | rfl <;> decide
    simp only [hname, hother, if_true, true_and, false_and, or_false, Option.some.injEq, eq_comm]
  · by_cases hnan : name = "nan".toList
    · rw [if_neg hname, if_pos hnan, Option.some.injEq]
      exact ⟨fun h => .inr ⟨hnan, h.symm⟩,
        fun h => h.elim (fun h => absurd h.1 hname) fun h => h.2.symm⟩
    · simp only [hname, hnan, if_false, false_and, or_false, reduceCtorEq]

/-! ## The reader -/

/-- A magnitude begins with a digit or a point, so it has neither a sign nor a name. -/
theorem head?_magnitude {whole fraction point : List Char} (power : List Char)
    (hwhole : ∀ c ∈ whole, c.isDigit = true) (hpoint : SpellsPoint fraction point)
    (hne : whole ++ fraction ≠ []) :
    ∃ c ∈ (whole ++ (point ++ power)).head?, c.isDigit = true ∨ c = '.' := by
  cases whole with
  | cons c whole => exact ⟨c, rfl, .inl (hwhole c List.mem_cons_self)⟩
  | nil =>
      cases hpoint with
      | absent => exact absurd rfl hne
      | given => exact ⟨'.', rfl, .inr rfl⟩

theorem head?_not_sign_of_name {name : List Char} {first : Char} {others : List Char}
    (h : name.map Char.toLower = first :: others) (hminus : first ≠ '-') (hplus : first ≠ '+') :
    ∀ c ∈ name.head?, c ≠ '-' ∧ c ≠ '+' := by
  intro c hc
  obtain ⟨rest, rfl⟩ := List.head?_eq_some_iff.mp hc
  rw [List.map_cons, List.cons.injEq] at h
  constructor
  · rintro rfl
    exact hminus h.1.symm
  · rintro rfl
    exact hplus h.1.symm

theorem toLower_of_isDigit {c : Char} (h : c.isDigit = true) : c.toLower = c := by
  have hbound : c.val ≤ '9'.val := (isDigit_iff.mp h).2
  have hupper : ¬ (c.val ≥ 'A'.val ∧ c.val ≤ 'Z'.val) := fun hcase =>
    absurd (UInt32.le_trans hcase.1 hbound) (by decide)
  exact dif_neg hupper

/-- No name is a magnitude, since it begins with a letter. -/
theorem readMagnitude?_of_name {negative : Bool} {name : List Char} {first : Char}
    {others : List Char} (h : name.map Char.toLower = first :: others)
    (hfirst : first = 'i' ∨ first = 'n') : readMagnitude? negative name = none := by
  refine Option.eq_none_iff_forall_ne_some.mpr fun decimal hread => ?_
  obtain ⟨whole, fraction, point, power, -, rfl, hwhole, hpoint, hne, -⟩ :=
    readMagnitude?_eq_some_iff.mp hread
  obtain ⟨c, hc, hstart⟩ := head?_magnitude power hwhole hpoint hne
  obtain ⟨rest, hrest⟩ := List.head?_eq_some_iff.mp hc
  rw [hrest, List.map_cons, List.cons.injEq] at h
  have hsame : c.toLower = c := by
    rcases hstart with hdigit | rfl
    · exact toLower_of_isDigit hdigit
    · rfl
  rw [hsame] at h
  obtain ⟨rfl, -⟩ := h
  rcases hfirst with rfl | rfl <;> exact absurd hstart (by decide)

theorem read?_of_name {negative : Bool} {sign name others : List Char} {first : Char}
    {decimal : Decimal} (hsign : SpellsSign negative sign)
    (h : name.map Char.toLower = first :: others) (hfirst : first = 'i' ∨ first = 'n')
    (hread : readName? negative name = some decimal) : read? (sign ++ name) = some decimal := by
  have hstart : ∀ c ∈ name.head?, c ≠ '-' ∧ c ≠ '+' :=
    head?_not_sign_of_name h (by rcases hfirst with rfl | rfl <;> decide)
      (by rcases hfirst with rfl | rfl <;> decide)
  rw [read?, hsign.readSign_append hstart]
  dsimp only
  rw [readMagnitude?_of_name h hfirst, Option.none_or, hread]

theorem read?_eq_some_iff {cs : List Char} {decimal : Decimal} :
    read? cs = some decimal ↔ Spells cs decimal := by
  constructor
  · intro h
    obtain ⟨negative, sign, rest, hsign, rfl, hrest⟩ := exists_sign_append cs
    rw [read?, hrest] at h
    rcases Option.or_eq_some_iff.mp h with h | ⟨-, h⟩
    · obtain ⟨whole, fraction, point, power, exponent, rfl, hwhole, hpoint, hne, hpower, rfl⟩ :=
        readMagnitude?_eq_some_iff.mp h
      exact .finite hsign hwhole hpoint hne hpower
    · rcases readName?_eq_some_iff.mp h with ⟨hname, rfl⟩ | ⟨hname, rfl⟩
      · exact .infinite hsign hname
      · exact .notANumber hsign hname
  · intro h
    cases h with
    | @finite negative sign whole fraction point power exponent hsign hwhole hpoint hne hpower =>
        have hstart : ∀ c ∈ (whole ++ (point ++ power)).head?, c ≠ '-' ∧ c ≠ '+' := by
          obtain ⟨c, hc, hdigit⟩ := head?_magnitude power hwhole hpoint hne
          rw [hc]
          rintro _ ⟨⟩
          rcases hdigit with hdigit | rfl
          · exact head?_not_sign_of_isDigit (List.forall_mem_singleton.mpr hdigit) c rfl
          · decide
        rw [read?, hsign.readSign_append hstart]
        exact Option.or_eq_some_iff.mpr (.inl (readMagnitude?_eq_some_iff.mpr
          ⟨whole, fraction, point, power, exponent, rfl, hwhole, hpoint, hne, hpower, rfl⟩))
    | @infinite negative sign name hsign hname =>
        have hread : readName? negative name = some (.infinite negative) :=
          readName?_eq_some_iff.mpr (.inl ⟨hname, rfl⟩)
        rcases hname with hname | hname <;> exact read?_of_name hsign hname (.inl rfl) hread
    | notANumber hsign hname =>
        exact read?_of_name hsign hname (.inr rfl) (readName?_eq_some_iff.mpr (.inr ⟨hname, rfl⟩))

end GpuTelemetry.Decimal
