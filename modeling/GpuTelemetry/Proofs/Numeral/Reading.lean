import GpuTelemetry.Numeral.Word

/-!
# Which texts are numerals

A text is a numeral for a word if it is one or more ASCII digits, with or without
a plus sign in front of them, and the number they spell is the word. The reader
answers just for these texts. It gives up at the first digit that takes it out of
range, which is no loss, since further digits only make the number larger.
-/

namespace GpuTelemetry

namespace Numeral

/-- A number with one more digit at its end. -/
def appendDigit (n : Nat) (c : Char) : Nat :=
  n * 10 + (c.toNat - '0'.toNat)

/-- The number that decimal digits spell. -/
def valueOf (digits : List Char) : Nat :=
  digits.foldl appendDigit 0

theorem isDigit_iff {c : Char} : c.isDigit = true ↔ '0' ≤ c ∧ c ≤ '9' := by
  simp only [Char.isDigit, Bool.and_eq_true, decide_eq_true_eq]
  rfl

theorem digit?_eq (c : Char) :
    digit? c = if c.isDigit then some (c.toNat - '0'.toNat) else none := by
  by_cases hc : c.isDigit = true
  · rw [digit?, if_pos (isDigit_iff.mp hc), if_pos hc]
  · rw [digit?, if_neg (fun h => hc (isDigit_iff.mpr h)), if_neg hc]

theorem takeDigits_of_not_digit {rest : List Char} (h : ∀ c ∈ rest.head?, digit? c = none)
    (n count : Nat) : takeDigits n count rest = (n, count, rest) := by
  cases rest with
  | nil => rfl
  | cons c rest => rw [takeDigits, h c rfl]

theorem takeDigits_append {digits rest : List Char} (h : ∀ c ∈ digits, c.isDigit = true)
    (hrest : ∀ c ∈ rest.head?, digit? c = none) (n count : Nat) :
    takeDigits n count (digits ++ rest) =
      (digits.foldl appendDigit n, count + digits.length, rest) := by
  induction digits generalizing n count with
  | nil => exact takeDigits_of_not_digit hrest n count
  | cons c digits ih =>
      obtain ⟨hc, hdigits⟩ := List.forall_mem_cons.mp h
      have hstep : n * 10 + (c.toNat - '0'.toNat) = appendDigit n c := rfl
      rw [List.cons_append, takeDigits, digit?_eq, if_pos hc]
      dsimp only
      rw [hstep, ih hdigits, List.foldl_cons, List.length_cons, Nat.add_assoc, Nat.add_comm 1]

/-- Every text is some digits and a rest that begins with none. -/
theorem exists_digits_append (cs : List Char) :
    ∃ digits rest, cs = digits ++ rest ∧ (∀ c ∈ digits, c.isDigit = true) ∧
      ∀ c ∈ rest.head?, digit? c = none := by
  refine ⟨cs.takeWhile Char.isDigit, cs.dropWhile Char.isDigit, List.takeWhile_append_dropWhile.symm,
    List.all_eq_true.mp List.all_takeWhile, ?_⟩
  intro c hc
  obtain ⟨rest, hrest⟩ := List.head?_eq_some_iff.mp hc
  have hne : cs.dropWhile Char.isDigit ≠ [] := by simp [hrest]
  have hhead := List.head_dropWhile_not Char.isDigit hne
  rw [digit?_eq, if_neg]
  simpa [hrest] using hhead

theorem le_foldl_appendDigit (digits : List Char) (n : Nat) : n ≤ digits.foldl appendDigit n := by
  induction digits generalizing n with
  | nil => exact Nat.le_refl n
  | cons c digits ih =>
      have hstep : n ≤ appendDigit n c := by
        rw [appendDigit]
        omega
      exact Nat.le_trans hstep (ih (appendDigit n c))

/-- Reading digits one by one comes to the end just when all are digits and the number that they
make is in range. -/
theorem readDigits_eq_ok_iff {limit : Nat} {excess : NumeralError} {cs : List Char} {n m : Nat}
    (hn : n ≤ limit) :
    readDigits limit excess n cs = .ok m ↔
      (∀ c ∈ cs, c.isDigit = true) ∧ m ≤ limit ∧
        cs.foldl appendDigit n = m := by
  induction cs generalizing n with
  | nil =>
      simp only [readDigits, Except.ok.injEq, List.foldl_nil]
      constructor
      · rintro rfl
        exact ⟨by simp, hn, rfl⟩
      · exact fun h => h.2.2
  | cons c cs ih =>
      have hstep : n * 10 + (c.toNat - '0'.toNat) = appendDigit n c := rfl
      rw [readDigits, digit?_eq, List.foldl_cons]
      by_cases hc : c.isDigit = true
      · simp only [hc, if_true, List.forall_mem_cons, true_and, hstep]
        by_cases hnext : appendDigit n c ≤ limit
        · rw [if_pos hnext, ih hnext]
        · -- out of range now means out of range at the end
          have hgrows := le_foldl_appendDigit cs (appendDigit n c)
          rw [if_neg hnext]
          constructor
          · intro h
            cases h
          · rintro ⟨-, hm, hvalue⟩
            omega
      · simp [hc]

theorem readUnsigned_eq_ok_iff {limit n : Nat} {cs : List Char} :
    readUnsigned limit cs = .ok n ↔
      ∃ digits, (cs = digits ∨ cs = '+' :: digits) ∧ digits ≠ [] ∧
        (∀ c ∈ digits, c.isDigit = true) ∧ n ≤ limit ∧ valueOf digits = n := by
  have hplus : ('+').isDigit = false := by decide
  rw [readUnsigned.eq_def]
  split
  next => simp
  next => simp [hplus]
  next digits hdigits =>
    rw [readDigits_eq_ok_iff (Nat.zero_le limit)]
    constructor
    · rintro ⟨hall, hlimit, hvalue⟩
      exact ⟨digits, .inr rfl, by simpa using hdigits, hall, hlimit, hvalue⟩
    · rintro ⟨other, rfl | hother, -, hall, hlimit, hvalue⟩
      · exact absurd (hall '+' List.mem_cons_self) (by simp [hplus])
      · cases hother
        exact ⟨hall, hlimit, hvalue⟩
  next hne _ hsigned =>
    rw [readDigits_eq_ok_iff (Nat.zero_le limit)]
    constructor
    · rintro ⟨hall, hlimit, hvalue⟩
      exact ⟨cs, .inl rfl, hne, hall, hlimit, hvalue⟩
    · rintro ⟨digits, rfl | rfl, -, hall, hlimit, hvalue⟩
      · exact ⟨hall, hlimit, hvalue⟩
      · exact absurd rfl (hsigned digits)

end Numeral

namespace Word

variable {α : Type} [Word α]

/-- Whether a text is a numeral for a word. -/
def Spells (cs : List Char) (a : α) : Prop :=
  ∃ digits, (cs = digits ∨ cs = '+' :: digits) ∧ digits ≠ [] ∧
    (∀ c ∈ digits, c.isDigit = true) ∧ Numeral.valueOf digits = toNat a

theorem read?_eq_some_iff {cs : List Char} {a : α} : read? cs = some a ↔ Spells cs a := by
  have hrange : toNat a ≤ size α - 1 := Nat.le_sub_one_of_lt (toNat_lt a)
  have hread : read? cs = some a ↔ Numeral.readUnsigned (size α - 1) cs = .ok (toNat a) := by
    rw [read?]
    constructor
    · intro h
      obtain ⟨n, hn, rfl⟩ := Option.map_eq_some_iff.mp h
      cases hok : Numeral.readUnsigned (size α - 1) cs with
      | error error => simp [hok, Except.toOption] at hn
      | ok m =>
          simp only [hok, Except.toOption, Option.some.injEq] at hn
          subst hn
          obtain ⟨-, -, -, -, hlimit, -⟩ := Numeral.readUnsigned_eq_ok_iff.mp hok
          have hpos := size_pos (α := α)
          rw [toNat_ofNat m (by omega)]
    · intro h
      simp [h, Except.toOption, ofNat_toNat]
  rw [hread, Numeral.readUnsigned_eq_ok_iff]
  exact ⟨fun ⟨digits, hcs, hne, hall, _, hvalue⟩ => ⟨digits, hcs, hne, hall, hvalue⟩,
    fun ⟨digits, hcs, hne, hall, hvalue⟩ => ⟨digits, hcs, hne, hall, hrange, hvalue⟩⟩

end Word

end GpuTelemetry
