import GpuTelemetry.Proofs.Numeral.Reading
import GpuTelemetry.Text.Blank
import Mathlib.Data.List.Basic

/-!
# Trimming white space

Which characters are white space, and what is left of a text after trimming either
end of it, as parts of the text.
-/

namespace GpuTelemetry.Text

/-- The code points with the Unicode property White_Space, one by one. -/
def IsWhiteSpace (c : Char) : Prop :=
  c.toNat ∈ [0x9, 0xA, 0xB, 0xC, 0xD, 0x20, 0x85, 0xA0, 0x1680, 0x2000, 0x2001, 0x2002, 0x2003,
    0x2004, 0x2005, 0x2006, 0x2007, 0x2008, 0x2009, 0x200A, 0x2028, 0x2029, 0x202F, 0x205F, 0x3000]

instance (c : Char) : Decidable (IsWhiteSpace c) :=
  inferInstanceAs (Decidable (_ ∈ _))

theorem isBlank_iff {c : Char} : isBlank c = true ↔ IsWhiteSpace c := by
  simp only [isBlank, blankRanges, IsWhiteSpace, List.any_cons, List.any_nil, Bool.or_eq_true,
    Bool.and_eq_true, decide_eq_true_eq, Bool.or_false, List.mem_cons, List.not_mem_nil, or_false]
  omega

theorem isBlank_eq_false_iff {c : Char} : isBlank c = false ↔ ¬ IsWhiteSpace c := by
  rw [← isBlank_iff, Bool.not_eq_true]

/-- The characters of ASCII that leave a mark. -/
def IsVisible (c : Char) : Prop :=
  0x20 < c.toNat ∧ c.toNat < 0x7F

instance (c : Char) : Decidable (IsVisible c) :=
  inferInstanceAs (Decidable (_ ∧ _))

theorem blankRanges_not_visible : ∀ range ∈ blankRanges, range.2 ≤ 0x20 ∨ 0x7F ≤ range.1 := by
  decide

theorem IsVisible.isBlank_eq_false {c : Char} (h : IsVisible c) : isBlank c = false := by
  rw [isBlank, List.any_eq_false]
  intro range hrange
  obtain ⟨hlow, hhigh⟩ := h
  have hapart := blankRanges_not_visible range hrange
  simp only [Bool.and_eq_true, decide_eq_true_eq]
  omega

theorem isVisible_of_le {low high c : Char} (hlow : IsVisible low) (hhigh : IsVisible high)
    (h : low ≤ c ∧ c ≤ high) : IsVisible c :=
  ⟨Nat.lt_of_lt_of_le hlow.1 (UInt32.le_iff_toNat_le.mp h.1),
    Nat.lt_of_le_of_lt (UInt32.le_iff_toNat_le.mp h.2) hhigh.2⟩

theorem isVisible_of_isDigit {c : Char} (h : c.isDigit = true) : IsVisible c := by
  have hzero : IsVisible '0' := by decide
  have hnine : IsVisible '9' := by decide
  exact isVisible_of_le hzero hnine (Numeral.isDigit_iff.mp h)

/-- A text loses the white space in front of it, and nothing else. -/
theorem trimStart_eq_iff {s t : List Char} (ht : ∃ c ∈ t.head?, isBlank c = false) :
    trimStart s = t ↔ ∃ blanks, s = blanks ++ t ∧ ∀ c ∈ blanks, isBlank c = true := by
  obtain ⟨c, hc, hblank⟩ := ht
  obtain ⟨rest, rfl⟩ := List.head?_eq_some_iff.mp hc
  constructor
  · intro h
    refine ⟨s.takeWhile isBlank, ?_, List.all_eq_true.mp List.all_takeWhile⟩
    rw [← h, trimStart, List.takeWhile_append_dropWhile]
  · rintro ⟨blanks, rfl, hall⟩
    rw [trimStart, List.dropWhile_append_of_pos hall, List.dropWhile_cons_of_neg (by simp [hblank])]

theorem head?_trimStart {s : List Char} (h : trimStart s ≠ []) :
    ∃ c ∈ (trimStart s).head?, isBlank c = false := by
  refine ⟨(trimStart s).head h, List.head_mem_head? h, ?_⟩
  exact List.head_dropWhile_not isBlank h

theorem trimEnd_append_blanks {blanks : List Char} (h : ∀ c ∈ blanks, isBlank c = true)
    (s : List Char) : trimEnd (s ++ blanks) = trimEnd s := by
  have hreverse : ∀ c ∈ blanks.reverse, isBlank c = true :=
    fun c hc => h c (List.mem_reverse.mp hc)
  rw [trimEnd, trimEnd, List.reverse_append, List.dropWhile_append_of_pos hreverse]

/-- Only white space is trimmed off the end. -/
theorem exists_eq_trimEnd_append (s : List Char) :
    ∃ blanks, s = trimEnd s ++ blanks ∧ ∀ c ∈ blanks, isBlank c = true := by
  refine ⟨(s.reverse.takeWhile isBlank).reverse, ?_, ?_⟩
  · rw [trimEnd, ← List.reverse_append, List.takeWhile_append_dropWhile, List.reverse_reverse]
  · intro c hc
    exact List.all_eq_true.mp List.all_takeWhile c (List.mem_reverse.mp hc)

theorem getLast?_trimEnd_eq_some_iff {s : List Char} {c : Char} (hc : isBlank c = false) :
    (trimEnd s).getLast? = some c ↔
      ∃ front blanks, s = front ++ c :: blanks ∧ ∀ d ∈ blanks, isBlank d = true := by
  constructor
  · intro h
    obtain ⟨blanks, hs, hblanks⟩ := exists_eq_trimEnd_append s
    obtain ⟨front, hfront⟩ := List.getLast?_eq_some_iff.mp h
    refine ⟨front, blanks, ?_, hblanks⟩
    rw [hs, hfront, List.append_assoc, List.singleton_append]
  · rintro ⟨front, blanks, rfl, hblanks⟩
    rw [List.append_cons, trimEnd_append_blanks hblanks, trimEnd, List.reverse_append,
      List.reverse_singleton, List.singleton_append, List.dropWhile_cons_of_neg (by simp [hc]),
      List.reverse_cons, List.reverse_reverse, List.getLast?_concat]

end GpuTelemetry.Text
