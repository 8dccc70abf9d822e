/-!
# Leading and trailing parts of a text

`stripStart?` and `stripEnd?` remove a given beginning or ending, and
`splitAt?` divides a text at the first occurrence of a character.
-/

namespace GpuTelemetry.Text

def stripStart? : List Char → List Char → Option (List Char)
  | [], s => some s
  | _ :: _, [] => none
  | p :: ps, c :: cs => if p = c then stripStart? ps cs else none

def stripEnd? (ending s : List Char) : Option (List Char) :=
  (stripStart? ending.reverse s.reverse).map List.reverse

/-- What stands before and after the first `mark`. -/
def splitAt? (mark : Char) : List Char → Option (List Char × List Char)
  | [] => none
  | c :: cs => if c = mark then some ([], cs) else (splitAt? mark cs).map fun p => (c :: p.1, p.2)

theorem stripStart?_append (p s : List Char) : stripStart? p (p ++ s) = some s := by
  induction p with
  | nil => rfl
  | cons c cs ih => simp [stripStart?, ih]

theorem eq_append_of_stripStart? {p s t : List Char} (h : stripStart? p s = some t) :
    s = p ++ t := by
  induction p generalizing s with
  | nil => simpa [stripStart?] using h
  | cons c cs ih =>
    cases s with
    | nil => simp [stripStart?] at h
    | cons d ds =>
      simp only [stripStart?] at h
      split at h
      next hcd => rw [ih h, hcd]; rfl
      next => cases h

theorem stripStart?_eq_some_iff {p s t : List Char} : stripStart? p s = some t ↔ s = p ++ t :=
  ⟨eq_append_of_stripStart?, fun h => h ▸ stripStart?_append p t⟩

theorem stripEnd?_eq_some_iff {e s t : List Char} : stripEnd? e s = some t ↔ s = t ++ e := by
  simp only [stripEnd?, Option.map_eq_some_iff, stripStart?_eq_some_iff]
  constructor
  · rintro ⟨u, hu, rfl⟩
    have := congrArg List.reverse hu
    simpa using this
  · rintro rfl
    exact ⟨t.reverse, by simp, by simp⟩

theorem splitAt?_eq_some {mark : Char} {s a b : List Char} (h : splitAt? mark s = some (a, b)) :
    s = a ++ mark :: b ∧ mark ∉ a := by
  induction s generalizing a with
  | nil => simp [splitAt?] at h
  | cons c cs ih =>
    simp only [splitAt?] at h
    split at h
    next hc =>
      simp only [Option.some.injEq, Prod.mk.injEq] at h
      obtain ⟨rfl, rfl⟩ := h
      simp [hc]
    next hc =>
      obtain ⟨⟨u, v⟩, huv, heq⟩ := Option.map_eq_some_iff.mp h
      simp only [Prod.mk.injEq] at heq
      obtain ⟨rfl, rfl⟩ := heq
      obtain ⟨hs, hn⟩ := ih huv
      exact ⟨by rw [hs]; rfl, by simpa using ⟨fun e => hc e.symm, hn⟩⟩

end GpuTelemetry.Text
