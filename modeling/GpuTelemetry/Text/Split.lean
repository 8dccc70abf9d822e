/-!
# Splitting a text

`splitBy p` cuts a text at every character with the property `p`. The pieces are
in order and may be empty; there is one more of them than there are cuts.
-/

namespace GpuTelemetry.Text

def splitBy (p : Char → Bool) : List Char → List (List Char)
  | [] => [[]]
  | c :: cs =>
    if p c then [] :: splitBy p cs
    else
      match splitBy p cs with
      | [] => [[c]]
      | piece :: pieces => (c :: piece) :: pieces

theorem splitBy_ne_nil (p : Char → Bool) (s : List Char) : splitBy p s ≠ [] := by
  cases s with
  | nil => simp [splitBy]
  | cons c cs =>
    simp only [splitBy]
    split
    · simp
    · split <;> simp

theorem splitBy_append_cons {p : Char → Bool} {c : Char} (hc : p c = true) (s t : List Char) :
    splitBy p (s ++ c :: t) = splitBy p s ++ splitBy p t := by
  induction s with
  | nil => simp [splitBy, hc]
  | cons d ds ih =>
    simp only [List.cons_append, splitBy]
    split
    · rw [ih]; rfl
    · rw [ih]
      cases h : splitBy p ds with
      | nil => exact absurd h (splitBy_ne_nil p ds)
      | cons piece pieces => rfl

end GpuTelemetry.Text
