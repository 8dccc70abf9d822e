import GpuTelemetry.Text.Lines
import Mathlib.Data.List.Basic

/-!
# The lines of a text

How a text divides into lines, with no reference to how they are found. A text in
which every line is ended by a line feed has just these lines again, less a
carriage return at the end of each.
-/

namespace GpuTelemetry.Text

/-- How a text divides into lines. A line feed ends a line, together with a carriage return in front
of it, and what follows the last line feed is a line of its own unless it is empty. -/
inductive Divides : List Char → List (List Char) → Prop
  | nothing : Divides [] []
  | last {line : List Char} : line ≠ [] → '\n' ∉ line → Divides line [line]
  | ended {line rest : List Char} {lines : List (List Char)} :
    '\n' ∉ line → line.getLast? ≠ some '\r' → Divides rest lines →
    Divides (line ++ '\n' :: rest) (line :: lines)
  | returned {line rest : List Char} {lines : List (List Char)} :
    '\n' ∉ line → Divides rest lines → Divides (line ++ '\r' :: '\n' :: rest) (line :: lines)

/-- What a line is without the carriage return that may end it. -/
def withoutReturn (line : List Char) : List Char :=
  if line.getLast? = some '\r' then line.dropLast else line

theorem withoutReturn_of_not_mem {line : List Char} (h : '\r' ∉ line) :
    withoutReturn line = line :=
  if_neg fun hlast => h (List.mem_of_getLast? hlast)

/-- A line goes on with a character that does not end it. -/
theorem lines_cons {c : Char} {cs : List Char} (hc : c ≠ '\n')
    (hreturn : ∀ rest, c = '\r' → cs ≠ '\n' :: rest) :
    lines (c :: cs) =
      match lines cs with
      | [] => [[c]]
      | line :: rest => (c :: line) :: rest := by
  rw [lines.eq_def]
  split
  next heq => cases heq
  next heq => exact absurd (List.cons.inj heq).1 hc
  next heq =>
    obtain ⟨rfl, rfl⟩ := List.cons.inj heq
    exact absurd rfl (hreturn _ rfl)
  next heq =>
    obtain ⟨rfl, rfl⟩ := List.cons.inj heq
    rfl

theorem withoutReturn_cons {c : Char} {cs : List Char} (h : cs = [] → c ≠ '\r') :
    withoutReturn (c :: cs) = c :: withoutReturn cs := by
  cases cs with
  | nil => simp [withoutReturn, h rfl]
  | cons d ds =>
      rw [withoutReturn, withoutReturn, List.getLast?_cons_cons, List.dropLast_cons_cons]
      split <;> rfl

theorem lines_append_newline {line : List Char} (h : '\n' ∉ line) (rest : List Char) :
    lines (line ++ '\n' :: rest) = withoutReturn line :: lines rest := by
  induction line with
  | nil => exact lines_newline rest
  | cons c cs ih =>
      rw [List.mem_cons, not_or] at h
      by_cases hlast : cs = [] ∧ c = '\r'
      · obtain ⟨rfl, rfl⟩ := hlast
        simp [lines, withoutReturn]
      · have hreturn : ∀ tail, c = '\r' → cs ++ '\n' :: rest ≠ '\n' :: tail := by
          rintro tail rfl heq
          cases cs with
          | nil => exact hlast ⟨rfl, rfl⟩
          | cons d ds => exact h.2 ((List.cons.inj heq).1 ▸ List.mem_cons_self)
        rw [List.cons_append, lines_cons (Ne.symm h.1) hreturn, ih h.2]
        dsimp only
        rw [withoutReturn_cons fun hnil hc => hlast ⟨hnil, hc⟩]

theorem lines_flatMap {ls : List (List Char)} (h : ∀ line ∈ ls, '\n' ∉ line) :
    lines (ls.flatMap fun line => line ++ ['\n']) = ls.map withoutReturn := by
  induction ls with
  | nil => exact lines_nil
  | cons line ls ih =>
      obtain ⟨hline, hls⟩ := List.forall_mem_cons.mp h
      rw [List.flatMap_cons, List.append_assoc, List.singleton_append, lines_append_newline hline,
        ih hls, List.map_cons]

theorem lines_of_not_mem {line : List Char} (hne : line ≠ []) (h : '\n' ∉ line) :
    lines line = [line] := by
  induction line with
  | nil => exact absurd rfl hne
  | cons c cs ih =>
      rw [List.mem_cons, not_or] at h
      have hreturn : ∀ rest, c = '\r' → cs ≠ '\n' :: rest := by
        rintro rest - rfl
        exact h.2 List.mem_cons_self
      rw [lines_cons (Ne.symm h.1) hreturn]
      cases cs with
      | nil => rw [lines_nil]
      | cons d ds => rw [ih (by simp) h.2]

theorem Divides.lines_eq {text : List Char} {ls : List (List Char)} (h : Divides text ls) :
    lines text = ls := by
  induction h with
  | nothing => exact lines_nil
  | last hne hline => exact lines_of_not_mem hne hline
  | ended hline hreturn _ ih => rw [lines_append_newline hline, ih, withoutReturn, if_neg hreturn]
  | @returned line rest ls hline _ ih =>
      have hline' : '\n' ∉ line ++ ['\r'] := by simpa using hline
      have happend : line ++ '\r' :: '\n' :: rest = (line ++ ['\r']) ++ '\n' :: rest := by simp
      rw [happend, lines_append_newline hline', ih, withoutReturn, List.getLast?_concat, if_pos rfl,
        List.dropLast_concat]

theorem divides_lines (text : List Char) : Divides text (lines text) := by
  -- on the length, since the first line feed leaves a shorter rest
  induction hlength : text.length using Nat.strongRecOn generalizing text with
  | ind n ih =>
      subst hlength
      by_cases hbreak : '\n' ∈ text
      · obtain ⟨line, rest, rfl, hline⟩ := List.eq_append_cons_of_mem hbreak
        have hrest : Divides rest (lines rest) :=
          ih rest.length (by simp only [List.length_append, List.length_cons]; omega) rest rfl
        rw [lines_append_newline hline, withoutReturn]
        split
        next hlast =>
          obtain ⟨front, rfl⟩ := List.getLast?_eq_some_iff.mp hlast
          rw [List.dropLast_concat, List.append_assoc]
          exact .returned (fun hmem => hline (List.mem_append_left _ hmem)) hrest
        next hlast => exact .ended hline hlast hrest
      · by_cases hne : text = []
        · subst hne
          exact lines_nil ▸ Divides.nothing
        · rw [lines_of_not_mem hne hbreak]
          exact .last hne hbreak

end GpuTelemetry.Text
