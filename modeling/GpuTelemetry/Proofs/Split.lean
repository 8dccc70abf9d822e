import Mathlib.Data.List.Basic

/-!
# Splitting a run that goes on

A run that takes one more step splits at that step or at one of those before. So
what was found in it and not stopped since was found with that step, or it was
found before and the step does not stop it.
-/

namespace GpuTelemetry

variable {α : Type} {run before later : List α} {step found : α}

theorem append_singleton_eq_append_cons_iff :
    run ++ [step] = before ++ found :: later ↔
      (before = run ∧ found = step ∧ later = []) ∨
        ∃ front, later = front ++ [step] ∧ run = before ++ found :: front := by
  constructor
  · intro hsplit
    rcases List.eq_nil_or_concat later with rfl | ⟨front, last, rfl⟩
    · obtain ⟨rfl, hstep⟩ := List.append_inj' hsplit rfl
      cases hstep
      exact .inl ⟨rfl, rfl, rfl⟩
    · rw [List.concat_eq_append] at hsplit ⊢
      have hassoc : before ++ found :: (front ++ [last]) =
          (before ++ found :: front) ++ [last] := by
        simp
      obtain ⟨rfl, hstep⟩ := List.append_inj' (hsplit.trans hassoc) rfl
      cases hstep
      exact .inr ⟨front, rfl, rfl⟩
  · rintro (⟨rfl, rfl, rfl⟩ | ⟨front, rfl, rfl⟩)
    · rfl
    · simp

/-- What is found in a run that goes on, with no `stop` and so many ends since. -/
theorem exists_found_append_singleton_iff {find : α → Prop} {stop : α} {isEnd : α → Bool}
    {ends : Nat} :
    (∃ before found later, run ++ [step] = before ++ found :: later ∧
        find found ∧ stop ∉ later ∧ later.countP isEnd = ends) ↔
      (find step ∧ ends = 0) ∨
        (step ≠ stop ∧ ∃ earlier,
          (∃ before found later, run = before ++ found :: later ∧
            find found ∧ stop ∉ later ∧ later.countP isEnd = earlier) ∧
          ends = earlier + if isEnd step then 1 else 0) := by
  constructor
  · rintro ⟨before, found, later, hsplit, hfound, hlater, hends⟩
    rcases append_singleton_eq_append_cons_iff.mp hsplit with ⟨rfl, rfl, rfl⟩ | ⟨front, rfl, rfl⟩
    · exact .inl ⟨hfound, hends.symm⟩
    · rw [List.mem_append, not_or, List.mem_singleton] at hlater
      rw [List.countP_append, List.countP_singleton] at hends
      exact .inr ⟨Ne.symm hlater.2, _, ⟨before, found, front, rfl, hfound, hlater.1, rfl⟩,
        hends.symm⟩
  · rintro (⟨hfound, rfl⟩ | ⟨hstep, earlier, ⟨before, found, later, rfl, hfound, hlater, rfl⟩, rfl⟩)
    · exact ⟨run, step, [], rfl, hfound, List.not_mem_nil, rfl⟩
    · refine ⟨before, found, later ++ [step], by simp, hfound, ?_, ?_⟩
      · rw [List.mem_append, not_or, List.mem_singleton]
        exact ⟨hlater, Ne.symm hstep⟩
      · rw [List.countP_append, List.countP_singleton]

end GpuTelemetry
