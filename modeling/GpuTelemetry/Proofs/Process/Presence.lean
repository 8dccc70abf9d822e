import GpuTelemetry.Proofs.Process.CacheSteps
import GpuTelemetry.Proofs.Split
import Mathlib.Data.List.Induction

/-!
# How long a process stays in the cache

A process is in the cache as long as it has a record in the running cycle or had
one in the cycle before, and nothing was cleared since. `PresentSince` names the
record with which such a presence began: there is exactly one for every process
that is in the cache.
-/

namespace GpuTelemetry

/-- The process that a step describes a record of. -/
def CacheStep.pid? (step : CacheStep) : Option UInt32 :=
  step.process?.map GpuProcess.pid

/-- A record of the process was described, so many cycles have ended since, and nothing was cleared
since. -/
def Occurred (pid : UInt32) (history : List CacheStep) (ends : Nat) : Prop :=
  ∃ before step later, history = before ++ step :: later ∧
    step.pid? = some pid ∧ .clear ∉ later ∧ later.countP CacheStep.endsCycle = ends

/-- The process has a record in the running cycle or had one in the cycle before. -/
def Recent (pid : UInt32) (history : List CacheStep) : Prop :=
  Occurred pid history 0 ∨ Occurred pid history 1

/-- The record after the steps `before` is the first one of a presence that lasts until now. -/
def PresentSince (pid : UInt32) (history before : List CacheStep) : Prop :=
  ∃ step later, history = before ++ step :: later ∧
    step.pid? = some pid ∧ ¬Recent pid before ∧
    ∀ part, part <+: later → Recent pid (before ++ step :: part)

section

variable {pid : UInt32} {history before : List CacheStep} {ends : Nat}

theorem not_occurred_nil : ¬Occurred pid [] ends := by
  rintro ⟨before, step, later, hsplit, -⟩
  simp at hsplit

theorem occurred_append_singleton {step : CacheStep} :
    Occurred pid (history ++ [step]) ends ↔
      (step.pid? = some pid ∧ ends = 0) ∨
        (step ≠ .clear ∧ ∃ earlier, Occurred pid history earlier ∧
          ends = earlier + if step.endsCycle then 1 else 0) :=
  exists_found_append_singleton_iff

theorem occurred_append_describe {total : Option UInt64} {process : GpuProcess} :
    Occurred pid (history ++ [.describe total process]) ends ↔
      (process.pid = pid ∧ ends = 0) ∨ Occurred pid history ends := by
  rw [occurred_append_singleton]
  simp [CacheStep.pid?, CacheStep.process?, CacheStep.endsCycle]

theorem occurred_append_endCycle :
    Occurred pid (history ++ [.endCycle]) ends ↔
      ∃ earlier, Occurred pid history earlier ∧ ends = earlier + 1 := by
  rw [occurred_append_singleton]
  simp [CacheStep.pid?, CacheStep.process?, CacheStep.endsCycle]

theorem not_occurred_append_clear : ¬Occurred pid (history ++ [.clear]) ends := by
  rw [occurred_append_singleton]
  simp [CacheStep.pid?, CacheStep.process?]

theorem recent_append_describe {total : Option UInt64} {process : GpuProcess} :
    Recent pid (history ++ [.describe total process]) ↔ process.pid = pid ∨ Recent pid history := by
  simp [Recent, occurred_append_describe, or_assoc]

theorem recent_append_endCycle :
    Recent pid (history ++ [.endCycle]) ↔ Occurred pid history 0 := by
  simp [Recent, occurred_append_endCycle]

theorem not_recent_append_clear : ¬Recent pid (history ++ [.clear]) := by
  simp [Recent, not_occurred_append_clear]

/-- A process comes into the cache with a record of it only. -/
theorem pid?_of_recent_append {step : CacheStep} (hold : ¬Recent pid history)
    (hnew : Recent pid (history ++ [step])) : step.pid? = some pid := by
  cases step with
  | describe total process =>
      rcases recent_append_describe.mp hnew with hpid | hrecent
      · rw [← hpid]
        rfl
      · exact (hold hrecent).elim
  | endCycle => exact (hold (.inl (recent_append_endCycle.mp hnew))).elim
  | clear => exact (not_recent_append_clear hnew).elim

theorem PresentSince.recent (h : PresentSince pid history before) : Recent pid history := by
  obtain ⟨step, later, rfl, -, -, hall⟩ := h
  exact hall later List.prefix_rfl

theorem recent_append_of_pid? {step : CacheStep} (h : step.pid? = some pid) :
    Recent pid (history ++ [step]) :=
  .inl (occurred_append_singleton.mpr (.inl ⟨h, rfl⟩))

theorem presentSince_append_singleton {step : CacheStep} :
    PresentSince pid (history ++ [step]) before ↔
      (before = history ∧ step.pid? = some pid ∧ ¬Recent pid history) ∨
        (PresentSince pid history before ∧ Recent pid (history ++ [step])) := by
  constructor
  · rintro ⟨found, later, hsplit, hpid, habsent, hall⟩
    rcases append_singleton_eq_append_cons_iff.mp hsplit with ⟨rfl, rfl, rfl⟩ | ⟨front, rfl, rfl⟩
    · exact .inl ⟨rfl, hpid, habsent⟩
    · right
      constructor
      · refine ⟨found, front, rfl, hpid, habsent, ?_⟩
        intro part hpart
        exact hall part (hpart.trans (List.prefix_append front [step]))
      · rw [hsplit]
        exact hall (front ++ [step]) List.prefix_rfl
  · rintro (⟨rfl, hpid, habsent⟩ | ⟨⟨found, later, rfl, hpid, habsent, hall⟩, hrecent⟩)
    · refine ⟨step, [], rfl, hpid, habsent, ?_⟩
      intro part hpart
      rw [List.prefix_nil.mp hpart]
      exact recent_append_of_pid? hpid
    · refine ⟨found, later ++ [step], by simp, hpid, habsent, ?_⟩
      intro part hpart
      rcases List.prefix_concat_iff.mp hpart with rfl | hpart
      · simpa using hrecent
      · exact hall part hpart

/-- Every process that is present has been so since one of its records. -/
theorem exists_presentSince_of_recent (h : Recent pid history) :
    ∃ before, PresentSince pid history before := by
  induction history using List.reverseRecOn with
  | nil => exact (h.elim not_occurred_nil not_occurred_nil).elim
  | append_singleton history step ih =>
      by_cases hold : Recent pid history
      · obtain ⟨before, hbefore⟩ := ih hold
        exact ⟨before, presentSince_append_singleton.mpr (.inr ⟨hbefore, h⟩)⟩
      · have hpid := pid?_of_recent_append hold h
        exact ⟨history, presentSince_append_singleton.mpr (.inl ⟨rfl, hpid, hold⟩)⟩

theorem PresentSince.unique {other : List CacheStep} (h : PresentSince pid history before)
    (hother : PresentSince pid history other) : before = other := by
  induction history using List.reverseRecOn with
  | nil => exact (h.recent.elim not_occurred_nil not_occurred_nil).elim
  | append_singleton history step ih =>
      rcases presentSince_append_singleton.mp h with ⟨rfl, -, habsent⟩ | ⟨hold, -⟩
      · rcases presentSince_append_singleton.mp hother with ⟨rfl, -, -⟩ | ⟨hotherOld, -⟩
        · rfl
        · exact (habsent hotherOld.recent).elim
      · rcases presentSince_append_singleton.mp hother with ⟨rfl, -, habsent⟩ | ⟨hotherOld, -⟩
        · exact (habsent hold.recent).elim
        · exact ih hold hotherOld

end

namespace ProcessCache

/-- The running generation holds the processes with a record in this cycle, the previous one those
that had one in the cycle before only. -/
theorem isSome_find?_after (source : ProcessSource) (pid : UInt32) (history : List CacheStep) :
    ((Generations.find? pid (after source history).entries.current).isSome = true ↔
        Occurred pid history 0) ∧
      ((Generations.find? pid (after source history).entries.previous).isSome = true ↔
        Occurred pid history 1 ∧ ¬Occurred pid history 0) := by
  induction history using List.reverseRecOn with
  | nil =>
      have hnone (ends : Nat) : ¬Occurred pid [] ends := not_occurred_nil
      simp [after, stepAll, hnone]
  | append_singleton history step ih =>
      obtain ⟨hcurrent, hprevious⟩ := ih
      rw [after_append_singleton]
      cases step with
      | describe total process =>
          simp only [step, find?_describe_current, find?_describe_previous,
            occurred_append_describe]
          by_cases hpid : pid = process.pid
          · simp [hpid]
          · simp [hpid, Ne.symm hpid, hcurrent, hprevious]
      | endCycle =>
          simp only [step, find?_endCycle_previous, Option.isSome_map, occurred_append_endCycle]
          simp [endCycle, hcurrent]
      | clear =>
          have hnone (ends : Nat) : ¬Occurred pid (history ++ [.clear]) ends :=
            not_occurred_append_clear
          simp [step, clear, hnone]

theorem isSome_known_after (source : ProcessSource) (pid : UInt32) (history : List CacheStep) :
    ((after source history).known pid).isSome = true ↔ Recent pid history := by
  obtain ⟨hcurrent, hprevious⟩ := isSome_find?_after source pid history
  rw [known, Option.isSome_or, Bool.or_eq_true, hcurrent, hprevious, Recent]
  tauto

end ProcessCache

end GpuTelemetry
