import GpuTelemetry.Proofs.Process.Presence

/-!
# When names are asked for

A process cache asks for the names of a process with the first record of a
presence and not again as long as that lasts. All records of the process in it
get those two answers, also if the questions failed.
-/

namespace GpuTelemetry

namespace GpuProcess

/-- Whether the share of a process in the memory of a device can be told. -/
def KnowsShare (total : Option UInt64) (process : GpuProcess) : Prop :=
  ∃ memory used, total = some memory ∧ 0 < memory ∧ process.memory = some used

/-- A record that a cache has filled: everything but the names, the processor figures and the share
of the memory is as it was, and the share is filled just when it can be told. -/
structure Filled (total : Option UInt64) (process record : GpuProcess) : Prop where
  rest : record =
    { process with
      commandLine := record.commandLine
      userName := record.userName
      cpuUsage := record.cpuUsage
      residentMemory := record.residentMemory
      virtualMemory := record.virtualMemory
      memoryShare := record.memoryShare }
  share : ∀ memory used, total = some memory → 0 < memory → process.memory = some used →
    record.memoryShare = some (memoryPercent used memory)
  noShare : ¬process.KnowsShare total → record.memoryShare = process.memoryShare

end GpuProcess

namespace CachedProcess

@[simp] theorem commandLine_answered (entry : CachedProcess) (answer : Option CpuSample) :
    (entry.answered answer).commandLine = entry.commandLine := by
  unfold answered
  split <;> rfl

@[simp] theorem userName_answered (entry : CachedProcess) (answer : Option CpuSample) :
    (entry.answered answer).userName = entry.userName := by
  unfold answered
  split <;> rfl

end CachedProcess

namespace ProcessCache

/-- The questions for the names of a process that one more step puts. -/
def nameQuestionsOf (source : ProcessSource) (pid : UInt32) (history : List CacheStep)
    (step : CacheStep) : List ProcessQuestion :=
  ((after source (history ++ [step])).asked.drop (after source history).asked.length).filter
    fun question => question = .commandLine pid ∨ question = .userName pid

section

variable (source : ProcessSource) (pid : UInt32) (history : List CacheStep)

theorem nameQuestionsOf_describe (total : Option UInt64) (process : GpuProcess) :
    nameQuestionsOf source pid history (.describe total process) =
      if process.pid = pid then (after source history).nameQuestions pid else [] := by
  have hasked : (after source (history ++ [.describe total process])).asked =
      (after source history).asked ++ ((after source history).nameQuestions process.pid ++
        (after source history).sampleQuestions source process.pid) := by
    rw [after_append_singleton, ← List.append_assoc]
    exact asked_describe source total (after source history) process
  have hsample : ((after source history).sampleQuestions source process.pid).filter
      (fun question => question = .commandLine pid ∨ question = .userName pid) = [] := by
    rw [sampleQuestions]
    split <;> simp
  rw [nameQuestionsOf, hasked, List.drop_left, List.filter_append, hsample, List.append_nil]
  by_cases hpid : process.pid = pid
  · subst hpid
    rw [if_pos rfl, nameQuestions]
    split <;> simp
  · rw [if_neg hpid, nameQuestions]
    split <;> simp [hpid]

theorem nameQuestionsOf_of_endsCycle {step : CacheStep} (h : step.endsCycle = true) :
    nameQuestionsOf source pid history step = [] := by
  have hasked : (after source (history ++ [step])).asked = (after source history).asked := by
    rw [after_append_singleton]
    cases step with
    | describe total process => cases h
    | endCycle => rfl
    | clear => rfl
  rw [nameQuestionsOf, hasked, List.drop_length, List.filter_nil]

theorem nameQuestionsOf_first {step : CacheStep} (hpid : step.pid? = some pid)
    (habsent : ¬Recent pid history) :
    nameQuestionsOf source pid history step = [.commandLine pid, .userName pid] := by
  cases step with
  | endCycle => cases hpid
  | clear => cases hpid
  | describe total process =>
      cases hpid
      have hunknown : ¬((after source history).known process.pid).isSome = true := by
        rw [isSome_known_after]
        exact habsent
      rw [nameQuestionsOf_describe, if_pos rfl, nameQuestions, if_neg hunknown]

theorem nameQuestionsOf_eq_nil {step : CacheStep}
    (hquiet : step.pid? ≠ some pid ∨ Recent pid history) :
    nameQuestionsOf source pid history step = [] := by
  cases step with
  | endCycle => exact nameQuestionsOf_of_endsCycle source pid history rfl
  | clear => exact nameQuestionsOf_of_endsCycle source pid history rfl
  | describe total process =>
      rw [nameQuestionsOf_describe]
      split
      next hpid =>
        rcases hquiet with hother | hrecent
        · exact (hother (congrArg some hpid)).elim
        · rw [nameQuestions, if_pos ((isSome_known_after source pid history).mpr hrecent)]
      next => rfl

end

variable {source : ProcessSource} {pid : UInt32} {history before : List CacheStep}

/-- The names in an entry are the answers to the questions with which the presence began. -/
structure Named (source : ProcessSource) (pid : UInt32) (before : List CacheStep)
    (entry : CachedProcess) : Prop where
  commandLine : entry.commandLine = source.commandLine (after source before).asked.length pid
  userName : entry.userName = source.userName ((after source before).asked.length + 1) pid

theorem Named.answered {entry : CachedProcess} (h : Named source pid before entry)
    (answer : Option CpuSample) : Named source pid before (entry.answered answer) := by
  constructor
  · rw [CachedProcess.commandLine_answered, h.commandLine]
  · rw [CachedProcess.userName_answered, h.userName]

theorem named_opened_of_absent (habsent : ¬Recent pid history) :
    Named source pid history ((after source history).opened source pid) := by
  have hunknown : (after source history).known pid = none := by
    rw [← Option.not_isSome_iff_eq_none, isSome_known_after]
    exact habsent
  rw [opened, hunknown]
  exact ⟨rfl, rfl⟩

theorem named_of_presentSince (h : PresentSince pid history before) {entry : CachedProcess}
    (hentry : (after source history).known pid = some entry) : Named source pid before entry := by
  induction history using List.reverseRecOn generalizing entry with
  | nil => cases hentry
  | append_singleton history step ih =>
      rw [after_append_singleton] at hentry
      rcases presentSince_append_singleton.mp h with ⟨rfl, hpid, habsent⟩ | ⟨hold, hrecent⟩
      · cases step with
        | endCycle => cases hpid
        | clear => cases hpid
        | describe total process =>
            cases hpid
            have hdescribed := known_describe source total (after source before) process process.pid
            rw [if_pos rfl] at hdescribed
            cases hdescribed.symm.trans hentry
            exact (named_opened_of_absent habsent).answered _
      · cases step with
        | describe total process =>
            have hdescribed := known_describe source total (after source history) process pid
            by_cases hpid : pid = process.pid
            · subst hpid
              rw [if_pos rfl] at hdescribed
              cases hdescribed.symm.trans hentry
              have hknown := (isSome_known_after source process.pid history).mpr hold.recent
              obtain ⟨old, hold'⟩ := Option.isSome_iff_exists.mp hknown
              apply Named.answered
              rw [opened, hold', Option.getD_some]
              exact ih hold hold'
            · rw [if_neg hpid] at hdescribed
              exact ih hold (hdescribed.symm.trans hentry)
        | endCycle =>
            obtain ⟨old, hold', rfl⟩ := known_of_known_endCycle hentry
            have hnamed := ih hold hold'
            exact ⟨hnamed.commandLine, hnamed.userName⟩
        | clear => exact (not_recent_append_clear hrecent).elim

/-- The questions for the names are the first ones that the record beginning a presence leads to. -/
theorem asked_prefix_of_presentSince (source : ProcessSource)
    (h : PresentSince pid history before) :
    (after source before).asked ++ [.commandLine pid, .userName pid] <+:
      (after source history).asked := by
  obtain ⟨step, later, rfl, hpid, habsent, -⟩ := h
  have hlater := asked_prefix_stepAll source (after source (before ++ [step])) later
  rw [← after_append, List.append_assoc] at hlater
  refine List.IsPrefix.trans ?_ hlater
  cases step with
  | endCycle => cases hpid
  | clear => cases hpid
  | describe total process =>
      cases hpid
      have hunknown : ¬((after source before).known process.pid).isSome = true := by
        rw [isSome_known_after]
        exact habsent
      have hasked := asked_describe source total (after source before) process
      rw [nameQuestions, if_neg hunknown] at hasked
      rw [after_append_singleton]
      exact ⟨_, hasked.symm⟩

end ProcessCache

namespace GpuProcess

theorem withMemoryShare_of_not_knowsShare {process : GpuProcess} {total : Option UInt64}
    (h : ¬process.KnowsShare total) : process.withMemoryShare total = process := by
  unfold withMemoryShare
  split
  next memory used hused =>
    by_cases hzero : memory = 0
    · rw [if_pos hzero]
    · exact (h ⟨memory, used, rfl, UInt64.pos_iff_ne_zero.mpr hzero, hused⟩).elim
  next => rfl

theorem withMemoryShare_of_pos {process : GpuProcess} {memory used : UInt64} (hpos : 0 < memory)
    (hused : process.memory = some used) :
    process.withMemoryShare (some memory) =
      { process with memoryShare := some (memoryPercent used memory) } := by
  have hzero : memory ≠ 0 := UInt64.pos_iff_ne_zero.mp hpos
  simp only [withMemoryShare, hused, if_neg hzero]

theorem filled_withMemoryShare (process : GpuProcess) (entry : CachedProcess)
    (total : Option UInt64) :
    Filled total process ((process.describe entry).withMemoryShare total) := by
  by_cases hknows : process.KnowsShare total
  · obtain ⟨memory, used, rfl, hpos, hused⟩ := hknows
    have hshare : ((process.describe entry).withMemoryShare (some memory)) =
        { process.describe entry with memoryShare := some (memoryPercent used memory) } :=
      withMemoryShare_of_pos hpos hused
    rw [hshare]
    refine ⟨rfl, ?_, ?_⟩
    · rintro _ _ htotal - hother
      cases htotal
      cases hused.symm.trans hother
      rfl
    · intro hnone
      exact (hnone ⟨memory, used, rfl, hpos, hused⟩).elim
  · have hshare : (process.describe entry).withMemoryShare total = process.describe entry :=
      withMemoryShare_of_not_knowsShare hknows
    rw [hshare]
    refine ⟨rfl, ?_, fun _ => rfl⟩
    intro memory used htotal hpos hused
    exact (hknows ⟨memory, used, htotal, hpos, hused⟩).elim

end GpuProcess

namespace ProcessCache

theorem forall₂_filled_populate (source : ProcessSource) (total : Option UInt64)
    (cache : ProcessCache) (processes : List GpuProcess) :
    List.Forall₂ (GpuProcess.Filled total) processes (cache.populate source total processes).1 := by
  induction processes generalizing cache with
  | nil => exact .nil
  | cons process processes ih =>
      have hcons : (cache.populate source total (process :: processes)).1 =
          (cache.describe source total process).1 ::
            ((cache.describe source total process).2.populate source total processes).1 := rfl
      rw [hcons, describe_fst]
      exact .cons (process.filled_withMemoryShare _ total) (ih _)

/-- The names in a record are those of the presence that it belongs to, unless a question failed. -/
theorem names_of_described {before history : List CacheStep} (source : ProcessSource)
    {total : Option UInt64} {process : GpuProcess}
    (h : PresentSince process.pid (history ++ [.describe total process]) before) :
    let entry := (after source history).described source process.pid
    let record := (process.describe entry).withMemoryShare total
    record.commandLine =
        (source.commandLine (after source before).asked.length process.pid).or
          process.commandLine ∧
      record.userName =
        (source.userName ((after source before).asked.length + 1) process.pid).or
          process.userName := by
  have hknown := known_describe source total (after source history) process process.pid
  rw [if_pos rfl] at hknown
  have hentry : (after source (history ++ [.describe total process])).known process.pid =
      some ((after source history).described source process.pid) := by
    rw [after_append_singleton]
    exact hknown
  have hnamed := named_of_presentSince h hentry
  intro entry
  obtain ⟨share, hshare⟩ := exists_withMemoryShare_eq (process.describe entry) total
  rw [hshare, ← hnamed.commandLine, ← hnamed.userName]
  exact ⟨rfl, rfl⟩

/-- The names in any run of calls. The questions for the names of a process are put with the first
record of each of its presences and with no other, and all records of the presence get the two
answers. Filling the records of a device keeps their number, their order and what else they hold. -/
theorem names_of_calls (source : ProcessSource) {calls : List CacheCall}
    {history later : List CacheStep} {step : CacheStep}
    (h : calls.flatMap CacheCall.steps = history ++ step :: later) (pid : UInt32) :
    (callAll source {} calls).2 = after source (history ++ step :: later) ∧
      (step.pid? = some pid → ¬Recent pid history →
        nameQuestionsOf source pid history step = [.commandLine pid, .userName pid]) ∧
      (step.pid? ≠ some pid ∨ Recent pid history →
        nameQuestionsOf source pid history step = []) ∧
      (∀ process, step.process? = some process → process.pid = pid →
        ∃ before record, PresentSince pid (history ++ [step]) before ∧
          (∀ other, PresentSince pid (history ++ [step]) other → before = other) ∧
          (after source before).asked ++ [.commandLine pid, .userName pid] <+:
            (callAll source {} calls).2.asked ∧
          (callAll source {} calls).1[(history.filterMap CacheStep.process?).length]? =
            some record ∧
          record.commandLine =
            (source.commandLine (after source before).asked.length pid).or process.commandLine ∧
          record.userName =
            (source.userName ((after source before).asked.length + 1) pid).or
              process.userName) ∧
      ∀ (cache : ProcessCache) (total : Option UInt64) (processes : List GpuProcess),
        List.Forall₂ (GpuProcess.Filled total) processes
          (cache.populate source total processes).1 := by
  have hafter : (callAll source {} calls).2 = after source (history ++ step :: later) := by
    rw [callAll_eq_stepAll, h]
    rfl
  refine ⟨hafter, nameQuestionsOf_first source pid history,
    nameQuestionsOf_eq_nil source pid history, ?_, fun cache total processes =>
      forall₂_filled_populate source total cache processes⟩
  rintro process hprocess rfl
  cases step with
  | endCycle => cases hprocess
  | clear => cases hprocess
  | describe total described =>
      cases hprocess
      have hrecent : Recent process.pid (history ++ [.describe total process]) :=
        recent_append_of_pid? rfl
      obtain ⟨before, hbefore⟩ := exists_presentSince_of_recent hrecent
      refine ⟨before, _, hbefore, fun other hother => hbefore.unique hother, ?_,
        record_of_callAll source h, names_of_described source hbefore⟩
      have hprefix := asked_prefix_stepAll source
        (after source (history ++ [.describe total process])) later
      rw [← after_append, List.append_assoc, List.singleton_append, ← hafter] at hprefix
      exact (asked_prefix_of_presentSince source hbefore).trans hprefix

/-- Process 7 stays for two cycles, in the second one on two devices. The question for its command
line fails with its first record and would not do so later. -/
theorem names_of_process_on_two_devices :
    let source : ProcessSource :=
      { ProcessSource.empty with
        commandLine := fun number _ => if number = 0 then none else some "late"
        userName := fun number _ => if number = 1 then some "alice" else some "bob" }
    let process : GpuProcess := { pid := 7, memory := some 1 }
    let calls : List CacheCall :=
      [.populate none [process], .endCycle, .populate none [process], .populate (some 4) [process]]
    let history : List CacheStep := [.describe none process, .endCycle, .describe none process]
    nameQuestionsOf source 7 history (.describe (some 4) process) = [] ∧
      ∃ record, (callAll source {} calls).1[2]? = some record ∧
        record.commandLine = none ∧ record.userName = some "alice" := by
  intro source process calls history
  have hsplit : calls.flatMap CacheCall.steps = history ++ .describe (some 4) process :: [] := rfl
  obtain ⟨-, -, hquiet, hrecords, -⟩ := names_of_calls source hsplit 7
  have hfirst : PresentSince 7 ([] ++ [.describe none process]) [] := by
    apply presentSince_append_singleton.mpr
    exact .inl ⟨rfl, rfl, fun hrecent => hrecent.elim not_occurred_nil not_occurred_nil⟩
  have hnext : PresentSince 7 ([.describe none process] ++ [.endCycle]) [] := by
    apply presentSince_append_singleton.mpr
    have hoccurred : Occurred 7 [.describe none process] 0 := ⟨[], _, [], rfl, rfl, by simp, rfl⟩
    exact .inr ⟨hfirst, recent_append_endCycle.mpr hoccurred⟩
  have hagain :
      PresentSince 7 ([.describe none process, .endCycle] ++ [.describe none process]) [] :=
    presentSince_append_singleton.mpr (.inr ⟨hnext, recent_append_of_pid? rfl⟩)
  have hlast : PresentSince 7 (history ++ [.describe (some 4) process]) [] :=
    presentSince_append_singleton.mpr (.inr ⟨hagain, recent_append_of_pid? rfl⟩)
  obtain ⟨before, record, -, hunique, -, hrecord, hcommandLine, huserName⟩ :=
    hrecords process rfl rfl
  cases hunique [] hlast
  exact ⟨hquiet (.inr hagain.recent), record, hrecord, hcommandLine, huserName⟩

end ProcessCache

end GpuTelemetry
