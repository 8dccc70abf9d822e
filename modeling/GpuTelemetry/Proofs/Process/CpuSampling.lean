import GpuTelemetry.Proofs.Process.CacheSteps
import GpuTelemetry.Proofs.Split
import Mathlib.Data.List.Induction

/-!
# When processes are sampled

In each cycle a process cache asks for a sample of a process once for each of its
records until it gets one. All further records of the process in this cycle get
the figures of that sample. The usage among them is measured against the answer
to the question before, if the process has been in the cache all the time since.
-/

namespace GpuTelemetry

namespace ProcessCache

/-- The answers to the questions for a sample of a process, the first question having the given
number. -/
def answersFrom (source : ProcessSource) (pid : UInt32) (number : Nat)
    (questions : List ProcessQuestion) : List (Option CpuSample) :=
  (questions.zipIdx number).filterMap fun (question, number) =>
    if question = .cpuSample pid then some (source.cpuSample number pid) else none

/-- The answers to the questions for a sample of a process that have been put between two states of
a cache. -/
def answersBetween (source : ProcessSource) (pid : UInt32) (before after : ProcessCache) :
    List (Option CpuSample) :=
  answersFrom source pid before.asked.length (after.asked.drop before.asked.length)

/-- The answers to the questions for a sample of a process that one more step puts. -/
def answersOf (source : ProcessSource) (pid : UInt32) (history : List CacheStep)
    (step : CacheStep) : List (Option CpuSample) :=
  answersBetween source pid (after source history) (after source (history ++ [step]))

/-- The question for a sample of a process has been put before and answered so, has not been put
since, and the process has been in the cache all the time since. -/
def LastAnswered (source : ProcessSource) (pid : UInt32) (history : List CacheStep)
    (answer : Option CpuSample) : Prop :=
  ∃ before step later, history = before ++ step :: later ∧
    answersOf source pid before step = [answer] ∧
    answersBetween source pid (after source (before ++ [step])) (after source history) = [] ∧
    ∀ part, part <+: later → (after source (before ++ step :: part)).contains pid = true

/-- A sample of a process has been taken in the running cycle, after the steps `before`. -/
def Sampled (source : ProcessSource) (pid : UInt32) (history before : List CacheStep)
    (sample : CpuSample) : Prop :=
  ∃ step later, history = before ++ step :: later ∧
    answersOf source pid before step = [some sample] ∧
    ∀ other ∈ later, other.endsCycle = false

section

variable (source : ProcessSource) (pid : UInt32)

theorem answersFrom_append (number : Nat) (a b : List ProcessQuestion) :
    answersFrom source pid number (a ++ b) =
      answersFrom source pid number a ++ answersFrom source pid (number + a.length) b := by
  rw [answersFrom, List.zipIdx_append, List.filterMap_append]
  rfl

theorem answersBetween_of_asked {before after : ProcessCache} {questions : List ProcessQuestion}
    (h : after.asked = before.asked ++ questions) :
    answersBetween source pid before after =
      answersFrom source pid before.asked.length questions := by
  rw [answersBetween, h, List.drop_left]

theorem answersBetween_self (cache : ProcessCache) : answersBetween source pid cache cache = [] := by
  simp [answersBetween, answersFrom]

theorem answersBetween_append (a b c : List CacheStep) :
    answersBetween source pid (after source a) (after source (a ++ b ++ c)) =
      answersBetween source pid (after source a) (after source (a ++ b)) ++
        answersBetween source pid (after source (a ++ b)) (after source (a ++ b ++ c)) := by
  obtain ⟨first, hfirst⟩ := asked_prefix_stepAll source (after source a) b
  obtain ⟨second, hsecond⟩ := asked_prefix_stepAll source (after source (a ++ b)) c
  rw [← after_append] at hfirst hsecond
  have hboth : (after source (a ++ b ++ c)).asked = (after source a).asked ++ (first ++ second) := by
    rw [← hsecond, ← hfirst, List.append_assoc]
  rw [answersBetween_of_asked source pid hboth, answersBetween_of_asked source pid hfirst.symm,
    answersBetween_of_asked source pid hsecond.symm, answersFrom_append, ← hfirst,
    List.length_append]

/-- Describing a record asks for a sample of its process unless there is a reading already. -/
theorem answersBetween_describe (total : Option UInt64) (cache : ProcessCache)
    (process : GpuProcess) :
    answersBetween source pid cache (cache.describe source total process).2 =
      if process.pid = pid ∧ (cache.opened source pid).reading = none then
        [cache.answer source pid]
      else [] := by
  have hasked := asked_describe source total cache process
  rw [List.append_assoc] at hasked
  have hnames : answersFrom source pid cache.asked.length (cache.nameQuestions process.pid) = [] := by
    rw [nameQuestions]
    split <;> simp [answersFrom]
  rw [answersBetween_of_asked source pid hasked, answersFrom_append, hnames, List.nil_append,
    sampleQuestions]
  by_cases hpid : process.pid = pid
  · subst hpid
    cases hreading : (cache.opened source process.pid).reading with
    | some reading => simp [answersFrom]
    | none => simp [answersFrom, answer]
  · have hother : ¬(process.pid = pid ∧ (cache.opened source pid).reading = none) :=
      fun h => hpid h.1
    rw [if_neg hother]
    split <;> simp [answersFrom, hpid]

theorem answersOf_describe (history : List CacheStep) (total : Option UInt64)
    (process : GpuProcess) :
    answersOf source pid history (.describe total process) =
      if process.pid = pid ∧ ((after source history).opened source pid).reading = none then
        [(after source history).answer source pid]
      else [] := by
  rw [answersOf, after_append_singleton]
  exact answersBetween_describe source pid total (after source history) process

theorem answersOf_of_endsCycle (history : List CacheStep) {step : CacheStep}
    (h : step.endsCycle = true) : answersOf source pid history step = [] := by
  rw [answersOf, after_append_singleton]
  cases step with
  | describe total process => cases h
  | endCycle => exact answersBetween_self source pid _
  | clear => exact answersBetween_self source pid _

end

variable {source : ProcessSource} {pid : UInt32}

theorem sampled_append_singleton {history before : List CacheStep} {step : CacheStep}
    {sample : CpuSample} :
    Sampled source pid (history ++ [step]) before sample ↔
      (before = history ∧ answersOf source pid history step = [some sample]) ∨
        (step.endsCycle = false ∧ Sampled source pid history before sample) := by
  constructor
  · rintro ⟨taken, later, hsplit, hanswers, hlater⟩
    rcases append_singleton_eq_append_cons_iff.mp hsplit with ⟨rfl, rfl, rfl⟩ | ⟨front, rfl, rfl⟩
    · exact .inl ⟨rfl, hanswers⟩
    · refine .inr ⟨hlater step (by simp), taken, front, rfl, hanswers, ?_⟩
      intro other hother
      exact hlater other (List.mem_append_left _ hother)
  · rintro (⟨rfl, hanswers⟩ | ⟨hstep, taken, later, rfl, hanswers, hlater⟩)
    · exact ⟨step, [], rfl, hanswers, by simp⟩
    · refine ⟨taken, later ++ [step], by simp, hanswers, ?_⟩
      intro other hother
      rcases List.mem_append.mp hother with hother | hother
      · exact hlater other hother
      · rw [List.mem_singleton.mp hother]
        exact hstep

theorem lastAnswered_append_singleton {history : List CacheStep} {step : CacheStep}
    {answer : Option CpuSample} :
    LastAnswered source pid (history ++ [step]) answer ↔
      (after source (history ++ [step])).contains pid = true ∧
        (answersOf source pid history step = [answer] ∨
          (answersOf source pid history step = [] ∧ LastAnswered source pid history answer)) := by
  constructor
  · -- the question was put by this step, or by an earlier one and this step puts none
    rintro ⟨before, put, later, hsplit, hanswers, hbetween, hpresent⟩
    rcases append_singleton_eq_append_cons_iff.mp hsplit with ⟨rfl, rfl, rfl⟩ | ⟨front, rfl, rfl⟩
    · exact ⟨hpresent [] List.prefix_rfl, .inl hanswers⟩
    · have hall : (after source (before ++ put :: front ++ [step])).contains pid = true := by
        simpa using hpresent (front ++ [step]) List.prefix_rfl
      have hsum := answersBetween_append source pid (before ++ [put]) front [step]
      rw [List.append_assoc before, List.singleton_append] at hsum
      rw [hbetween, eq_comm, List.append_eq_nil_iff] at hsum
      refine ⟨hall, .inr ⟨hsum.2, before, put, front, rfl, hanswers, hsum.1, ?_⟩⟩
      intro part hpart
      exact hpresent part (hpart.trans (List.prefix_append front [step]))
  · rintro ⟨hpresent, hanswers | ⟨hnone, before, put, later, rfl, hanswers, hbetween, hall⟩⟩
    · refine ⟨history, step, [], rfl, hanswers, answersBetween_self source pid _, ?_⟩
      intro part hpart
      rw [List.prefix_nil.mp hpart]
      exact hpresent
    · refine ⟨before, put, later ++ [step], by simp, hanswers, ?_, ?_⟩
      · have hsum := answersBetween_append source pid (before ++ [put]) later [step]
        rw [List.append_assoc before, List.singleton_append, hbetween, List.nil_append] at hsum
        exact hsum.trans hnone
      · intro part hpart
        rcases List.prefix_concat_iff.mp hpart with rfl | hpart
        · simpa using hpresent
        · exact hall part hpart

theorem LastAnswered.contains {history : List CacheStep} {answer : Option CpuSample}
    (h : LastAnswered source pid history answer) :
    (after source history).contains pid = true := by
  obtain ⟨before, put, later, rfl, -, -, hpresent⟩ := h
  exact hpresent later List.prefix_rfl

/-- A reading of the sample taken after the steps `before`. Its usage is measured against the answer
before it, if that was an earlier sample. -/
structure Reports (source : ProcessSource) (pid : UInt32) (before : List CacheStep)
    (sample : CpuSample) (reading : CpuReading) : Prop where
  residentMemory : reading.residentMemory = sample.residentMemory
  virtualMemory : reading.virtualMemory = sample.virtualMemory
  usage : ∀ percent, reading.usage = some percent ↔
    ∃ last, LastAnswered source pid before (some last) ∧ last.time < sample.time ∧
      percent = cpuPercent (sample.cpuTime - last.cpuTime) (sample.time - last.time)

/-- What a cache knows of a process reflects the questions about it. -/
structure Reflects (source : ProcessSource) (pid : UInt32) (history : List CacheStep) : Prop where
  last : ∀ entry, (after source history).known pid = some entry →
    ∃ answer, (∀ other, LastAnswered source pid history other ↔ other = answer) ∧
      entry.lastSample = answer.map fun sample => (sample.cpuTime, sample.time)
  unread : ((after source history).known pid).bind CachedProcess.reading = none →
    ∀ before sample, ¬Sampled source pid history before sample
  read : ∀ reading, ((after source history).known pid).bind CachedProcess.reading = some reading →
    (∃ before sample, Sampled source pid history before sample) ∧
      ∀ before sample, Sampled source pid history before sample →
        Reports source pid before sample reading

theorem reflects_nil (source : ProcessSource) (pid : UInt32) : Reflects source pid [] where
  last _ h := by cases h
  unread _ before sample := by
    rintro ⟨step, later, hsplit, -⟩
    simp at hsplit
  read _ h := by cases h

theorem reading_opened (source : ProcessSource) (cache : ProcessCache) (pid : UInt32) :
    (cache.opened source pid).reading = (cache.known pid).bind CachedProcess.reading := by
  rw [opened]
  cases cache.known pid <;> rfl

/-- The sample that an entry keeps is the last answer. -/
theorem Reflects.lastSample_opened {history : List CacheStep} (h : Reflects source pid history)
    (stamp : Nat × Nat) :
    ((after source history).opened source pid).lastSample = some stamp ↔
      ∃ last, LastAnswered source pid history (some last) ∧ (last.cpuTime, last.time) = stamp := by
  cases hknown : (after source history).known pid with
  | none =>
      simp only [opened, hknown, Option.getD_none, reduceCtorEq, false_iff, not_exists]
      rintro last ⟨hlast, -⟩
      have hcontains := hlast.contains
      rw [contains_eq_isSome_known, hknown] at hcontains
      cases hcontains
  | some entry =>
      obtain ⟨answer, hanswer, hlast⟩ := h.last entry hknown
      simp only [opened, hknown, Option.getD_some, hlast, hanswer, Option.map_eq_some_iff]
      constructor
      · rintro ⟨last, rfl, hstamp⟩
        exact ⟨last, rfl, hstamp⟩
      · rintro ⟨last, rfl, hstamp⟩
        exact ⟨last, rfl, hstamp⟩

theorem cpuUsage_eq_some_iff {last sample : Nat × Nat} {percent : UInt32} :
    cpuUsage last sample = some percent ↔
      last.2 < sample.2 ∧ percent = cpuPercent (sample.1 - last.1) (sample.2 - last.2) := by
  rw [cpuUsage]
  by_cases h : sample.2 ≤ last.2
  · rw [if_pos h]
    constructor
    · intro hnone
      cases hnone
    · rintro ⟨hlt, -⟩
      omega
  · rw [if_neg h, Option.some.injEq, eq_comm]
    exact ⟨fun heq => ⟨by omega, heq⟩, And.right⟩

theorem Reflects.reports {history : List CacheStep} (h : Reflects source pid history)
    (sample : CpuSample) {reading : CpuReading}
    (hreading : (((after source history).opened source pid).sampled sample).reading = some reading) :
    Reports source pid history sample reading := by
  cases hreading
  refine ⟨rfl, rfl, ?_⟩
  intro percent
  simp only [Option.bind_eq_some_iff, h.lastSample_opened, cpuUsage_eq_some_iff]
  constructor
  · rintro ⟨_, ⟨last, hlast, rfl⟩, hlt, hpercent⟩
    exact ⟨last, hlast, hlt, hpercent⟩
  · rintro ⟨last, hlast, hlt, hpercent⟩
    exact ⟨_, ⟨last, hlast, rfl⟩, hlt, hpercent⟩

/-- A step that neither asks about a process nor changes what is known of it. -/
theorem Reflects.idle {history : List CacheStep} {step : CacheStep}
    (h : Reflects source pid history) (hstep : step.endsCycle = false)
    (hanswers : answersOf source pid history step = [])
    (hknown : (after source (history ++ [step])).known pid = (after source history).known pid) :
    Reflects source pid (history ++ [step]) := by
  have hsampled (before : List CacheStep) (sample : CpuSample) :
      Sampled source pid (history ++ [step]) before sample ↔
        Sampled source pid history before sample := by
    simp [sampled_append_singleton, hanswers, hstep]
  refine ⟨?_, ?_, ?_⟩
  · intro entry hentry
    obtain ⟨answer, hanswer, hlast⟩ := h.last entry (hknown ▸ hentry)
    refine ⟨answer, ?_, hlast⟩
    intro other
    rw [lastAnswered_append_singleton, contains_eq_isSome_known, hentry, hanswers, hanswer]
    simp
  · intro hreading
    simp only [hsampled]
    rw [hknown] at hreading
    exact h.unread hreading
  · intro reading hreading
    simp only [hsampled]
    rw [hknown] at hreading
    exact h.read reading hreading

theorem Reflects.ended {history : List CacheStep} {step : CacheStep}
    (h : Reflects source pid history) (hstep : step.endsCycle = true)
    (hknown : ∀ entry, (after source (history ++ [step])).known pid = some entry →
      ∃ before, (after source history).known pid = some before ∧
        entry = { before with reading := none }) :
    Reflects source pid (history ++ [step]) := by
  have hanswers := answersOf_of_endsCycle source pid history hstep
  refine ⟨?_, ?_, ?_⟩
  · intro entry hentry
    obtain ⟨before, hbefore, rfl⟩ := hknown entry hentry
    obtain ⟨answer, hanswer, hlast⟩ := h.last before hbefore
    refine ⟨answer, ?_, hlast⟩
    intro other
    rw [lastAnswered_append_singleton, contains_eq_isSome_known, hentry, hanswers, hanswer]
    simp
  · intro _ before sample
    simp [sampled_append_singleton, hanswers, hstep]
  · intro reading hreading
    obtain ⟨entry, hentry, hread⟩ := Option.bind_eq_some_iff.mp hreading
    obtain ⟨before, -, rfl⟩ := hknown entry hentry
    cases hread

/-- A step that asks for a sample of a process, since it has no reading yet. -/
theorem Reflects.asked {history : List CacheStep} {step : CacheStep} {answer : Option CpuSample}
    (h : Reflects source pid history)
    (hreading : ((after source history).opened source pid).reading = none)
    (hanswers : answersOf source pid history step = [answer])
    (hknown : (after source (history ++ [step])).known pid =
      some (((after source history).opened source pid).answered answer)) :
    Reflects source pid (history ++ [step]) := by
  have hnone := h.unread (reading_opened source _ pid ▸ hreading)
  have hsampled (before : List CacheStep) (sample : CpuSample) :
      Sampled source pid (history ++ [step]) before sample ↔
        before = history ∧ answer = some sample := by
    simp [sampled_append_singleton, hanswers, hnone]
  refine ⟨?_, ?_, ?_⟩
  · intro entry hentry
    refine ⟨answer, ?_, ?_⟩
    · intro other
      rw [lastAnswered_append_singleton, contains_eq_isSome_known, hentry, hanswers]
      simp [eq_comm]
    · rw [hknown, Option.some.injEq] at hentry
      rw [← hentry]
      cases answer with
      | none => rw [CachedProcess.answered_none hreading]; rfl
      | some sample => rw [CachedProcess.answered_some hreading]; rfl
  · intro hunread before sample
    rw [hsampled]
    rintro ⟨-, rfl⟩
    rw [hknown, Option.bind_some, CachedProcess.answered_some hreading] at hunread
    cases hunread
  · intro reading hread
    simp only [hsampled]
    rw [hknown, Option.bind_some] at hread
    cases answer with
    | none =>
        rw [CachedProcess.answered_none hreading] at hread
        exact (Option.some_ne_none reading (hread.symm.trans hreading)).elim
    | some sample =>
        rw [CachedProcess.answered_some hreading] at hread
        refine ⟨⟨history, sample, rfl, rfl⟩, ?_⟩
        rintro before other ⟨rfl, hother⟩
        cases hother
        exact h.reports sample hread

theorem Reflects.step {history : List CacheStep} (h : Reflects source pid history)
    (step : CacheStep) : Reflects source pid (history ++ [step]) := by
  have hafter := after_append_singleton source history step
  cases step with
  | describe total process =>
      have hanswers := answersOf_describe source pid history total process
      have hknown : (after source (history ++ [.describe total process])).known pid =
          if pid = process.pid then some ((after source history).described source process.pid)
          else (after source history).known pid := by
        rw [hafter]
        exact known_describe source total (after source history) process pid
      by_cases hpid : process.pid = pid
      · subst hpid
        rw [if_pos rfl, described] at hknown
        -- without a reading the record leads to a question, with one it changes nothing
        cases hreading : ((after source history).opened source process.pid).reading with
        | none =>
            rw [if_pos ⟨rfl, hreading⟩] at hanswers
            exact h.asked hreading hanswers hknown
        | some reading =>
            have hsame : (after source history).known process.pid =
                some ((after source history).opened source process.pid) := by
              rw [reading_opened] at hreading
              obtain ⟨entry, hentry, -⟩ := Option.bind_eq_some_iff.mp hreading
              rw [opened, hentry, Option.getD_some]
            rw [if_neg (by simp [hreading])] at hanswers
            rw [CachedProcess.answered_of_reading hreading, ← hsame] at hknown
            exact h.idle rfl hanswers hknown
      · rw [if_neg fun hboth => hpid hboth.1] at hanswers
        rw [if_neg (Ne.symm hpid)] at hknown
        exact h.idle rfl hanswers hknown
  | endCycle =>
      refine h.ended rfl ?_
      intro entry hentry
      rw [hafter] at hentry
      exact known_of_known_endCycle hentry
  | clear =>
      refine h.ended rfl ?_
      intro entry hentry
      rw [hafter] at hentry
      cases hentry

theorem reflects_history (source : ProcessSource) (pid : UInt32) (history : List CacheStep) :
    Reflects source pid history := by
  induction history using List.reverseRecOn with
  | nil => exact reflects_nil source pid
  | append_singleton history step ih => exact ih.step step

/-- The source is asked for a sample of a process with each record of it, until a question succeeds
in the running cycle. -/
theorem reading_opened_eq_none_iff (source : ProcessSource) (pid : UInt32)
    (history : List CacheStep) :
    ((after source history).opened source pid).reading = none ↔
      ∀ before sample, ¬Sampled source pid history before sample := by
  have h := reflects_history source pid history
  rw [reading_opened]
  constructor
  · exact h.unread
  · intro hnone
    cases hread : ((after source history).known pid).bind CachedProcess.reading with
    | none => rfl
    | some reading =>
        obtain ⟨before, sample, hsampled⟩ := (h.read reading hread).1
        exact (hnone before sample hsampled).elim

theorem exists_answersOf_eq {history : List CacheStep} {step : CacheStep} {process : GpuProcess}
    (hprocess : step.process? = some process)
    (hnone : ∀ before sample, ¬Sampled source process.pid history before sample) :
    ∃ answer, answersOf source process.pid history step = [answer] := by
  cases step with
  | endCycle => cases hprocess
  | clear => cases hprocess
  | describe total described =>
      cases hprocess
      rw [answersOf_describe, if_pos ⟨rfl, (reading_opened_eq_none_iff ..).mpr hnone⟩]
      exact ⟨_, rfl⟩

theorem answersOf_eq_nil {history : List CacheStep} {step : CacheStep}
    (hquiet : (∀ process, step.process? = some process → process.pid ≠ pid) ∨
      ∃ before sample, Sampled source pid history before sample) :
    answersOf source pid history step = [] := by
  cases step with
  | endCycle => exact answersOf_of_endsCycle source pid history rfl
  | clear => exact answersOf_of_endsCycle source pid history rfl
  | describe total process =>
      rw [answersOf_describe, if_neg]
      rintro ⟨hpid, hreading⟩
      rcases hquiet with hother | ⟨before, sample, hsampled⟩
      · exact hother process rfl hpid
      · exact (reading_opened_eq_none_iff ..).mp hreading before sample hsampled

theorem reading_described (source : ProcessSource) (history : List CacheStep)
    (total : Option UInt64) (process : GpuProcess) :
    ((after source (history ++ [.describe total process])).known process.pid).bind
        CachedProcess.reading =
      ((after source history).described source process.pid).reading := by
  rw [after_append_singleton]
  change ((describe source total _ process).2.known _).bind _ = _
  rw [known_describe, if_pos rfl, Option.bind_some]

theorem figures_of_describe (source : ProcessSource) (history : List CacheStep)
    (total : Option UInt64) (process : GpuProcess) {record : GpuProcess}
    (hrecord : record =
      (process.describe ((after source history).described source process.pid)).withMemoryShare
        total) :
    ((∀ before sample,
        ¬Sampled source process.pid (history ++ [.describe total process]) before sample) →
      record.cpuUsage = process.cpuUsage ∧ record.residentMemory = process.residentMemory ∧
        record.virtualMemory = process.virtualMemory) ∧
      ∀ before sample,
        Sampled source process.pid (history ++ [.describe total process]) before sample →
          record.residentMemory = some sample.residentMemory ∧
            record.virtualMemory = some sample.virtualMemory ∧
            ∃ usage, record.cpuUsage = Option.or usage process.cpuUsage ∧
              ∀ percent, usage = some percent ↔
                ∃ last, LastAnswered source process.pid before (some last) ∧
                  last.time < sample.time ∧
                  percent = cpuPercent (sample.cpuTime - last.cpuTime)
                    (sample.time - last.time) := by
  have hknown := reading_described source history total process
  have hreflects := reflects_history source process.pid (history ++ [.describe total process])
  obtain ⟨share, hshare⟩ := exists_withMemoryShare_eq
    (process.describe ((after source history).described source process.pid)) total
  rw [hrecord, hshare]
  cases hreading : ((after source history).described source process.pid).reading with
  | none =>
      have hnone := hreflects.unread (hknown.trans hreading)
      refine ⟨fun _ => ?_, fun before sample hsampled => (hnone before sample hsampled).elim⟩
      simp [GpuProcess.describe, hreading]
  | some reading =>
      obtain ⟨⟨before, sample, hsampled⟩, hreports⟩ :=
        hreflects.read reading (hknown.trans hreading)
      refine ⟨fun hnone => (hnone before sample hsampled).elim, ?_⟩
      intro before sample hsampled
      have hreport := hreports before sample hsampled
      simp only [GpuProcess.describe, hreading, Option.map_some, Option.some_or,
        Option.bind_some, hreport.residentMemory, hreport.virtualMemory, true_and]
      exact ⟨reading.usage, rfl, hreport.usage⟩

/-- The samples of any run of calls. The question for a sample of a process is put with each record
of it up to the first success in a cycle, and not again in that cycle. Until then the cache fills
none of the figures in the records; from then on it fills all of them from that sample. -/
theorem cpuFigures_of_calls (source : ProcessSource) {calls : List CacheCall}
    {history later : List CacheStep} {step : CacheStep}
    (h : calls.flatMap CacheCall.steps = history ++ step :: later) (pid : UInt32) :
    (callAll source {} calls).2 = after source (history ++ step :: later) ∧
      ((∃ process, step.process? = some process ∧ process.pid = pid) →
        (∀ before sample, ¬Sampled source pid history before sample) →
          ∃ answer, answersOf source pid history step = [answer]) ∧
      ((∀ process, step.process? = some process → process.pid ≠ pid) ∨
        (∃ before sample, Sampled source pid history before sample) →
          answersOf source pid history step = []) ∧
      ∀ process, step.process? = some process → process.pid = pid →
        ∃ record, (callAll source {} calls).1[(history.filterMap CacheStep.process?).length]? =
            some record ∧
          ((∀ before sample, ¬Sampled source pid (history ++ [step]) before sample) →
            record.cpuUsage = process.cpuUsage ∧
              record.residentMemory = process.residentMemory ∧
              record.virtualMemory = process.virtualMemory) ∧
          ∀ before sample, Sampled source pid (history ++ [step]) before sample →
            record.residentMemory = some sample.residentMemory ∧
              record.virtualMemory = some sample.virtualMemory ∧
              ∃ usage, record.cpuUsage = Option.or usage process.cpuUsage ∧
                ∀ percent, usage = some percent ↔
                  ∃ last, LastAnswered source pid before (some last) ∧ last.time < sample.time ∧
                    percent = cpuPercent (sample.cpuTime - last.cpuTime)
                      (sample.time - last.time) := by
  refine ⟨?_, ?_, answersOf_eq_nil, ?_⟩
  · rw [callAll_eq_stepAll, h]
    rfl
  · rintro ⟨process, hprocess, rfl⟩ hnone
    exact exists_answersOf_eq hprocess hnone
  · rintro process hprocess rfl
    cases step with
    | endCycle => cases hprocess
    | clear => cases hprocess
    | describe total described =>
        cases hprocess
        exact ⟨_, record_of_callAll source h, figures_of_describe source history total process rfl⟩

/-- A process on two devices in its second cycle, in which it used half of the time. -/
theorem cpuFigures_of_shared_process :
    let source : ProcessSource :=
      { ProcessSource.empty with
        cpuSample := fun number _ =>
          some { cpuTime := 10 * number, residentMemory := 5, virtualMemory := 9, time := 20 * number } }
    let process : GpuProcess := { pid := 7 }
    let calls : List CacheCall :=
      [.populate none [process], .endCycle, .populate none [process], .populate none [process]]
    let history : List CacheStep := [.describe none process, .endCycle, .describe none process]
    answersOf source 7 history (.describe none process) = [] ∧
      ∃ record, (callAll source {} calls).1[2]? = some record ∧
        record.residentMemory = some 5 ∧ record.cpuUsage = some 50 := by
  intro source process calls history
  let first : CpuSample := { cpuTime := 20, residentMemory := 5, virtualMemory := 9, time := 40 }
  let second : CpuSample := { cpuTime := 30, residentMemory := 5, virtualMemory := 9, time := 60 }
  have hlast : LastAnswered source 7 [.describe none process, .endCycle] (some first) := by
    refine ⟨[], .describe none process, [.endCycle], rfl, rfl, rfl, ?_⟩
    intro part hpart
    rcases List.prefix_cons_iff.mp hpart with rfl | ⟨rest, rfl, hrest⟩
    · rfl
    · rw [List.prefix_nil.mp hrest]
      rfl
  have hanswers : answersOf source 7 [.describe none process, .endCycle] (.describe none process) =
      [some second] := rfl
  have hsampled : Sampled source 7 history [.describe none process, .endCycle] second :=
    ⟨.describe none process, [], rfl, hanswers, by simp⟩
  have hsplit : calls.flatMap CacheCall.steps = history ++ .describe none process :: [] := rfl
  obtain ⟨-, -, hquiet, hrecords⟩ := cpuFigures_of_calls source hsplit 7
  obtain ⟨record, hrecord, -, hfigures⟩ := hrecords process rfl rfl
  obtain ⟨hresident, -, usage, husage, hpercent⟩ := hfigures _ second
    ⟨.describe none process, [.describe none process], rfl, hanswers, by simp [CacheStep.endsCycle]⟩
  refine ⟨hquiet (.inr ⟨_, second, hsampled⟩), record, hrecord, hresident, ?_⟩
  rw [husage, (hpercent 50).mpr ⟨first, hlast, by decide, by decide +kernel⟩]
  rfl

/-- A sample is not the only one up to the next `endCycle`: `clear` forgets it as well. -/
theorem sampled_again_after_clear :
    ¬∀ (source : ProcessSource) (pid : UInt32) (before later : List CacheStep)
        (taken step : CacheStep) (sample : CpuSample),
        answersOf source pid before taken = [some sample] →
        (∀ other ∈ later, other ≠ .endCycle) →
        answersOf source pid (before ++ taken :: later) step = [] := by
  intro honce
  let sample : CpuSample := { cpuTime := 0, residentMemory := 5, virtualMemory := 9, time := 0 }
  let source : ProcessSource := { ProcessSource.empty with cpuSample := fun _ _ => some sample }
  let step : CacheStep := .describe none { pid := 7 }
  have hanswers : answersOf source 7 [step, .clear] step = [some sample] := rfl
  have hnone := honce source 7 [] [.clear] step step sample rfl (by simp)
  cases hanswers.symm.trans hnone

end ProcessCache

end GpuTelemetry
