import GpuTelemetry.Process.Cache
import Mathlib.Data.List.Basic

/-!
# The steps of a process cache

A run of a process cache is a sequence of steps: each describes one record, ends
the cycle or forgets everything. What a step does to a process is told by the
entry that the cache knows of it and by the answers to the questions for a sample
that the step puts.
-/

namespace GpuTelemetry

namespace CachedProcess

/-- The entry after the question for a sample, which is put only without a reading. -/
def answered (entry : CachedProcess) (answer : Option CpuSample) : CachedProcess :=
  match entry.reading, answer with
  | some _, _ => entry
  | none, some sample => entry.sampled sample
  | none, none => { entry with lastSample := none }

theorem answered_of_reading {entry : CachedProcess} {reading : CpuReading}
    (h : entry.reading = some reading) (answer : Option CpuSample) :
    entry.answered answer = entry := by
  simp [answered, h]

theorem answered_none {entry : CachedProcess} (h : entry.reading = none) :
    entry.answered none = { entry with lastSample := none } := by
  simp [answered, h]

theorem answered_some {entry : CachedProcess} (h : entry.reading = none) (sample : CpuSample) :
    entry.answered (some sample) = entry.sampled sample := by
  simp [answered, h]

end CachedProcess

namespace ProcessCache

/-- The entry of a process, that of the running cycle first. -/
def known (cache : ProcessCache) (pid : UInt32) : Option CachedProcess :=
  (Generations.find? pid cache.entries.current).or (Generations.find? pid cache.entries.previous)

/-- The entry of a process, a new one if there is none. -/
def opened (source : ProcessSource) (cache : ProcessCache) (pid : UInt32) : CachedProcess :=
  (cache.known pid).getD
    { commandLine := source.commandLine cache.asked.length pid
      userName := source.userName (cache.asked.length + 1) pid }

def nameQuestions (cache : ProcessCache) (pid : UInt32) : List ProcessQuestion :=
  if (cache.known pid).isSome then [] else [.commandLine pid, .userName pid]

/-- What a source answers to the question for a sample, if that is put now. -/
def answer (source : ProcessSource) (cache : ProcessCache) (pid : UInt32) : Option CpuSample :=
  source.cpuSample (cache.asked ++ cache.nameQuestions pid).length pid

theorem contains_eq_isSome_known (cache : ProcessCache) (pid : UInt32) :
    cache.contains pid = (cache.known pid).isSome := by
  rw [contains, Generations.contains, known]
  cases Generations.find? pid cache.entries.current <;> simp

section

variable (source : ProcessSource) (cache : ProcessCache) (pid : UInt32)

theorem resolve_fst : (cache.resolve source pid).1 = cache.opened source pid := by
  simp only [resolve, opened, known, Generations.takePrevious_fst,
    Generations.takePrevious_current]
  cases Generations.find? pid cache.entries.current with
  | some entry => rfl
  | none =>
      cases Generations.find? pid cache.entries.previous with
      | some entry => rfl
      | none => simp [ask]

theorem asked_resolve :
    (cache.resolve source pid).2.asked = cache.asked ++ cache.nameQuestions pid := by
  cases hcurrent : Generations.find? pid cache.entries.current with
  | some entry => simp [resolve, nameQuestions, known, hcurrent]
  | none =>
      cases hprevious : Generations.find? pid cache.entries.previous with
      | some entry => simp [resolve, nameQuestions, known, hcurrent, hprevious]
      | none => simp [resolve, nameQuestions, known, hcurrent, hprevious, ask]

theorem find?_resolve_current (other : UInt32) :
    Generations.find? other (cache.resolve source pid).2.entries.current =
      if other = pid then some (cache.opened source pid)
      else Generations.find? other cache.entries.current := by
  cases hcurrent : Generations.find? pid cache.entries.current with
  | some entry =>
      simp only [resolve, opened, known, hcurrent, Generations.takePrevious_current]
      split
      next heq => rw [heq, hcurrent]; rfl
      next => rfl
  | none =>
      cases hprevious : Generations.find? pid cache.entries.previous with
      | some entry => simp [resolve, opened, known, hcurrent, hprevious]
      | none => simp [resolve, opened, known, hcurrent, hprevious, ask]

theorem find?_resolve_previous (other : UInt32) :
    Generations.find? other (cache.resolve source pid).2.entries.previous =
      if other = pid then none else Generations.find? other cache.entries.previous := by
  cases hcurrent : Generations.find? pid cache.entries.current with
  | some entry => simp [resolve, hcurrent]
  | none =>
      cases hprevious : Generations.find? pid cache.entries.previous with
      | some entry => simp [resolve, hcurrent, hprevious]
      | none => simp [resolve, hcurrent, hprevious, ask]

end

def described (source : ProcessSource) (cache : ProcessCache) (pid : UInt32) : CachedProcess :=
  (cache.opened source pid).answered (cache.answer source pid)

def sampleQuestions (source : ProcessSource) (cache : ProcessCache) (pid : UInt32) :
    List ProcessQuestion :=
  if (cache.opened source pid).reading.isSome then [] else [.cpuSample pid]

section

variable (source : ProcessSource) (total : Option UInt64) (cache : ProcessCache)
  (process : GpuProcess)

theorem measure_resolve_fst :
    ((cache.resolve source process.pid).2.measure source process.pid
      (cache.resolve source process.pid).1).1 = cache.described source process.pid := by
  rw [resolve_fst, described, answer, ← asked_resolve source]
  cases hreading : (cache.opened source process.pid).reading with
  | some reading => simp [measure, CachedProcess.answered, hreading]
  | none =>
      simp only [measure, CachedProcess.answered, hreading]
      cases source.cpuSample (cache.resolve source process.pid).2.asked.length process.pid <;> rfl

theorem describe_fst :
    (cache.describe source total process).1 =
      (process.describe (cache.described source process.pid)).withMemoryShare total := by
  rw [← measure_resolve_fst]
  rfl

theorem describe_snd :
    (cache.describe source total process).2 =
      ((cache.resolve source process.pid).2.measure source process.pid
        (cache.opened source process.pid)).2 := by
  rw [← resolve_fst]
  rfl

theorem asked_describe :
    (cache.describe source total process).2.asked =
      cache.asked ++ cache.nameQuestions process.pid ++ cache.sampleQuestions source process.pid := by
  rw [describe_snd, ← asked_resolve source, sampleQuestions]
  cases hreading : (cache.opened source process.pid).reading with
  | some reading => simp [measure, hreading]
  | none => simp [measure, hreading, ask]

theorem find?_describe_current (pid : UInt32) :
    Generations.find? pid (cache.describe source total process).2.entries.current =
      if pid = process.pid then some (cache.described source process.pid)
      else Generations.find? pid cache.entries.current := by
  have hdescribed := measure_resolve_fst source cache process
  rw [resolve_fst] at hdescribed
  rw [describe_snd, ← hdescribed]
  cases hreading : (cache.opened source process.pid).reading with
  | some reading =>
      simp only [measure, hreading]
      exact find?_resolve_current source cache process.pid pid
  | none =>
      simp only [measure, hreading, ask, Generations.find?_insert_current, find?_resolve_current]
      split <;> rfl

theorem find?_describe_previous (pid : UInt32) :
    Generations.find? pid (cache.describe source total process).2.entries.previous =
      if pid = process.pid then none else Generations.find? pid cache.entries.previous := by
  rw [describe_snd]
  cases hreading : (cache.opened source process.pid).reading with
  | some reading =>
      simp only [measure, hreading]
      exact find?_resolve_previous source cache process.pid pid
  | none =>
      simp only [measure, hreading, ask, Generations.insert_previous]
      exact find?_resolve_previous source cache process.pid pid

/-- Describing a record changes what is known of its process only. -/
theorem known_describe (pid : UInt32) :
    (cache.describe source total process).2.known pid =
      if pid = process.pid then some (cache.described source process.pid) else cache.known pid := by
  rw [known, find?_describe_current, find?_describe_previous, known]
  split <;> rfl

end

/-- The end of a cycle keeps the entries of the running cycle, without their readings. -/
theorem find?_endCycle_previous (cache : ProcessCache) (pid : UInt32) :
    Generations.find? pid cache.endCycle.entries.previous =
      (Generations.find? pid cache.entries.current).map fun entry =>
        { entry with reading := none } := by
  simp only [endCycle, Generations.rotate_previous]
  induction cache.entries.current with
  | nil => rfl
  | cons first entries ih =>
      rw [List.map_cons, Generations.find?_cons, Generations.find?_cons, ih]
      split <;> rfl

theorem known_endCycle (cache : ProcessCache) (pid : UInt32) :
    cache.endCycle.known pid =
      (Generations.find? pid cache.entries.current).map fun entry =>
        { entry with reading := none } := by
  rw [known, find?_endCycle_previous]
  exact Option.none_or

theorem known_of_known_endCycle {cache : ProcessCache} {pid : UInt32} {entry : CachedProcess}
    (h : cache.endCycle.known pid = some entry) :
    ∃ before, cache.known pid = some before ∧ entry = { before with reading := none } := by
  rw [known_endCycle, Option.map_eq_some_iff] at h
  obtain ⟨before, hbefore, rfl⟩ := h
  exact ⟨before, by rw [known, hbefore, Option.some_or], rfl⟩

end ProcessCache

/-! ## Runs -/

inductive CacheCall
  | populate (total : Option UInt64) (processes : List GpuProcess)
  | endCycle
  | clear

/-- What a process cache does at a time: a call for a device takes one step for each record. -/
inductive CacheStep
  | describe (total : Option UInt64) (process : GpuProcess)
  | endCycle
  | clear

def CacheCall.steps : CacheCall → List CacheStep
  | .populate total processes => processes.map (.describe total)
  | .endCycle => [.endCycle]
  | .clear => [.clear]

namespace CacheStep

def process? : CacheStep → Option GpuProcess
  | .describe _ process => some process
  | _ => none

/-- Whether a step forgets the readings of the running cycle. -/
def endsCycle : CacheStep → Bool
  | .describe _ _ => false
  | .endCycle => true
  | .clear => true

end CacheStep

namespace ProcessCache

def call (source : ProcessSource) (cache : ProcessCache) :
    CacheCall → List GpuProcess × ProcessCache
  | .populate total processes => cache.populate source total processes
  | .endCycle => ([], cache.endCycle)
  | .clear => ([], cache.clear)

/-- The records that calls fill, and the cache after them. -/
def callAll (source : ProcessSource) (cache : ProcessCache) :
    List CacheCall → List GpuProcess × ProcessCache
  | [] => ([], cache)
  | call :: calls =>
    let (records, cache) := cache.call source call
    let (later, cache) := cache.callAll source calls
    (records ++ later, cache)

/-- The record that a step fills, if it describes one, and the cache after it. -/
def step (source : ProcessSource) (cache : ProcessCache) : CacheStep → List GpuProcess × ProcessCache
  | .describe total process =>
    let (record, cache) := cache.describe source total process
    ([record], cache)
  | .endCycle => ([], cache.endCycle)
  | .clear => ([], cache.clear)

def stepAll (source : ProcessSource) (cache : ProcessCache) :
    List CacheStep → List GpuProcess × ProcessCache
  | [] => ([], cache)
  | step :: steps =>
    let (records, cache) := cache.step source step
    let (later, cache) := cache.stepAll source steps
    (records ++ later, cache)

theorem stepAll_append (source : ProcessSource) (cache : ProcessCache) (a b : List CacheStep) :
    cache.stepAll source (a ++ b) =
      ((cache.stepAll source a).1 ++ ((cache.stepAll source a).2.stepAll source b).1,
        ((cache.stepAll source a).2.stepAll source b).2) := by
  induction a generalizing cache with
  | nil => simp [stepAll]
  | cons step a ih => simp [stepAll, ih]

theorem populate_eq_stepAll (source : ProcessSource) (total : Option UInt64) (cache : ProcessCache)
    (processes : List GpuProcess) :
    cache.populate source total processes =
      cache.stepAll source (processes.map (.describe total)) := by
  induction processes generalizing cache with
  | nil => rfl
  | cons process processes ih => simp [populate, stepAll, step, ih]

theorem call_eq_stepAll (source : ProcessSource) (cache : ProcessCache) (call : CacheCall) :
    cache.call source call = cache.stepAll source call.steps := by
  cases call with
  | populate total processes => exact populate_eq_stepAll source total cache processes
  | endCycle => rfl
  | clear => rfl

theorem callAll_eq_stepAll (source : ProcessSource) (cache : ProcessCache)
    (calls : List CacheCall) :
    cache.callAll source calls = cache.stepAll source (calls.flatMap CacheCall.steps) := by
  induction calls generalizing cache with
  | nil => rfl
  | cons call calls ih =>
      rw [List.flatMap_cons, stepAll_append, ← call_eq_stepAll, ← ih]
      rfl

theorem length_stepAll (source : ProcessSource) (cache : ProcessCache) (steps : List CacheStep) :
    (cache.stepAll source steps).1.length = (steps.filterMap CacheStep.process?).length := by
  induction steps generalizing cache with
  | nil => rfl
  | cons step steps ih =>
      cases step <;>
        simp [stepAll, ProcessCache.step, CacheStep.process?, List.filterMap_cons, ih]

theorem exists_withMemoryShare_eq (process : GpuProcess) (total : Option UInt64) :
    ∃ share, process.withMemoryShare total = { process with memoryShare := share } := by
  unfold GpuProcess.withMemoryShare
  split
  next =>
    split
    next => exact ⟨process.memoryShare, rfl⟩
    next => exact ⟨_, rfl⟩
  next => exact ⟨process.memoryShare, rfl⟩

/-- The cache after some steps. -/
def after (source : ProcessSource) (history : List CacheStep) : ProcessCache :=
  (ProcessCache.stepAll source {} history).2

section

variable (source : ProcessSource)

theorem asked_prefix_stepAll (cache : ProcessCache) (steps : List CacheStep) :
    cache.asked <+: (cache.stepAll source steps).2.asked := by
  induction steps generalizing cache with
  | nil => exact List.prefix_rfl
  | cons step steps ih =>
      refine List.IsPrefix.trans ?_ (ih (cache.step source step).2)
      cases step with
      | describe total process =>
          change cache.asked <+: (cache.describe source total process).2.asked
          rw [asked_describe, List.append_assoc]
          exact List.prefix_append _ _
      | endCycle => exact List.prefix_rfl
      | clear => exact List.prefix_rfl

theorem after_append (a b : List CacheStep) :
    after source (a ++ b) = ((after source a).stepAll source b).2 := by
  rw [after, stepAll_append]
  rfl

theorem after_append_singleton (history : List CacheStep) (step : CacheStep) :
    after source (history ++ [step]) = ((after source history).step source step).2 := by
  rw [after_append]
  rfl

theorem record_of_callAll {calls : List CacheCall}
    {history later : List CacheStep} {total : Option UInt64} {process : GpuProcess}
    (h : calls.flatMap CacheCall.steps = history ++ .describe total process :: later) :
    (callAll source {} calls).1[(history.filterMap CacheStep.process?).length]? =
      some ((process.describe ((after source history).described source process.pid)).withMemoryShare
        total) := by
  rw [callAll_eq_stepAll, h, stepAll_append, ← length_stepAll source {} history,
    List.getElem?_append_right (Nat.le_refl _), Nat.sub_self]
  simp only [stepAll, ProcessCache.step, describe_fst]
  rfl

end

end ProcessCache

end GpuTelemetry
