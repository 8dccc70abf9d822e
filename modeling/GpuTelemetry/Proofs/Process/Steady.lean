import GpuTelemetry.Proofs.Process.CacheSteps

/-!
# Answers that stay the same

A source is steady if its answers do not depend on when they are asked for. What
the cache tells of a process in a cycle is then settled before the cycle begins,
however many devices the process is on. One cycle later the last samples are
those of the source, and from then on a process that stays is described in the
same way in every cycle.
-/

namespace GpuTelemetry

/-- Whether the answers do not depend on how many questions were put before. -/
structure ProcessSource.Steady (source : ProcessSource) : Prop where
  commandLine : ∀ count pid, source.commandLine count pid = source.commandLine 0 pid
  userName : ∀ count pid, source.userName count pid = source.userName 0 pid
  cpuSample : ∀ count pid, source.cpuSample count pid = source.cpuSample 0 pid

/-- Processor time and time of a sample. -/
def CpuSample.stamp (sample : CpuSample) : Nat × Nat :=
  (sample.cpuTime, sample.time)

theorem CachedProcess.answered_answered (entry : CachedProcess) (answer : Option CpuSample) :
    (entry.answered answer).answered answer = entry.answered answer := by
  cases hreading : entry.reading with
  | some reading =>
      rw [answered_of_reading hreading, answered_of_reading hreading]
  | none =>
      cases answer with
      | some sample =>
          rw [answered_some hreading]
          exact answered_of_reading rfl _
      | none =>
          rw [answered_none hreading]
          exact answered_none hreading

theorem CachedProcess.lastSample_answered {entry : CachedProcess} (h : entry.reading = none)
    (answer : Option CpuSample) : (entry.answered answer).lastSample = answer.map CpuSample.stamp := by
  cases answer with
  | some sample =>
      rw [answered_some h]
      rfl
  | none =>
      rw [answered_none h]
      rfl

namespace ProcessCache

/-- The entry of a process at the start of a cycle, with the names that a steady source gives if
there is none. -/
def base (source : ProcessSource) (cache : ProcessCache) (pid : UInt32) : CachedProcess :=
  (cache.known pid).getD
    { commandLine := source.commandLine 0 pid, userName := source.userName 0 pid }

/-- The entry by which a process is described in a cycle that starts with this cache. -/
def filled (source : ProcessSource) (cache : ProcessCache) (pid : UInt32) : CachedProcess :=
  (cache.base source pid).answered (source.cpuSample 0 pid)

variable {source : ProcessSource} {start cache : ProcessCache} {pids : List UInt32}

/-- A cache in the middle of a cycle that has described some processes. -/
structure Covers (source : ProcessSource) (start : ProcessCache) (pids : List UInt32)
    (cache : ProcessCache) : Prop where
  known : ∀ pid, cache.known pid =
    if pid ∈ pids then some (start.filled source pid) else start.known pid
  current : ∀ pid, Generations.find? pid cache.entries.current =
    if pid ∈ pids then some (start.filled source pid)
    else Generations.find? pid start.entries.current

theorem covers_nil (source : ProcessSource) (start : ProcessCache) : start.Covers source [] start :=
  ⟨fun _ => rfl, fun _ => rfl⟩

/-- Whether a process has been described before in the cycle makes no difference. -/
theorem Covers.described_eq (h : Covers source start pids cache) (hsteady : source.Steady)
    (pid : UInt32) : cache.described source pid = start.filled source pid := by
  have hopened : cache.opened source pid =
      if pid ∈ pids then start.filled source pid else start.base source pid := by
    rw [opened, hsteady.commandLine, hsteady.userName, h.known]
    split <;> rfl
  rw [described, answer, hsteady.cpuSample, hopened]
  split
  next => exact CachedProcess.answered_answered _ _
  next => rfl

theorem Covers.describe (h : Covers source start pids cache) (hsteady : source.Steady)
    (total : Option UInt64) (process : GpuProcess) :
    Covers source start (process.pid :: pids) (cache.describe source total process).2 := by
  constructor
  · intro pid
    rw [known_describe, h.described_eq hsteady, h.known]
    by_cases hpid : pid = process.pid <;> simp [hpid]
  · intro pid
    rw [find?_describe_current, h.described_eq hsteady, h.current]
    by_cases hpid : pid = process.pid <;> simp [hpid]

/-- The processes of a device are described by the entries that were settled before the cycle. -/
theorem Covers.populate (h : Covers source start pids cache) (hsteady : source.Steady)
    (total : Option UInt64) (processes : List GpuProcess) :
    (cache.populate source total processes).1 =
      processes.map (fun process =>
        (process.describe (start.filled source process.pid)).withMemoryShare total) ∧
    Covers source start ((processes.map GpuProcess.pid).reverse ++ pids)
      (cache.populate source total processes).2 := by
  induction processes generalizing cache pids with
  | nil => exact ⟨rfl, h⟩
  | cons process processes ih =>
      obtain ⟨hrecords, hcovers⟩ := ih (h.describe hsteady total process)
      constructor
      · rw [populate, List.map_cons, ← hrecords, ← h.described_eq hsteady, ← describe_fst]
      · rw [List.map_cons, List.reverse_cons, List.append_assoc]
        exact hcovers

/-! ## From one cycle to the next -/

/-- A cache between two cycles. -/
structure Rests (cache : ProcessCache) : Prop where
  current : cache.entries.current = []
  reading : ∀ pid entry, Generations.find? pid cache.entries.previous = some entry →
    entry.reading = none

/-- A cache whose last samples are those of the source. -/
structure Tuned (source : ProcessSource) (cache : ProcessCache) : Prop extends cache.Rests where
  lastSample : ∀ pid entry, Generations.find? pid cache.entries.previous = some entry →
    entry.lastSample = (source.cpuSample 0 pid).map CpuSample.stamp

theorem rests_endCycle (cache : ProcessCache) : cache.endCycle.Rests := by
  refine ⟨rfl, ?_⟩
  intro pid entry hentry
  rw [find?_endCycle_previous] at hentry
  obtain ⟨last, -, rfl⟩ := Option.map_eq_some_iff.mp hentry
  rfl

theorem Rests.known_eq (h : cache.Rests) (pid : UInt32) :
    cache.known pid = Generations.find? pid cache.entries.previous := by
  rw [known, h.current]
  exact Option.none_or

theorem Rests.reading_base (h : cache.Rests) (pid : UInt32) :
    (cache.base source pid).reading = none := by
  rw [base, h.known_eq]
  cases hentry : Generations.find? pid cache.entries.previous with
  | none => rfl
  | some entry => exact h.reading pid entry hentry

theorem Covers.find?_endCycle (h : Covers source start pids cache) (hstart : start.Rests)
    (pid : UInt32) : Generations.find? pid cache.endCycle.entries.previous =
      if pid ∈ pids then some { start.filled source pid with reading := none } else none := by
  rw [find?_endCycle_previous, h.current, hstart.current]
  split <;> rfl

theorem Covers.tuned_endCycle (h : Covers source start pids cache) (hstart : start.Rests) :
    cache.endCycle.Tuned source := by
  refine ⟨rests_endCycle cache, ?_⟩
  intro pid entry hentry
  rw [h.find?_endCycle hstart] at hentry
  split at hentry
  · cases hentry
    exact CachedProcess.lastSample_answered (hstart.reading_base pid) _
  · cases hentry

/-- The reading of a process whose last sample was the same. -/
def CpuSample.steadyReading (sample : CpuSample) : CpuReading :=
  { usage := none, residentMemory := sample.residentMemory, virtualMemory := sample.virtualMemory }

theorem Tuned.filled_eq (h : cache.Tuned source) (pid : UInt32) :
    cache.filled source pid =
      { commandLine := (cache.base source pid).commandLine
        userName := (cache.base source pid).userName
        lastSample := (source.cpuSample 0 pid).map CpuSample.stamp
        reading := (source.cpuSample 0 pid).map CpuSample.steadyReading } := by
  have hreading : (cache.base source pid).reading = none := h.reading_base pid
  have hlast : (cache.base source pid).lastSample = none ∨
      (cache.base source pid).lastSample = (source.cpuSample 0 pid).map CpuSample.stamp := by
    rw [base, h.known_eq]
    cases hentry : Generations.find? pid cache.entries.previous with
    | none => exact .inl rfl
    | some entry => exact .inr (h.lastSample pid entry hentry)
  rw [filled]
  cases hsample : source.cpuSample 0 pid with
  | none =>
      rw [CachedProcess.answered_none hreading]
      simp [hreading]
  | some sample =>
      -- no time has passed between two equal samples, so there is no usage
      have husage : ((cache.base source pid).lastSample.bind fun last =>
          cpuUsage last sample.stamp) = none := by
        rcases hlast with hlast | hlast
        · rw [hlast]
          rfl
        · rw [hlast, hsample]
          simp [cpuUsage]
      rw [CachedProcess.answered_some hreading, CachedProcess.sampled]
      simp only [CpuSample.stamp] at husage
      simp [CpuSample.stamp, CpuSample.steadyReading, husage]

theorem Covers.filled_endCycle (h : Covers source start pids cache) (hstart : start.Tuned source)
    {pid : UInt32} (hpid : pid ∈ pids) :
    cache.endCycle.filled source pid = start.filled source pid := by
  have htuned := h.tuned_endCycle hstart.toRests
  have hbase : cache.endCycle.base source pid =
      { start.filled source pid with reading := none } := by
    rw [base, htuned.known_eq, h.find?_endCycle hstart.toRests, if_pos hpid]
    rfl
  rw [htuned.filled_eq, hbase, hstart.filled_eq]

end ProcessCache

end GpuTelemetry
