import GpuTelemetry.Proofs.Generations
import GpuTelemetry.Proofs.Process.Presence

/-!
# Which processes a cache holds

The processes in a cache after any run of calls, told by the lists that were
populated. A process is held if it was in a list of the running cycle or of the
one before, counting from the last clearing. One that was in no list for a whole
cycle is treated as if it had never been seen.
-/

namespace GpuTelemetry

namespace CacheCall

/-- The call populates a list with a record of the process. -/
def Mentions (pid : UInt32) : CacheCall → Prop
  | populate _ processes => pid ∈ processes.map GpuProcess.pid
  | endCycle => False
  | clear => False

def isEndCycle : CacheCall → Bool
  | populate _ _ => false
  | endCycle => true
  | clear => false

end CacheCall

/-- One of the calls mentioned the process, so many cycles have ended since, and nothing was cleared
since. -/
def Populated (pid : UInt32) (calls : List CacheCall) (ends : Nat) : Prop :=
  ∃ before call later, calls = before ++ call :: later ∧
    call.Mentions pid ∧ .clear ∉ later ∧ later.countP CacheCall.isEndCycle = ends

section

variable {pid : UInt32} {calls : List CacheCall} {ends : Nat}

theorem not_populated_nil : ¬Populated pid [] ends := by
  rintro ⟨before, call, later, hsplit, -⟩
  simp at hsplit

theorem populated_append_singleton {call : CacheCall} :
    Populated pid (calls ++ [call]) ends ↔
      (call.Mentions pid ∧ ends = 0) ∨
        (call ≠ .clear ∧ ∃ earlier, Populated pid calls earlier ∧
          ends = earlier + if call.isEndCycle then 1 else 0) :=
  exists_found_append_singleton_iff

theorem occurred_append_describes {history : List CacheStep} {total : Option UInt64}
    {processes : List GpuProcess} :
    Occurred pid (history ++ processes.map (.describe total)) ends ↔
      (pid ∈ processes.map GpuProcess.pid ∧ ends = 0) ∨ Occurred pid history ends := by
  induction processes using List.reverseRecOn with
  | nil => simp
  | append_singleton processes process ih =>
      rw [List.map_append, List.map_singleton, ← List.append_assoc, occurred_append_describe, ih,
        List.map_append, List.mem_append, List.map_singleton, List.mem_singleton, ← or_assoc,
        ← or_and_right, or_comm (a := process.pid = pid), eq_comm (a := process.pid)]

/-- A record was described just when its list was populated. -/
theorem occurred_steps_iff :
    Occurred pid (calls.flatMap CacheCall.steps) ends ↔ Populated pid calls ends := by
  induction calls using List.reverseRecOn generalizing ends with
  | nil => exact iff_of_false not_occurred_nil not_populated_nil
  | append_singleton calls call ih =>
      rw [List.flatMap_append, List.flatMap_singleton, populated_append_singleton]
      cases call with
      | populate total processes =>
          rw [CacheCall.steps, occurred_append_describes, ih]
          simp [CacheCall.Mentions, CacheCall.isEndCycle]
      | endCycle =>
          rw [CacheCall.steps, occurred_append_endCycle]
          simp [ih, CacheCall.Mentions, CacheCall.isEndCycle]
      | clear =>
          rw [CacheCall.steps]
          simp [not_occurred_append_clear, CacheCall.Mentions]

/-- Calls that do not mention a process leave it as it was, but for the cycles that they end. -/
theorem exists_populated_of_append {absent : List CacheCall}
    (habsent : ∀ call ∈ absent, ¬call.Mentions pid) (h : Populated pid (calls ++ absent) ends) :
    ∃ earlier, Populated pid calls earlier ∧
      ends = earlier + absent.countP CacheCall.isEndCycle := by
  induction absent using List.reverseRecOn generalizing ends with
  | nil => exact ⟨ends, by simpa using h, rfl⟩
  | append_singleton absent call ih =>
      rw [← List.append_assoc, populated_append_singleton] at h
      rcases h with ⟨hmentions, -⟩ | ⟨-, middle, hmiddle, rfl⟩
      · exact (habsent call (by simp) hmentions).elim
      · have hfront : ∀ other ∈ absent, ¬other.Mentions pid := by
          intro other hother
          exact habsent other (by simp [hother])
        obtain ⟨earlier, hearlier, rfl⟩ := ih hfront hmiddle
        refine ⟨earlier, hearlier, ?_⟩
        rw [List.countP_append, List.countP_singleton, Nat.add_assoc]

theorem not_populated_of_absent {absent : List CacheCall}
    (habsent : ∀ call ∈ absent, ¬call.Mentions pid) (hcycle : .endCycle ∈ absent)
    (hends : ends ≤ 1) :
    ¬Populated pid (calls ++ .endCycle :: absent) ends := by
  intro h
  have hquiet : ∀ call ∈ CacheCall.endCycle :: absent, ¬call.Mentions pid := by
    intro call hcall
    rcases List.mem_cons.mp hcall with rfl | hcall
    · exact id
    · exact habsent call hcall
  obtain ⟨earlier, -, rfl⟩ := exists_populated_of_append hquiet h
  have hended : 0 < absent.countP CacheCall.isEndCycle := List.countP_pos_iff.mpr ⟨_, hcycle, rfl⟩
  rw [List.countP_cons_of_pos rfl] at hends
  omega

end

namespace ProcessCache

section

variable (source : ProcessSource) {cache : ProcessCache}

theorem distinct_resolve (h : cache.entries.Distinct) (pid : UInt32) :
    (cache.resolve source pid).2.entries.Distinct := by
  cases hcurrent : Generations.find? pid cache.entries.current with
  | some entry =>
      simp only [resolve, hcurrent, Generations.takePrevious_current]
      exact h.takePrevious pid
  | none =>
      cases hprevious : Generations.find? pid cache.entries.previous with
      | some entry =>
          simp only [resolve, hcurrent, hprevious, Generations.takePrevious_current,
            Generations.takePrevious_fst]
          exact h.replace pid entry
      | none =>
          simp only [resolve, hcurrent, hprevious, ask, Generations.takePrevious_current,
            Generations.takePrevious_fst]
          exact h.replace pid _

theorem distinct_describe (h : cache.entries.Distinct) (total : Option UInt64)
    (process : GpuProcess) : (cache.describe source total process).2.entries.Distinct := by
  have hresolved := distinct_resolve source h process.pid
  rw [describe_snd]
  cases hreading : (cache.opened source process.pid).reading with
  | some reading =>
      simp only [measure, hreading]
      exact hresolved
  | none =>
      simp only [measure, hreading, ask]
      apply hresolved.insert
      rw [find?_resolve_previous, if_pos rfl]

theorem distinct_endCycle (h : cache.entries.Distinct) : cache.endCycle.entries.Distinct := by
  have hrotated := h.rotate
  rw [Generations.Distinct, Generations.keys, Generations.rotate_previous,
    Generations.rotate_current, List.append_nil] at hrotated
  rw [Generations.Distinct, Generations.keys, endCycle, Generations.rotate_previous,
    Generations.rotate_current, List.append_nil, List.map_map]
  exact hrotated

theorem distinct_after (history : List CacheStep) : (after source history).entries.Distinct := by
  induction history using List.reverseRecOn with
  | nil => exact Generations.distinct_empty
  | append_singleton history step ih =>
      rw [after_append_singleton]
      cases step with
      | describe total process => exact distinct_describe source ih total process
      | endCycle => exact distinct_endCycle ih
      | clear => exact Generations.distinct_empty

theorem callAll_snd (calls : List CacheCall) :
    (callAll source {} calls).2 = after source (calls.flatMap CacheCall.steps) := by
  rw [callAll_eq_stepAll]
  rfl

theorem contains_callAll (calls : List CacheCall) (pid : UInt32) :
    (callAll source {} calls).2.contains pid = true ↔
      Populated pid calls 0 ∨ Populated pid calls 1 := by
  rw [callAll_snd, contains_eq_isSome_known, isSome_known_after, Recent, occurred_steps_iff,
    occurred_steps_iff]

theorem contains_endCycle_callAll (calls : List CacheCall) (pid : UInt32) :
    (callAll source {} calls).2.endCycle.contains pid = true ↔ Populated pid calls 0 := by
  -- the end of a cycle is one more call
  have hnext : (callAll source {} calls).2.endCycle =
      (callAll source {} (calls ++ [.endCycle])).2 := by
    rw [callAll_snd, callAll_snd, List.flatMap_append, List.flatMap_singleton, CacheCall.steps,
      after_append_singleton]
    rfl
  rw [hnext, contains_callAll, populated_append_singleton, populated_append_singleton]
  simp [CacheCall.Mentions, CacheCall.isEndCycle]

/-- What becomes of a record depends on what is known of its process, and on nothing else in a
cache. -/
theorem describe_eq_of_known {other : ProcessCache} {process : GpuProcess}
    (hasked : cache.asked = other.asked)
    (hknown : cache.known process.pid = other.known process.pid) (total : Option UInt64) :
    (cache.describe source total process).1 = (other.describe source total process).1 ∧
      (cache.describe source total process).2.asked =
        (other.describe source total process).2.asked ∧
      (cache.describe source total process).2.known process.pid =
        (other.describe source total process).2.known process.pid := by
  have hquestions : cache.nameQuestions process.pid = other.nameQuestions process.pid := by
    rw [nameQuestions, nameQuestions, hknown]
  have hopened : cache.opened source process.pid = other.opened source process.pid := by
    rw [opened, opened, hknown, hasked]
  have hdescribed : cache.described source process.pid = other.described source process.pid := by
    rw [described, described, answer, answer, hopened, hquestions, hasked]
  refine ⟨?_, ?_, ?_⟩
  · rw [describe_fst, describe_fst, hdescribed]
  · rw [asked_describe, asked_describe, hasked, hquestions, sampleQuestions, sampleQuestions,
      hopened]
  · rw [known_describe, known_describe, if_pos rfl, if_pos rfl, hdescribed]

end

/-- The processes in a cache after any run of calls. None is in both generations, those that are
there are the ones populated in the running cycle and the one before, and the end of a cycle drops
those of the cycle before that were not populated again. A process that is left out for a whole
cycle is gone, and its next record is described as by a new cache. -/
theorem members_of_calls (source : ProcessSource) (calls : List CacheCall) :
    let cache := (callAll source {} calls).2
    (∀ pid, ¬(pid ∈ cache.entries.previous.map Prod.fst ∧
      pid ∈ cache.entries.current.map Prod.fst)) ∧
    (∀ pid, cache.contains pid = true ↔ Populated pid calls 0 ∨ Populated pid calls 1) ∧
    cache.size = {pid | Populated pid calls 0 ∨ Populated pid calls 1}.ncard ∧
    (∀ pid, cache.contains pid = true ∧ cache.endCycle.contains pid = false ↔
      Populated pid calls 1 ∧ ¬Populated pid calls 0) ∧
    (∀ pid, cache.endCycle.contains pid = true → cache.contains pid = true) ∧
    ∀ pid before absent, calls = before ++ .endCycle :: absent →
      (∀ call ∈ absent, ¬call.Mentions pid) → .endCycle ∈ absent →
      cache.contains pid = false ∧ ∀ total process, process.pid = pid →
        let new : ProcessCache := { asked := cache.asked }
        (cache.describe source total process).1 = (new.describe source total process).1 ∧
        (cache.describe source total process).2.asked =
          (new.describe source total process).2.asked ∧
        (cache.describe source total process).2.known pid =
          (new.describe source total process).2.known pid := by
  have hdistinct : (callAll source {} calls).2.entries.Distinct := by
    rw [callAll_snd]
    exact distinct_after source _
  intro cache
  refine ⟨hdistinct.not_mem_both, contains_callAll source calls, ?_, ?_, ?_, ?_⟩
  · rw [size, hdistinct.size_eq_ncard]
    exact congrArg Set.ncard (Set.ext fun pid => contains_callAll source calls pid)
  · intro pid
    rw [← Bool.not_eq_true, contains_endCycle_callAll, contains_callAll]
    tauto
  · intro pid hpid
    have hcurrent : Populated pid calls 0 := (contains_endCycle_callAll source calls pid).mp hpid
    exact (contains_callAll source calls pid).mpr (.inl hcurrent)
  · rintro pid before absent hcalls habsent hcycle
    have hgone : cache.contains pid = false := by
      rw [← Bool.not_eq_true, contains_callAll, hcalls, not_or]
      exact ⟨not_populated_of_absent habsent hcycle (by decide),
        not_populated_of_absent habsent hcycle (by decide)⟩
    refine ⟨hgone, ?_⟩
    rintro total process rfl new
    rw [contains_eq_isSome_known, Option.isSome_eq_false_iff, Option.isNone_iff_eq_none] at hgone
    have hasked : cache.asked = new.asked := rfl
    have hknown : cache.known process.pid = new.known process.pid := hgone
    exact describe_eq_of_known source hasked hknown total

/-- Process 7 is left out of the second cycle, in which process 8 is on two devices. When it comes
back, its names are asked for again. -/
theorem members_of_returning_process :
    let record (pid : UInt32) : GpuProcess := { pid }
    let absent : List CacheCall :=
      [.populate none [record 8], .populate (some 1) [record 8], .endCycle]
    let cache :=
      (callAll ProcessSource.empty {}
        ([.populate none [record 7, record 8]] ++ .endCycle :: absent)).2
    (∀ call ∈ absent, ¬call.Mentions 7) ∧ .endCycle ∈ absent ∧
      cache.contains 7 = false ∧ cache.contains 8 = true ∧
      (cache.describe ProcessSource.empty none (record 7)).2.asked =
        cache.asked ++ [.commandLine 7, .userName 7, .cpuSample 7] := by
  intro record absent cache
  have hquiet : ∀ call ∈ absent, ¬call.Mentions 7 := by
    simp [absent, CacheCall.Mentions, record]
  have hcycle : .endCycle ∈ absent := by simp [absent]
  obtain ⟨-, hcontains, -, -, -, hgone⟩ := members_of_calls ProcessSource.empty
    ([.populate none [record 7, record 8]] ++ .endCycle :: absent)
  obtain ⟨habsent, hfirst⟩ := hgone 7 _ absent rfl hquiet hcycle
  obtain ⟨-, hasked, -⟩ := hfirst none (record 7) rfl
  have hheld : Populated 8 ([.populate none [record 7, record 8]] ++ .endCycle :: absent) 1 :=
    ⟨[.populate none [record 7, record 8], .endCycle, .populate none [record 8]],
      .populate (some 1) [record 8], [.endCycle], rfl, by simp [CacheCall.Mentions, record],
      by simp, rfl⟩
  exact ⟨hquiet, hcycle, habsent, (hcontains 8).mpr (.inr hheld), hasked.trans (by decide +kernel)⟩

end ProcessCache

end GpuTelemetry
