import GpuTelemetry.Command.Monitor
import GpuTelemetry.Proofs.Collector.Output
import GpuTelemetry.Proofs.Collector.Recurrence

/-!
# The polling loop

The loop looks at the stop flag before every cycle, and while it waits for the
next one. As long as the flag stays up once it is up, a cycle is run if no look up
to its own has found the flag up and there are snapshots left to print. So the
course of the loop does not depend on the waits, and one relation tells it cycle
by cycle, up to the cycle in which something goes wrong, if there is one.
-/

namespace GpuTelemetry.Command

namespace Surroundings

variable (around : Surroundings)

/-- Once a look has found the flag up, all later ones do. -/
def StaysUp : Prop :=
  ∀ look later, look ≤ later → around.isUp look = true → around.isUp later = true

/-- How many looks come before the one before a cycle, as long as the flag is down. -/
def looksBefore : Nat → Nat
  | 0 => 0
  | cycle + 1 => looksBefore cycle + 1 + (around.naps cycle + 1)

/-- A cycle that the loop comes to, where it runs at most `limit` cycles: no look up to the one
before the cycle finds the flag up, and there is a snapshot left to print. -/
structure Due (options : Options) (limit cycle : Nat) : Prop where
  within : cycle < limit
  wanted : options.count = 0 ∨ cycle < options.count
  down : ∀ look ≤ around.looksBefore cycle, around.isUp look = false

/-- What is printed after a cycle. -/
def line (options : Options) (cycle : Nat) (collector : Collector) : Event :=
  .printed ((collector.snapshot (around.timestamp cycle)).render options.pretty)

variable {around}

/-! ## Looks -/

/-- A wait that does not find the flag up looks once for each nap and once at the end. -/
theorem wait_spec (hstays : around.StaysUp) (naps looks : Nat) :
    around.wait naps looks ≤ looks + (naps + 1) ∧
      (around.isUp (around.wait naps looks) = false →
        around.wait naps looks = looks + (naps + 1)) := by
  induction naps generalizing looks with
  | zero => exact ⟨le_rfl, fun _ => rfl⟩
  | succ naps ih =>
      rw [wait]
      split
      next hup =>
        refine ⟨by omega, fun hdown => ?_⟩
        rw [hstays looks (looks + 1) (Nat.le_succ looks) hup] at hdown
        cases hdown
      next =>
        obtain ⟨hle, heq⟩ := ih (looks + 1)
        exact ⟨by omega, fun hdown => by rw [heq hdown]; omega⟩

/-- How many looks were made when the loop comes to a cycle: those that there are as long as the
flag is down, or fewer if it is up. -/
structure Looked (around : Surroundings) (cycle looks : Nat) : Prop where
  le : looks ≤ around.looksBefore cycle
  eq : around.isUp looks = false → looks = around.looksBefore cycle

theorem looked_zero : around.Looked 0 0 :=
  ⟨le_rfl, fun _ => rfl⟩

theorem Looked.next {cycle looks : Nat} (h : around.Looked cycle looks)
    (hstays : around.StaysUp) (hdown : around.isUp looks = false) :
    around.Looked (cycle + 1) (around.wait (around.naps cycle) (looks + 1)) := by
  have hlooks := h.eq hdown
  obtain ⟨hle, heq⟩ := wait_spec hstays (around.naps cycle) (looks + 1)
  have hbefore : around.looksBefore (cycle + 1) = looks + 1 + (around.naps cycle + 1) := by
    rw [looksBefore, hlooks]
  exact ⟨hbefore ▸ hle, fun hwait => hbefore ▸ heq hwait⟩

variable {options : Options} {limit cycle looks : Nat}

theorem Looked.not_due (h : around.Looked cycle looks) (hup : around.isUp looks = true) :
    ¬around.Due options limit cycle := by
  intro hdue
  rw [hdue.down looks h.le] at hup
  cases hup

theorem Looked.due (h : around.Looked cycle looks) (hstays : around.StaysUp)
    (hdown : around.isUp looks = false) (hwithin : cycle < limit)
    (hwanted : options.count = 0 ∨ cycle < options.count) : around.Due options limit cycle := by
  refine ⟨hwithin, hwanted, fun look hlook => ?_⟩
  rw [← h.eq hdown] at hlook
  cases hup : around.isUp look with
  | false => rfl
  | true =>
      rw [hstays look looks hlook hup] at hdown
      cases hdown

end Surroundings

/-! ## Interruptions -/

/-- What keeps a cycle from being brought to its end. -/
inductive Interruption
  /-- The devices cannot be refreshed. -/
  | faulted (fault : Fault)
  /-- The snapshot cannot be printed as it should be. -/
  | unprinted (after : Collector) (obstacle : Obstacle)
  /-- The snapshot is printed, but the number of snapshots leaves its word. -/
  | uncounted (after : Collector)

namespace Interruption

/-- What is the case where this comes up in a cycle. -/
def At (around : Surroundings) (cycle : Nat) (collector : Collector) : Interruption → Prop
  | faulted fault => collector.refreshed (around.host cycle) = .error fault
  | unprinted after obstacle => collector.refreshed (around.host cycle) = .ok after ∧
      around.obstacle cycle = some obstacle
  | uncounted after => collector.refreshed (around.host cycle) = .ok after ∧
      around.obstacle cycle = none ∧ cycle + 1 = UInt64.size

/-- What the cycle prints nevertheless: a line that is held back is written, too. -/
def lines (around : Surroundings) (options : Options) (cycle : Nat) : Interruption → List Event
  | unprinted after (.flushing _) => [around.line options cycle after]
  | uncounted after => [around.line options cycle after]
  | _ => []

/-- The collector that is there to be released, where the cycle began with `collector`. -/
def left (collector : Collector) : Interruption → Collector
  | faulted _ => collector
  | unprinted after _ => after
  | uncounted after => after

/-- What the command ends with, unless the collector cannot be released: a fault or an error. -/
def cause : Interruption → Except Fault Error
  | faulted fault => .error fault
  | unprinted _ obstacle => .ok (.unprinted obstacle)
  | uncounted _ => .error .additionOverflow

/-- What the command ends with, given how releasing the collector ends. A fault comes before one of
the release, and that comes before an error. -/
def passedOn (interruption : Interruption) (released : Except Fault Collector) :
    Except Fault Error := do
  let error ← interruption.cause
  released.map fun _ => error

/-- How a run ends that passes on the cause after releasing the collector. -/
def outcome {α : Type} (interruption : Interruption)
    (released : Except Fault Collector × List Event) :
    Except Fault (Except Error α) × List Event :=
  ((interruption.passedOn released.1).map .error, released.2)

/-- How a run ends that is interrupted in a cycle: what the cycle prints nevertheless is printed,
the collector is released, and the cause passed on. -/
def ended {α : Type} (interruption : Interruption) (around : Surroundings) (options : Options)
    (cycle : Nat) (collector : Collector) (middle : List Event) :
    Except Fault (Except Error α) × List Event :=
  interruption.outcome (StateT.run (ExceptT.run (interruption.left collector).shutdown)
    (middle ++ interruption.lines around options cycle))

section

variable {α : Type} {interruption : Interruption}
  (released : Except Fault Collector × List Event)

theorem outcome_snd :
    (interruption.outcome released : Except Fault (Except Error α) × List Event).2 =
      released.2 :=
  rfl

theorem outcome_fst_of_fault {fault : Fault} (h : interruption.cause = .error fault) :
    (interruption.outcome released : Except Fault (Except Error α) × List Event).1 =
      .error fault := by
  rw [outcome, passedOn, h]
  rfl

theorem outcome_fst_of_released {last : Collector} (h : released.1 = .ok last) :
    (interruption.outcome released : Except Fault (Except Error α) × List Event).1 =
      interruption.cause.map .error := by
  rw [outcome, passedOn, h]
  cases interruption.cause <;> rfl

end

variable {around : Surroundings} {cycle : Nat} {collector : Collector}

/-- What a refresh leaves as it is holds of the collector that is released. -/
theorem At.invariant {interruption : Interruption} (h : interruption.At around cycle collector)
    {P : Collector → Prop} (hcollector : P collector)
    (hstep : ∀ host before after, P before → before.refreshed host = .ok after → P after) :
    P (interruption.left collector) := by
  cases interruption with
  | faulted fault => exact hcollector
  | unprinted after obstacle => exact hstep _ _ _ hcollector h.1
  | uncounted after => exact hstep _ _ _ hcollector h.1

theorem eq_printed_of_mem_lines {options : Options} {interruption : Interruption} {event : Event}
    (h : event ∈ interruption.lines around options cycle) : ∃ text, event = .printed text := by
  cases interruption with
  | faulted fault => cases h
  | unprinted after obstacle =>
      cases obstacle with
      | encoding reason => cases h
      | writing reason => cases h
      | flushing reason => exact ⟨_, List.mem_singleton.mp h⟩
  | uncounted after => exact ⟨_, List.mem_singleton.mp h⟩

theorem filter_lines (around : Surroundings) (options : Options) (cycle : Nat)
    (interruption : Interruption) :
    (interruption.lines around options cycle).filter Event.isNotable =
      interruption.lines around options cycle := by
  refine List.filter_eq_self.mpr fun event hevent => ?_
  obtain ⟨text, rfl⟩ := eq_printed_of_mem_lines hevent
  rfl

end Interruption

/-! ## Cycles -/

/-- How the loop goes on from a cycle: how the collector stands after each cycle that is brought to
its end, and what interrupts the loop, if anything does. -/
inductive Polls (around : Surroundings) (options : Options) (limit : Nat) :
    Nat → Collector → List Collector → Option Interruption → Prop
  | finished {cycle : Nat} {collector : Collector} (h : ¬around.Due options limit cycle) :
      Polls around options limit cycle collector [] none
  | interrupted {cycle : Nat} {collector : Collector} {interruption : Interruption}
      (h : around.Due options limit cycle) (hat : interruption.At around cycle collector) :
      Polls around options limit cycle collector [] (some interruption)
  | next {cycle : Nat} {collector after : Collector} {states : List Collector}
      {interruption? : Option Interruption} (h : around.Due options limit cycle)
      (hafter : collector.refreshed (around.host cycle) = .ok after)
      (hprinted : around.obstacle cycle = none)
      (rest : Polls around options limit (cycle + 1) after states interruption?) :
      Polls around options limit cycle collector (after :: states) interruption?

/-- The collector that is there at the end, given the last one that a cycle left. -/
def leftBy (interruption? : Option Interruption) (collector : Collector) : Collector :=
  interruption?.elim collector fun interruption => interruption.left collector

section

variable {around : Surroundings} {options : Options} {limit cycle : Nat} {collector : Collector}
  {states : List Collector} {interruption? : Option Interruption}

theorem Polls.cycles (h : Polls around options limit cycle collector states interruption?) :
    Collector.Cycles ((List.range' cycle states.length).map around.host) collector states := by
  induction h with
  | finished _ => exact .nil _
  | interrupted _ _ => exact .nil _
  | next _ hafter _ _ ih =>
      rw [List.length_cons, List.range'_succ, List.map_cons]
      exact .cons hafter ih

theorem Polls.due (h : Polls around options limit cycle collector states interruption?) :
    ∀ number < states.length,
      around.Due options limit (cycle + number) ∧ around.obstacle (cycle + number) = none := by
  induction h with
  | finished _ => exact fun _ hlt => nomatch hlt
  | interrupted _ _ => exact fun _ hlt => nomatch hlt
  | @next cycle _ _ states _ hdue _ hprinted _ ih =>
      rintro (_ | number) hlt
      · exact ⟨hdue, hprinted⟩
      · have hnext := ih number (Nat.lt_of_succ_lt_succ hlt)
        rwa [Nat.succ_add_eq_add_succ] at hnext

/-- What a refresh leaves as it is holds at the end. -/
theorem Polls.invariant (h : Polls around options limit cycle collector states interruption?)
    {P : Collector → Prop} (hcollector : P collector)
    (hstep : ∀ host before after, P before → before.refreshed host = .ok after → P after) :
    P (leftBy interruption? (states.getLastD collector)) := by
  induction h with
  | finished _ => exact hcollector
  | interrupted _ hat => exact hat.invariant hcollector hstep
  | next _ hafter _ _ ih =>
      rw [List.getLastD_cons]
      exact ih (hstep _ _ _ hcollector hafter)

theorem Polls.of_none (h : Polls around options limit cycle collector states none) :
    ¬around.Due options limit (cycle + states.length) := by
  generalize hnone : (none : Option Interruption) = interruption? at h
  induction h with
  | finished hdue => exact hdue
  | interrupted _ _ => cases hnone
  | @next cycle _ _ states _ _ _ _ _ ih =>
      have hrest := ih hnone
      rwa [Nat.succ_add_eq_add_succ] at hrest

theorem Polls.of_some {interruption : Interruption}
    (h : Polls around options limit cycle collector states (some interruption)) :
    around.Due options limit (cycle + states.length) ∧
      interruption.At around (cycle + states.length) (states.getLastD collector) := by
  generalize hsome : some interruption = interruption? at h
  induction h with
  | finished _ => cases hsome
  | interrupted hdue hat =>
      cases hsome
      exact ⟨hdue, hat⟩
  | @next cycle _ _ states _ _ _ _ _ ih =>
      have hrest := ih hsome
      rwa [Nat.succ_add_eq_add_succ, ← List.getLastD_cons] at hrest

/-- In a loop from its first cycle on, there is one state for each cycle that is brought to its
end. -/
theorem Polls.of_first (h : Polls around options limit 0 collector states interruption?) :
    Collector.Cycles ((List.range states.length).map around.host) collector states ∧
    (∀ cycle < states.length, around.Due options limit cycle ∧ around.obstacle cycle = none) ∧
    (interruption? = none → ¬around.Due options limit states.length) ∧
    ∀ interruption, interruption? = some interruption →
      around.Due options limit states.length ∧
        interruption.At around states.length (states.getLastD collector) := by
  refine ⟨?_, ?_, ?_, ?_⟩
  · rw [List.range_eq_range']
    exact h.cycles
  · intro cycle hcycle
    rw [← Nat.zero_add cycle]
    exact h.due cycle hcycle
  · rintro rfl
    rw [← Nat.zero_add states.length]
    exact h.of_none
  · rintro interruption rfl
    rw [← Nat.zero_add states.length]
    exact h.of_some

end

/-! ## Runs of a cycle -/

theorem fault_of_sum {printed : UInt64} {fault : Fault}
    (h : Metric.sum printed 1 = .error fault) :
    fault = .additionOverflow ∧ printed.toNat + 1 = UInt64.size := by
  have hlt : printed.toNat < UInt64.size := printed.toNat_lt
  unfold Metric.sum at h
  split at h
  next => cases h
  next hnot =>
    cases h
    have hge : ¬printed.toNat + 1 < UInt64.size := hnot
    exact ⟨rfl, by omega⟩

section

variable {around : Surroundings} {options : Options} {printed : UInt64}
  {collector after : Collector} {trace middle : List Event}

theorem run_release (collector : Collector) (trace : List Event) :
    StateT.run (ExceptT.run (release collector)) trace =
      ((StateT.run (ExceptT.run collector.shutdown) trace).1.map fun _ => (),
        (StateT.run (ExceptT.run collector.shutdown) trace).2) := by
  rw [release, Run.run_bind]
  rcases StateT.run (ExceptT.run collector.shutdown) trace with ⟨result, last⟩
  cases result <;> rfl

theorem run_runCycle_of_fault {fault : Fault}
    (hrefresh : StateT.run (ExceptT.run (collector.refresh (around.host printed.toNat))) trace =
      (.error fault, middle)) :
    StateT.run (ExceptT.run (runCycle around options printed collector)) trace =
      (Interruption.faulted fault).ended around options printed.toNat collector middle := by
  have hnothing : middle ++ (Interruption.faulted fault).lines around options printed.toNat =
      middle := List.append_nil middle
  rw [runCycle, Run.run_bind, Run.run_onFault, hrefresh]
  dsimp only
  rw [run_release, Interruption.ended, hnothing]
  rfl

section

variable (hrefresh : StateT.run (ExceptT.run
  (collector.refresh (around.host printed.toNat))) trace = (.ok after, middle))

include hrefresh

theorem run_runCycle_of_obstacle {obstacle : Obstacle}
    (hobstacle : around.obstacle printed.toNat = some obstacle) :
    StateT.run (ExceptT.run (runCycle around options printed collector)) trace =
      (Interruption.unprinted after obstacle).ended around options printed.toNat collector
        middle := by
  have hdeliver : StateT.run (deliver ((after.snapshot (around.timestamp printed.toNat)).render
      options.pretty) (some obstacle)) middle = (.error (.unprinted obstacle),
        middle ++ (Interruption.unprinted after obstacle).lines around options printed.toNat) := by
    cases obstacle with
    | encoding _ => exact Prod.ext rfl (List.append_nil middle).symm
    | writing _ => exact Prod.ext rfl (List.append_nil middle).symm
    | flushing _ => rfl
  rw [runCycle, Run.run_bind, Run.run_onFault, hrefresh]
  dsimp only
  rw [Run.run_lift_bind, hobstacle, hdeliver]
  dsimp only
  rw [Run.run_bind, run_release, Interruption.ended, Interruption.left]
  rcases StateT.run (ExceptT.run after.shutdown)
    (middle ++ (Interruption.unprinted after obstacle).lines around options printed.toNat) with
    ⟨result, last⟩
  cases result <;> rfl

/-- After the snapshot is printed, it is counted. -/
theorem run_runCycle_of_printed (hobstacle : around.obstacle printed.toNat = none) :
    StateT.run (ExceptT.run (runCycle around options printed collector)) trace =
      match Metric.sum printed 1 with
      | .ok count =>
        (.ok (.ok (after, count)), middle ++ [around.line options printed.toNat after])
      | .error _ =>
        (Interruption.uncounted after).ended around options printed.toNat collector middle := by
  have hdeliver : StateT.run (deliver ((after.snapshot (around.timestamp printed.toNat)).render
      options.pretty) none) middle =
        (.ok (), middle ++ [around.line options printed.toNat after]) := rfl
  have hsum (trace : List Event) :
      StateT.run (ExceptT.run (liftM (Metric.sum printed 1) : Run UInt64)) trace =
        (Metric.sum printed 1, trace) := rfl
  rw [runCycle, Run.run_bind, Run.run_onFault, hrefresh]
  dsimp only
  rw [Run.run_lift_bind, hobstacle, hdeliver]
  dsimp only
  rw [Run.run_bind, Run.run_onFault, hsum]
  cases hcount : Metric.sum printed 1 with
  | ok count => rfl
  | error fault =>
      obtain ⟨rfl, -⟩ := fault_of_sum hcount
      dsimp only
      rw [run_release]
      rfl

end

/-- A cycle prints one line and counts it, unless it is interrupted. -/
theorem runCycle_cases (around : Surroundings) (options : Options) (printed : UInt64)
    (collector : Collector) (trace : List Event) :
    ∃ middle, middle.filter Event.isNotable = trace.filter Event.isNotable ∧
      ((∃ after count, collector.refreshed (around.host printed.toNat) = .ok after ∧
        around.obstacle printed.toNat = none ∧ count.toNat = printed.toNat + 1 ∧
        StateT.run (ExceptT.run (runCycle around options printed collector)) trace =
          (.ok (.ok (after, count)), middle ++ [around.line options printed.toNat after])) ∨
      ∃ interruption : Interruption, interruption.At around printed.toNat collector ∧
        StateT.run (ExceptT.run (runCycle around options printed collector)) trace =
          interruption.ended around options printed.toNat collector middle) := by
  have hresult := Collector.ensures_refresh (around.host printed.toNat) collector trace
  have hsilent := Collector.silent_refresh (around.host printed.toNat) collector trace
  rcases hrefresh : StateT.run (ExceptT.run
    (collector.refresh (around.host printed.toNat))) trace with ⟨fault | after, middle⟩
  · rw [hrefresh] at hresult hsilent
    exact ⟨middle, hsilent, .inr ⟨.faulted fault, hresult.symm, run_runCycle_of_fault hrefresh⟩⟩
  · rw [hrefresh] at hresult hsilent
    refine ⟨middle, hsilent, ?_⟩
    cases hobstacle : around.obstacle printed.toNat with
    | some obstacle =>
        exact .inr ⟨.unprinted after obstacle, ⟨hresult.symm, hobstacle⟩,
          run_runCycle_of_obstacle hrefresh hobstacle⟩
    | none =>
        rw [run_runCycle_of_printed hrefresh hobstacle]
        cases hcount : Metric.sum printed 1 with
        | ok count =>
            have hnext : printed.toNat + 1 = count.toNat := Metric.sum_eq_ok_iff.mp hcount
            exact .inl ⟨after, count, hresult.symm, rfl, hnext.symm, rfl⟩
        | error fault =>
            have hsize := (fault_of_sum hcount).2
            exact .inr ⟨.uncounted after, ⟨hresult.symm, hobstacle, hsize⟩, rfl⟩

end

/-! ## Runs of the loop -/

/-- A run of the loop from a cycle that goes as `Polls` tells: it prints one line for each cycle,
and ends with the collector as the last cycle left it, or shuts that collector down and passes on
what interrupted it. -/
structure Polled (around : Surroundings) (options : Options) (limit cycle : Nat)
    (collector : Collector) (trace : List Event)
    (outcome : Except Fault (Except Error (Collector × Bool)) × List Event)
    (states : List Collector) (interruption? : Option Interruption) (before : List Event) :
    Prop where
  polls : Polls around options limit cycle collector states interruption?
  lines : before.filter Event.isNotable = trace.filter Event.isNotable ++
    (states.mapIdx fun number state => around.line options (cycle + number) state) ++
    interruption?.elim [] (Interruption.lines around options (cycle + states.length))
  ends : interruption? = none →
    ∃ isOver, outcome = (.ok (.ok (states.getLastD collector, isOver)), before)
  interrupted : ∀ interruption, interruption? = some interruption →
    outcome = interruption.outcome
      (StateT.run (ExceptT.run (interruption.left (states.getLastD collector)).shutdown) before)

section

variable {around : Surroundings} {options : Options} {limit cycle : Nat}
  {collector after : Collector} {trace middle before : List Event}
  {outcome : Except Fault (Except Error (Collector × Bool)) × List Event}
  {states : List Collector} {interruption? : Option Interruption}

theorem polled_over (h : ¬around.Due options limit cycle) (isOver : Bool) :
    Polled around options limit cycle collector trace (.ok (.ok (collector, isOver)), trace) []
      none trace := by
  refine ⟨.finished h, ?_, fun _ => ⟨isOver, rfl⟩, nofun⟩
  rw [List.mapIdx_nil, List.append_nil]
  exact (List.append_nil _).symm

theorem polled_interrupted {interruption : Interruption} (h : around.Due options limit cycle)
    (hat : interruption.At around cycle collector)
    (hsilent : middle.filter Event.isNotable = trace.filter Event.isNotable) :
    Polled around options limit cycle collector trace
      (interruption.ended around options cycle collector middle) [] (some interruption)
      (middle ++ interruption.lines around options cycle) := by
  refine ⟨.interrupted h hat, ?_, nofun, ?_⟩
  · rw [List.filter_append, hsilent, interruption.filter_lines, List.mapIdx_nil, List.append_nil]
    rfl
  · rintro _ ⟨⟩
    rfl

theorem Polled.next (h : Polled around options limit (cycle + 1) after
      (middle ++ [around.line options cycle after]) outcome states interruption? before)
    (hdue : around.Due options limit cycle)
    (hafter : collector.refreshed (around.host cycle) = .ok after)
    (hprinted : around.obstacle cycle = none)
    (hsilent : middle.filter Event.isNotable = trace.filter Event.isNotable) :
    Polled around options limit cycle collector trace outcome (after :: states) interruption?
      before := by
  refine ⟨.next hdue hafter hprinted h.polls, ?_, ?_, ?_⟩
  · have hline : [around.line options cycle after].filter Event.isNotable =
        [around.line options cycle after] := rfl
    rw [h.lines, List.filter_append, hsilent, hline, List.append_assoc (List.filter _ _),
      List.mapIdx_cons, List.singleton_append, List.length_cons]
    simp only [Nat.add_assoc, Nat.add_comm 1, Nat.add_zero]
  · rw [List.getLastD_cons]
    exact h.ends
  · rw [List.getLastD_cons]
    exact h.interrupted

end

/-- While the flag is down, the loop runs a cycle and goes on if there is another line to print. -/
theorem run_poll {around : Surroundings} {looks : Nat} (hdown : around.isUp looks = false)
    (options : Options) (cycles : Nat) (printed : UInt64) (collector : Collector)
    (trace : List Event) :
    StateT.run (ExceptT.run (poll around options (cycles + 1) printed looks collector)) trace =
      match StateT.run (ExceptT.run (runCycle around options printed collector)) trace with
      | (.error fault, last) => (.error fault, last)
      | (.ok (.error error), last) => (.ok (.error error), last)
      | (.ok (.ok (after, count)), last) =>
        if 0 < options.count ∧ options.count ≤ count.toNat then (.ok (.ok (after, true)), last)
        else StateT.run (ExceptT.run (poll around options cycles count
          (around.wait (around.naps printed.toNat) (looks + 1)) after)) last := by
  rw [poll, hdown, if_neg Bool.false_ne_true, Run.run_bind]
  rcases StateT.run (ExceptT.run (runCycle around options printed collector)) trace with
    ⟨_ | _ | ⟨after, count⟩, last⟩
  · rfl
  · rfl
  · dsimp only
    by_cases hlast : 0 < options.count ∧ options.count ≤ count.toNat
    · rw [if_pos hlast, if_pos (by simpa using hlast)]
      rfl
    · rw [if_neg hlast, if_neg (by simpa using hlast)]

theorem run_poll_of_interruption {around : Surroundings} {options : Options} {looks : Nat}
    {printed : UInt64} {collector : Collector} {trace middle : List Event}
    {interruption : Interruption} (hdown : around.isUp looks = false) (cycles : Nat)
    (hcycle : StateT.run (ExceptT.run (runCycle around options printed collector)) trace =
      interruption.ended around options printed.toNat collector middle) :
    StateT.run (ExceptT.run (poll around options (cycles + 1) printed looks collector)) trace =
      interruption.ended around options printed.toNat collector middle := by
  rw [run_poll hdown, hcycle]
  unfold Interruption.ended Interruption.outcome
  generalize interruption.passedOn _ = result
  cases result <;> rfl

theorem exists_polled {around : Surroundings} (hstays : around.StaysUp) {options : Options}
    (cycles : Nat) {printed : UInt64} {looks : Nat} (hlooked : around.Looked printed.toNat looks)
    (hwanted : options.count = 0 ∨ printed.toNat < options.count) (collector : Collector)
    (trace : List Event) :
    ∃ states interruption? before, Polled around options (printed.toNat + cycles) printed.toNat
      collector trace
      (StateT.run (ExceptT.run (poll around options cycles printed looks collector)) trace)
      states interruption? before := by
  induction cycles generalizing printed looks collector trace with
  | zero =>
      exact ⟨[], none, trace,
        polled_over (fun hdue => Nat.lt_irrefl printed.toNat hdue.within) false⟩
  | succ cycles ih =>
      cases hup : around.isUp looks with
      | true =>
          refine ⟨[], none, trace, ?_⟩
          rw [poll, hup]
          exact polled_over (hlooked.not_due hup) true
      | false =>
          have hdue : around.Due options (printed.toNat + (cycles + 1)) printed.toNat :=
            hlooked.due hstays hup (by omega) hwanted
          obtain ⟨middle, hsilent, ⟨after, count, hafter, hprinted, hcount, hcycle⟩ |
            ⟨interruption, hat, hcycle⟩⟩ := runCycle_cases around options printed collector trace
          · rw [run_poll hup, hcycle]
            dsimp only
            rw [hcount]
            split
            next hlast =>
              have hover : ¬around.Due options (printed.toNat + (cycles + 1))
                  (printed.toNat + 1) := by
                intro hnext
                have hwanted := hnext.wanted
                omega
              exact ⟨[after], none, _,
                (polled_over hover true).next hdue hafter hprinted hsilent⟩
            next hmore =>
              have hlooked' := hlooked.next hstays hup
              rw [← hcount] at hlooked' hmore
              obtain ⟨states, interruption?, before, hrest⟩ := ih hlooked' (by omega) after
                (middle ++ [around.line options printed.toNat after])
              have hlimit : printed.toNat + 1 + cycles = printed.toNat + (cycles + 1) := by omega
              rw [hcount, hlimit] at hrest
              exact ⟨after :: states, interruption?, before,
                hrest.next hdue hafter hprinted hsilent⟩
          · rw [run_poll_of_interruption hup cycles hcycle]
            exact ⟨[], some interruption, _, polled_interrupted hdue hat hsilent⟩

end GpuTelemetry.Command
