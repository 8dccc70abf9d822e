import GpuTelemetry.Proofs.Ensures

/-!
# Lifecycle events

The lives of vendors and devices consist of the calls to the vendors and of the
devices that are given up. A silent computation leaves no such event in the
trace, and no output either, even if it faults; `Leaves` says which ones a
computation leaves when it comes to its end.
-/

namespace GpuTelemetry

def Event.isLifecycle : Event → Bool
  | vendor _ _ => true
  | deviceReleased _ => true
  | _ => false

/-- Whether an event is a line that someone reads: one that is printed or a complaint. -/
def Event.isOutput : Event → Bool
  | printed _ => true
  | complained _ => true
  | _ => false

/-- Whether an event is left by the program as a whole and not by one of its parts. -/
def Event.isNotable (event : Event) : Bool :=
  event.isLifecycle || event.isOutput

/-- Whether an event is a call to the vendor with a number, or gives up a device of its. -/
def Event.concerns (index : Nat) : Event → Bool
  | vendor other _ => other == index
  | deviceReleased other => other == index
  | _ => false

def lifecycle (trace : List Event) : List Event :=
  trace.filter Event.isLifecycle

def output (trace : List Event) : List Event :=
  trace.filter Event.isOutput

theorem lifecycle_append (first second : List Event) :
    lifecycle (first ++ second) = lifecycle first ++ lifecycle second :=
  List.filter_append first second

theorem filter_concerns_lifecycle (index : Nat) (trace : List Event) :
    (lifecycle trace).filter (Event.concerns index) = trace.filter (Event.concerns index) := by
  rw [lifecycle, List.filter_filter]
  congr 1
  funext event
  cases event <;> simp [Event.concerns, Event.isLifecycle]

theorem count_lifecycle {event : Event} (h : event.isLifecycle = true) (trace : List Event) :
    (lifecycle trace).count event = trace.count event :=
  List.count_filter h

variable {α β : Type}

/-- The computation adds no event of a kind to the trace. -/
def Traced.Keeps (kind : Event → Bool) (body : Traced α) : Prop :=
  ∀ trace, (StateT.run body trace).2.filter kind = trace.filter kind

/-- The computation adds no event of a kind to the trace, even if it faults. -/
def Run.Keeps (kind : Event → Bool) (body : Run α) : Prop :=
  ∀ trace, (StateT.run (ExceptT.run body) trace).2.filter kind = trace.filter kind

abbrev Traced.Silent (body : Traced α) : Prop :=
  Traced.Keeps Event.isNotable body

abbrev Run.Silent (body : Run α) : Prop :=
  Run.Keeps Event.isNotable body

/-- If the computation returns, then with a result and lifecycle events that have a property. -/
def Run.Leaves (body : Run α) (P : α → List Event → Prop) : Prop :=
  ∀ trace a after, StateT.run (ExceptT.run body) trace = (.ok a, after) →
    ∃ events, lifecycle after = lifecycle trace ++ events ∧ P a events

theorem filter_append_singleton {kind : Event → Bool} {event : Event} (h : kind event = false)
    (trace : List Event) : (trace ++ [event]).filter kind = trace.filter kind := by
  have hevent : [event].filter kind = [] := List.filter_cons_of_neg (by simp [h])
  rw [List.filter_append, hevent, List.append_nil]

theorem filter_filter_of_narrower {kind narrower : Event → Bool}
    (hnarrower : ∀ event, narrower event = true → kind event = true) (events : List Event) :
    (events.filter kind).filter narrower = events.filter narrower := by
  rw [List.filter_filter]
  congr 1
  funext event
  cases hevent : narrower event with
  | false => rfl
  | true => rw [hnarrower event hevent, Bool.and_self]

theorem isNotable_of_isLifecycle (event : Event) (h : event.isLifecycle = true) :
    event.isNotable = true := by
  rw [Event.isNotable, h, Bool.true_or]

theorem isNotable_of_isOutput (event : Event) (h : event.isOutput = true) :
    event.isNotable = true := by
  rw [Event.isNotable, h, Bool.or_true]

namespace Traced

variable {kind : Event → Bool}

theorem keeps_pure (a : α) : Keeps kind (pure a) :=
  fun _ => rfl

theorem Keeps.bind {body : Traced α} {next : α → Traced β} (h : Keeps kind body)
    (hnext : ∀ a, Keeps kind (next a)) : Keeps kind (body >>= next) :=
  fun trace => (hnext _ _).trans (h trace)

theorem keeps_emit {event : Event} (h : kind event = false) : Keeps kind (emit event) :=
  filter_append_singleton h

theorem silent_log (level : LogLevel) (source : LogSource) (text : String) :
    Silent (log level source text) :=
  keeps_emit rfl

theorem keeps_forM {l : List α} {body : α → Traced Unit} (h : ∀ a, Keeps kind (body a)) :
    Keeps kind (l.forM body) := by
  induction l with
  | nil => exact keeps_pure ()
  | cons a l ih => exact (h a).bind fun _ => ih

end Traced

namespace Run

section

variable {kind : Event → Bool}

theorem keeps_pure (a : α) : Keeps kind (pure a) :=
  fun _ => rfl

theorem Keeps.mono {body : Run α} (h : Keeps kind body) {narrower : Event → Bool}
    (hnarrower : ∀ event, narrower event = true → kind event = true) : Keeps narrower body := by
  intro trace
  rw [← filter_filter_of_narrower hnarrower, h, filter_filter_of_narrower hnarrower]

theorem Keeps.bind {body : Run α} {next : α → Run β} (h : Keeps kind body)
    (hnext : ∀ a, Keeps kind (next a)) : Keeps kind (body >>= next) := by
  intro trace
  have hbody := h trace
  rw [run_bind]
  revert hbody
  rcases StateT.run (ExceptT.run body) trace with ⟨result, after⟩
  intro hbody
  cases result with
  | ok a => exact (hnext a after).trans hbody
  | error fault => exact hbody

theorem keeps_lift {body : Traced α} (h : Traced.Keeps kind body) :
    Keeps kind (monadLift body) :=
  h

theorem keeps_lift_bind {body : Traced α} {next : α → Run β} (h : Traced.Keeps kind body)
    (hnext : ∀ a, Keeps kind (next a)) : Keeps kind (monadLift body >>= next) :=
  (keeps_lift h).bind hnext

theorem keeps_ofExcept (body : Except Fault α) : Keeps kind (monadLift body) := by
  intro trace
  cases body <;> rfl

theorem Keeps.onFault {body : Run α} {cleanup : Run Unit} (h : Keeps kind body)
    (hcleanup : Keeps kind cleanup) : Keeps kind (onFault body cleanup) := by
  intro trace
  have hbody := h trace
  rw [run_onFault]
  revert hbody
  rcases StateT.run (ExceptT.run body) trace with ⟨result, after⟩
  intro hbody
  cases result with
  | ok a => exact hbody
  | error fault => exact (hcleanup after).trans hbody

end

/-- A silent computation keeps the lifecycle events as they are. -/
theorem Keeps.lifecycle_eq {body : Run α} (h : Silent body) (trace : List Event) :
    lifecycle (StateT.run (ExceptT.run body) trace).2 = lifecycle trace :=
  h.mono isNotable_of_isLifecycle trace

theorem leaves_pure {P : α → List Event → Prop} {a : α} (h : P a []) : Leaves (pure a) P := by
  rintro trace _ _ ⟨⟩
  exact ⟨[], (List.append_nil _).symm, h⟩

theorem Leaves.mono {P Q : α → List Event → Prop} {body : Run α} (h : Leaves body P)
    (hmono : ∀ a events, P a events → Q a events) : Leaves body Q := by
  intro trace a after hrun
  obtain ⟨events, hevents, hp⟩ := h trace a after hrun
  exact ⟨events, hevents, hmono a events hp⟩

theorem Leaves.bind {P : α → List Event → Prop} {Q : β → List Event → Prop} {body : Run α}
    {next : α → Run β} (h : Leaves body P)
    (hnext : ∀ a first, P a first → Leaves (next a) fun b second => Q b (first ++ second)) :
    Leaves (body >>= next) Q := by
  intro trace b last hrun
  rw [run_bind] at hrun
  split at hrun
  next a after hbody =>
    obtain ⟨first, hfirst, hp⟩ := h trace a after hbody
    obtain ⟨second, hsecond, hq⟩ := hnext a first hp after b last hrun
    exact ⟨first ++ second, by rw [hsecond, hfirst, List.append_assoc], hq⟩
  next => cases hrun

theorem Keeps.leaves {body : Run α} (h : Silent body) :
    Leaves body fun _ events => events = [] := by
  intro trace a after hrun
  have hsilent := h.lifecycle_eq trace
  rw [hrun] at hsilent
  exact ⟨[], by rw [List.append_nil]; exact hsilent, rfl⟩

theorem Keeps.leaves_bind {Q : β → List Event → Prop} {body : Run α} {next : α → Run β}
    (h : Silent body) (hnext : ∀ a, Leaves (next a) Q) : Leaves (body >>= next) Q := by
  refine h.leaves.bind ?_
  rintro a _ rfl
  exact hnext a

/-- The second part needs to be known only for what the first one may leave. -/
theorem Keeps.bind_leaves {kind : Event → Bool} {P : α → List Event → Prop} {body : Run α}
    {next : α → Run β} (h : Keeps kind body) (hleaves : Leaves body P)
    (hnext : ∀ a events, P a events → Keeps kind (next a)) : Keeps kind (body >>= next) := by
  intro trace
  have hbody := h trace
  rw [run_bind]
  cases hrun : StateT.run (ExceptT.run body) trace with
  | mk result after =>
      rw [hrun] at hbody
      cases result with
      | error fault => exact hbody
      | ok a =>
          obtain ⟨events, -, hp⟩ := hleaves trace a after hrun
          exact (hnext a events hp after).trans hbody

theorem leaves_emit_bind {Q : β → List Event → Prop} {event : Event} {next : Unit → Run β}
    (h : event.isLifecycle = true)
    (hnext : Leaves (next ()) fun b events => Q b (event :: events)) :
    Leaves (monadLift (emit event) >>= next) Q := by
  have hemit : Leaves (monadLift (emit event) : Run Unit) fun _ events => events = [event] := by
    rintro trace _ _ ⟨⟩
    refine ⟨[event], ?_, rfl⟩
    rw [lifecycle_append]
    exact congrArg (lifecycle trace ++ ·) (List.filter_cons_of_pos h)
  refine hemit.bind ?_
  rintro _ _ rfl
  exact hnext

/-- What is known of the result whatever the trace is known of it, too. -/
theorem Leaves.and {P : α → List Event → Prop} {E : Except Fault α → Prop} {body : Run α}
    (h : Leaves body P) (hensures : Ensures body E) :
    Leaves body fun a events => P a events ∧ E (.ok a) := by
  intro trace a after hrun
  obtain ⟨events, hevents, hp⟩ := h trace a after hrun
  have hresult := hensures trace
  rw [hrun] at hresult
  exact ⟨events, hevents, hp, hresult⟩

/-- The cleanup is not run when the body returns. -/
theorem Leaves.onFault {P : α → List Event → Prop} {body : Run α} (h : Leaves body P)
    (cleanup : Run Unit) : Leaves (onFault body cleanup) P := by
  intro trace a after hrun
  refine h trace a after ?_
  rw [run_onFault] at hrun
  split at hrun
  next b middle hbody => rw [hbody, hrun]
  next fault middle hbody => cases hrun

end Run

end GpuTelemetry
