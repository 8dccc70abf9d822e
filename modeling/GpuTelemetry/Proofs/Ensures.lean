import GpuTelemetry.Trace

/-!
# What a run ends with

Most of what a run does depends on the host and not on the trace so far.
`Ensures` speaks of the result alone: whatever trace a computation goes on from,
it ends with a result that has a property.
-/

namespace GpuTelemetry

variable {α β : Type}

def Traced.Ensures (body : Traced α) (P : α → Prop) : Prop :=
  ∀ trace, P (StateT.run body trace).1

def Run.Ensures (body : Run α) (P : Except Fault α → Prop) : Prop :=
  ∀ trace, P (StateT.run (ExceptT.run body) trace).1

namespace Traced

theorem run_bind (body : Traced α) (next : α → Traced β) (trace : List Event) :
    StateT.run (body >>= next) trace =
      StateT.run (next (StateT.run body trace).1) (StateT.run body trace).2 :=
  rfl

theorem ensures_pure {P : α → Prop} {a : α} (h : P a) : Ensures (pure a) P :=
  fun _ => h

theorem Ensures.bind {P : α → Prop} {Q : β → Prop} {body : Traced α} {next : α → Traced β}
    (h : Ensures body P) (hnext : ∀ a, P a → Ensures (next a) Q) : Ensures (body >>= next) Q := by
  intro trace
  exact hnext _ (h trace) (StateT.run body trace).2

theorem Ensures.mono {P Q : α → Prop} {body : Traced α} (h : Ensures body P)
    (hmono : ∀ a, P a → Q a) : Ensures body Q :=
  fun trace => hmono _ (h trace)

/-- What comes after an event or a log line does not depend on it. -/
theorem ensures_unit_bind {Q : β → Prop} {body : Traced Unit} {next : Unit → Traced β}
    (hnext : Ensures (next ()) Q) : Ensures (body >>= next) Q := by
  intro trace
  exact hnext (StateT.run body trace).2

end Traced

namespace Run

theorem run_bind (body : Run α) (next : α → Run β) (trace : List Event) :
    StateT.run (ExceptT.run (body >>= next)) trace =
      match StateT.run (ExceptT.run body) trace with
      | (.ok a, after) => StateT.run (ExceptT.run (next a)) after
      | (.error fault, after) => (.error fault, after) := by
  unfold StateT.run ExceptT.run
  simp only [bind, ExceptT.bind, ExceptT.mk, StateT.bind, ExceptT.bindCont]
  rcases body trace with ⟨result, after⟩
  cases result <;> rfl

theorem run_lift_bind (body : Traced α) (next : α → Run β) (trace : List Event) :
    StateT.run (ExceptT.run (monadLift body >>= next)) trace =
      StateT.run (ExceptT.run (next (StateT.run body trace).1)) (StateT.run body trace).2 :=
  rfl

theorem run_tryCatch (body : Run α) (handler : Fault → Run α) (trace : List Event) :
    StateT.run (ExceptT.run (tryCatch body handler)) trace =
      match StateT.run (ExceptT.run body) trace with
      | (.ok a, after) => (.ok a, after)
      | (.error fault, after) => StateT.run (ExceptT.run (handler fault)) after := by
  unfold StateT.run ExceptT.run
  simp only [tryCatch, tryCatchThe, MonadExceptOf.tryCatch, ExceptT.tryCatch, ExceptT.mk, bind,
    StateT.bind]
  rcases body trace with ⟨result, after⟩
  cases result <;> rfl

/-- A fault is passed on after the cleanup, whatever becomes of that. -/
theorem run_onFault (body : Run α) (cleanup : Run Unit) (trace : List Event) :
    StateT.run (ExceptT.run (onFault body cleanup)) trace =
      match StateT.run (ExceptT.run body) trace with
      | (.ok a, after) => (.ok a, after)
      | (.error fault, after) => (.error fault, (StateT.run (ExceptT.run cleanup) after).2) := by
  rw [onFault, run_tryCatch]
  rcases StateT.run (ExceptT.run body) trace with ⟨result, after⟩
  cases result with
  | ok a => rfl
  | error fault =>
      dsimp only
      rw [run_bind, run_tryCatch]
      rcases StateT.run (ExceptT.run cleanup) after with ⟨cleaned, last⟩
      cases cleaned <;> rfl

theorem ensures_pure {P : Except Fault α → Prop} {a : α} (h : P (.ok a)) : Ensures (pure a) P :=
  fun _ => h

theorem Ensures.mono {P Q : Except Fault α → Prop} {body : Run α} (h : Ensures body P)
    (hmono : ∀ result, P result → Q result) : Ensures body Q :=
  fun trace => hmono _ (h trace)

theorem Ensures.bind {P : Except Fault α → Prop} {Q : Except Fault β → Prop} {body : Run α}
    {next : α → Run β} (h : Ensures body P) (hok : ∀ a, P (.ok a) → Ensures (next a) Q)
    (herror : ∀ fault, P (.error fault) → Q (.error fault)) : Ensures (body >>= next) Q := by
  intro trace
  have hbody := h trace
  rw [run_bind]
  revert hbody
  rcases StateT.run (ExceptT.run body) trace with ⟨result, after⟩
  intro hbody
  cases result with
  | ok a => exact hok a hbody after
  | error fault => exact herror fault hbody

theorem Ensures.bind_ok {Q : Except Fault β → Prop} {body : Run α} {next : α → Run β} {a : α}
    (h : Ensures body (· = .ok a)) (hnext : Ensures (next a) Q) : Ensures (body >>= next) Q := by
  refine h.bind ?_ nofun
  intro b hb
  cases hb
  exact hnext

theorem Ensures.bind_error {Q : Except Fault β → Prop} {body : Run α} {next : α → Run β}
    {fault : Fault} (h : Ensures body (· = .error fault)) (hfault : Q (.error fault)) :
    Ensures (body >>= next) Q := by
  refine h.bind nofun ?_
  intro other hother
  cases hother
  exact hfault

/-- The result of two parts that depend on nothing but the host. -/
theorem Ensures.bind_result {body : Run α} {next : α → Run β} {result : Except Fault α}
    {results : α → Except Fault β} (h : Ensures body (· = result))
    (hnext : ∀ a, Ensures (next a) (· = results a)) :
    Ensures (body >>= next) (· = result >>= results) := by
  refine h.bind ?_ ?_
  · rintro a rfl
    exact hnext a
  · rintro fault rfl
    rfl

theorem ensures_lift_bind {P : α → Prop} {Q : Except Fault β → Prop} {body : Traced α}
    {next : α → Run β} (h : Traced.Ensures body P) (hnext : ∀ a, P a → Ensures (next a) Q) :
    Ensures (monadLift body >>= next) Q := by
  intro trace
  exact hnext _ (h trace) (StateT.run body trace).2

/-- What comes after an event or a log line does not depend on it. -/
theorem ensures_unit_bind {Q : Except Fault β → Prop} {body : Traced Unit} {next : Unit → Run β}
    (hnext : Ensures (next ()) Q) : Ensures (monadLift body >>= next) Q := by
  intro trace
  exact hnext (StateT.run body trace).2

theorem ensures_get_bind {Q : Except Fault β → Prop} {next : List Event → Run β}
    (hnext : ∀ trace, Ensures (next trace) Q) : Ensures (get >>= next) Q :=
  fun trace => hnext trace trace

theorem ensures_ofExcept {P : Except Fault α → Prop} {body : Except Fault α} (h : P body) :
    Ensures (monadLift body) P := by
  intro trace
  cases body <;> exact h

theorem Ensures.onFault {P : Except Fault α → Prop} {body : Run α} (h : Ensures body P)
    (cleanup : Run Unit) : Ensures (onFault body cleanup) P := by
  intro trace
  have hbody := h trace
  rw [run_onFault]
  revert hbody
  rcases StateT.run (ExceptT.run body) trace with ⟨result, after⟩
  intro hbody
  cases result <;> exact hbody

/-! ## Results without a fault -/

/-- Whatever the computation returns has a property. It may fault instead. -/
def ReturnsOnly (body : Run α) (P : α → Prop) : Prop :=
  Ensures body fun result => ∀ a, result = .ok a → P a

theorem returnsOnly_pure {P : α → Prop} {a : α} (h : P a) : ReturnsOnly (pure a) P := by
  apply ensures_pure
  rintro _ ⟨⟩
  exact h

theorem Ensures.returnsOnly_of_result {body : Run α} {result : Except Fault α}
    (h : Ensures body (· = result)) : ReturnsOnly body (result = .ok ·) := by
  refine h.mono ?_
  rintro _ rfl a ha
  exact ha

theorem Ensures.returnsOnly {P : α → Prop} {body : Run α} {a : α}
    (h : Ensures body (· = .ok a)) (ha : P a) : ReturnsOnly body P := by
  refine h.mono ?_
  rintro _ rfl _ ⟨⟩
  exact ha

theorem ReturnsOnly.bind {P : α → Prop} {Q : β → Prop} {body : Run α} {next : α → Run β}
    (h : ReturnsOnly body P) (hnext : ∀ a, P a → ReturnsOnly (next a) Q) :
    ReturnsOnly (body >>= next) Q :=
  Ensures.bind h (fun a ha => hnext a (ha a rfl)) fun _ _ => nofun

/-- Nothing needs to be known of what the first part returns. -/
theorem returnsOnly_bind {Q : β → Prop} {body : Run α} {next : α → Run β}
    (hnext : ∀ a, ReturnsOnly (next a) Q) : ReturnsOnly (body >>= next) Q :=
  ReturnsOnly.bind (P := fun _ => True) (fun _ _ _ => trivial) fun a _ => hnext a

theorem ReturnsOnly.mono {P Q : α → Prop} {body : Run α} (h : ReturnsOnly body P)
    (hmono : ∀ a, P a → Q a) : ReturnsOnly body Q :=
  fun trace a ha => hmono a (h trace a ha)

theorem ReturnsOnly.and {P Q : α → Prop} {body : Run α} (hp : ReturnsOnly body P)
    (hq : ReturnsOnly body Q) : ReturnsOnly body fun a => P a ∧ Q a :=
  fun trace a ha => ⟨hp trace a ha, hq trace a ha⟩

theorem returnsOnly_lift_bind {P : α → Prop} {Q : β → Prop} {body : Traced α}
    {next : α → Run β} (h : Traced.Ensures body P) (hnext : ∀ a, P a → ReturnsOnly (next a) Q) :
    ReturnsOnly (monadLift body >>= next) Q :=
  ensures_lift_bind h hnext

theorem returnsOnly_unit_bind {Q : β → Prop} {body : Traced Unit} {next : Unit → Run β}
    (hnext : ReturnsOnly (next ()) Q) : ReturnsOnly (monadLift body >>= next) Q :=
  ensures_unit_bind hnext

theorem ReturnsOnly.onFault {P : α → Prop} {body : Run α} (h : ReturnsOnly body P)
    (cleanup : Run Unit) : ReturnsOnly (onFault body cleanup) P :=
  Ensures.onFault h cleanup

end Run

end GpuTelemetry
