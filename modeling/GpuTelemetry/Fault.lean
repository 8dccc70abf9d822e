/-!
# Faults

A fault is a broken rule inside the program: arithmetic that leaves its word, a
metric read although it is absent, a client of the graphics driver reported twice
in one cycle, or a library that cannot be shut down. A run that meets a fault
does not go on.
-/

namespace GpuTelemetry

/-- One client of the graphics driver, as one process holds it. -/
structure ClientKey where
  clientId : UInt64
  pid : UInt32
  deriving DecidableEq

inductive Fault
  | additionOverflow
  | multiplicationOverflow
  | negationOverflow
  | absentMetric
  | clientReadTwice (client : ClientKey)
  /-- The function that shuts a library down was not found in it. -/
  | shutdownMissing (reason : String)
  deriving DecidableEq

def Fault.message : Fault → String
  | additionOverflow => "attempt to add with overflow"
  | multiplicationOverflow => "attempt to multiply with overflow"
  | negationOverflow => "attempt to negate with overflow"
  | absentMetric => "read of an absent metric field"
  | clientReadTwice client =>
    "DRM client ClientKey \x7b client_id: " ++ toString client.clientId.toNat ++ ", pid: "
      ++ toString client.pid.toNat ++ " \x7d parsed twice in one cycle"
  | shutdownMissing reason =>
    "Expected function, got error.: DlSym \x7b desc: \"" ++ reason ++ "\" \x7d"

namespace Fault

variable {α β : Type}

/-- A run in two parts goes on to the end just when both parts do. -/
theorem bind_eq_ok_iff {x : Except Fault α} {f : α → Except Fault β} {b : β} :
    x >>= f = .ok b ↔ ∃ a, x = .ok a ∧ f a = .ok b := by
  cases x with
  | error fault =>
      constructor
      · intro h
        cases h
      · rintro ⟨_, h, _⟩
        cases h
  | ok a =>
      constructor
      · intro h
        exact ⟨a, rfl, h⟩
      · rintro ⟨_, ha, hb⟩
        cases ha
        exact hb

/-- A fault of a run in two parts is a fault of one of them. -/
theorem bind_eq_error_iff {x : Except Fault α} {f : α → Except Fault β} {fault : Fault} :
    x >>= f = .error fault ↔ x = .error fault ∨ ∃ a, x = .ok a ∧ f a = .error fault := by
  cases x with
  | error other =>
      constructor
      · intro h
        cases h
        exact .inl rfl
      · rintro (h | ⟨_, h, _⟩)
        · cases h
          rfl
        · cases h
  | ok a =>
      constructor
      · intro h
        exact .inr ⟨a, rfl, h⟩
      · rintro (h | ⟨_, ha, h⟩)
        · cases h
        · cases ha
          exact h

theorem exists_of_isOk {x : Except Fault α} (h : x.isOk = true) : ∃ a, x = .ok a := by
  cases x with
  | error fault => cases h
  | ok a => exact ⟨a, rfl⟩

theorem map_eq_ok_iff {x : Except Fault α} {f : α → β} {b : β} :
    x.map f = .ok b ↔ ∃ a, x = .ok a ∧ f a = b := by
  cases x with
  | error fault =>
      constructor
      · intro h
        cases h
      · rintro ⟨_, h, _⟩
        cases h
  | ok a =>
      constructor
      · intro h
        cases h
        exact ⟨a, rfl, rfl⟩
      · rintro ⟨_, ha, rfl⟩
        cases ha
        rfl

theorem map_map {γ : Type} (x : Except Fault α) (f : α → β) (g : β → γ) :
    (x.map f).map g = x.map fun a => g (f a) := by
  cases x <;> rfl

theorem map_eq_error_iff {x : Except Fault α} {f : α → β} {fault : Fault} :
    x.map f = .error fault ↔ x = .error fault := by
  cases x with
  | error other =>
      constructor
      · intro h
        cases h
        rfl
      · intro h
        cases h
        rfl
  | ok a =>
      constructor
      · intro h
        cases h
      · intro h
        cases h

end Fault

end GpuTelemetry
