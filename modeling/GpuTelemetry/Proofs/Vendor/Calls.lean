import GpuTelemetry.Proofs.Lifecycle
import GpuTelemetry.Proofs.Vendor.Endurance

/-!
# What calls make of vendors

A vendor is known by what was made of it: each call that returns leaves the vendor
that the next call goes to. In a round, which goes from vendor to vendor, the calls
with the number of a vendor are the ones that have made the vendor at that number of
the one that was there.
-/

namespace GpuTelemetry

/-- The computation returns this result in some circumstances. -/
def Run.MayReturn {α : Type} (body : Run α) (a : α) : Prop :=
  ∃ trace after, StateT.run (ExceptT.run body) trace = (.ok a, after)

theorem Run.Keeps.leaves_mayReturn {α : Type} {body : Run α} (h : Run.Silent body) :
    Run.Leaves body fun a events => events = [] ∧ body.MayReturn a := by
  intro trace a after hrun
  obtain ⟨events, hevents, hnone⟩ := h.leaves trace a after hrun
  exact ⟨events, hevents, hnone, trace, after, hrun⟩

theorem Run.ReturnsOnly.of_mayReturn {α : Type} {P : α → Prop} {body : Run α} {a : α}
    (h : Run.ReturnsOnly body P) (ha : body.MayReturn a) : P a := by
  obtain ⟨trace, after, hrun⟩ := ha
  refine h trace a ?_
  rw [hrun]

namespace Vendor

/-- What a call that returns makes of the vendor with a number. -/
inductive Undergoes (number : Nat) (vendor : Vendor) : VendorCall → Vendor → Prop
  | init {host : Host} {outcome : Except Failure Unit} {started : Vendor}
    (h : (vendor.init host).MayReturn (outcome, started)) : Undergoes number vendor .init started
  | enumerate {host : Host} {mask left : DeviceMask}
    {outcome : Except Failure (List GpuDevice)} {listed : Vendor}
    (h : (vendor.enumerate host number mask).MayReturn (outcome, left, listed)) :
    Undergoes number vendor .enumerate listed
  | shutdown {last : Vendor} (h : vendor.shutdown.MayReturn last) :
    Undergoes number vendor .shutdown last

/-- What some calls make of a vendor, each of which goes to what the one before it has left. -/
inductive EvolvesTo (number : Nat) : Vendor → List VendorCall → Vendor → Prop
  | nil {vendor : Vendor} : EvolvesTo number vendor [] vendor
  | cons {vendor next last : Vendor} {call : VendorCall} {calls : List VendorCall}
    (h : vendor.Undergoes number call next) (hrest : EvolvesTo number next calls last) :
    EvolvesTo number vendor (call :: calls) last

variable {number : Nat} {vendor next last : Vendor}

theorem Undergoes.name {call : VendorCall} (h : vendor.Undergoes number call next) :
    next.name = vendor.name := by
  cases h with
  | init h => exact (vendor.returnsOnly_init_name _).of_mayReturn h
  | enumerate h => exact (vendor.returnsOnly_enumerate_name _ number _).of_mayReturn h
  | shutdown h => exact (vendor.returnsOnly_shutdown.of_mayReturn h).2

namespace EvolvesTo

theorem name {calls : List VendorCall} (h : vendor.EvolvesTo number calls last) :
    last.name = vendor.name := by
  induction h with
  | nil => rfl
  | cons h _ ih => rw [ih, h.name]

theorem append {calls more : List VendorCall} (h : vendor.EvolvesTo number calls next)
    (hmore : next.EvolvesTo number more last) : vendor.EvolvesTo number (calls ++ more) last := by
  induction h with
  | nil => exact hmore
  | cons h _ ih => exact .cons h (ih hmore)

end EvolvesTo

end Vendor

/-! ## The calls in a trace -/

/-- The calls in a trace to the vendor with a number. -/
def callsTo (number : Nat) (trace : List Event) : List VendorCall :=
  trace.filterMap fun
    | .vendor other call => if other = number then some call else none
    | _ => none

theorem callsTo_append (number : Nat) (first second : List Event) :
    callsTo number (first ++ second) = callsTo number first ++ callsTo number second :=
  List.filterMap_append

theorem callsTo_lifecycle (number : Nat) (trace : List Event) :
    callsTo number (lifecycle trace) = callsTo number trace := by
  rw [callsTo, lifecycle, List.filterMap_filter]
  congr 1
  funext event
  cases event <;> rfl

theorem callsTo_map_vendor (number other : Nat) (calls : List VendorCall) :
    callsTo number (calls.map (Event.vendor other)) = if other = number then calls else [] := by
  rw [callsTo, List.filterMap_map]
  split
  next heq => simp [heq]
  next hne => simp [hne]

/-! ## Rounds -/

/-- The calls of a round through some vendors, the first of which has a number, and what becomes of
each. -/
inductive Round : Nat → List Vendor → List Event → List Vendor → Prop
  | nil {number : Nat} : Round number [] [] []
  | cons {number : Nat} {vendor last : Vendor} {calls : List VendorCall} {events : List Event}
    {vendors lasts : List Vendor} (h : vendor.EvolvesTo number calls last)
    (hrest : Round (number + 1) vendors events lasts) :
    Round number (vendor :: vendors) (calls.map (Event.vendor number) ++ events) (last :: lasts)

namespace Round

variable {number : Nat} {vendors lasts : List Vendor} {events : List Event}

theorem length_eq (h : Round number vendors events lasts) : lasts.length = vendors.length := by
  induction h with
  | nil => rfl
  | cons _ _ ih => rw [List.length_cons, List.length_cons, ih]

theorem map_name (h : Round number vendors events lasts) :
    lasts.map Vendor.name = vendors.map Vendor.name := by
  induction h with
  | nil => rfl
  | cons h _ ih => rw [List.map_cons, List.map_cons, h.name, ih]

/-- A round calls no vendor with a number outside of it. -/
theorem callsTo_eq_nil (h : Round number vendors events lasts) {other : Nat}
    (hother : other < number ∨ number + vendors.length ≤ other) : callsTo other events = [] := by
  induction h with
  | nil => rfl
  | cons h _ ih =>
      rw [List.length_cons] at hother
      rw [callsTo_append, callsTo_map_vendor, if_neg (by omega), ih (by omega)]
      rfl

theorem evolvesTo (h : Round number vendors events lasts) {i : Nat} {last : Vendor}
    (hlast : lasts[i]? = some last) :
    ∃ vendor, vendors[i]? = some vendor ∧
      vendor.EvolvesTo (number + i) (callsTo (number + i) events) last := by
  induction h generalizing i with
  | nil => cases hlast
  | @cons number vendor _ calls _ _ _ h hrest ih =>
      rw [callsTo_append, callsTo_map_vendor]
      cases i with
      | zero =>
          cases hlast
          refine ⟨vendor, rfl, ?_⟩
          rw [Nat.add_zero, if_pos rfl, hrest.callsTo_eq_nil (.inl (Nat.lt_succ_self number)),
            List.append_nil]
          exact h
      | succ i =>
          obtain ⟨other, hother, hevolves⟩ := ih hlast
          refine ⟨other, hother, ?_⟩
          rw [if_neg (by omega), List.nil_append, Nat.add_comm i, ← Nat.add_assoc]
          exact hevolves

end Round

end GpuTelemetry
