import GpuTelemetry.Proofs.Vendor.Calls
import GpuTelemetry.Proofs.Vendor.Enumeration
import GpuTelemetry.Proofs.Vendor.Silence

/-!
# What vendors go through

A start calls each vendor in its turn, with the mask that the devices of the
vendors before it have left. A vendor that gives no device is shut down in its
turn, and all of them are shut down at the end, after the devices are given up.
Both are rounds through the vendors, and even if they fault they call no other
ones.
-/

namespace GpuTelemetry

namespace DeviceMask

theorem after_add (mask : DeviceMask) (first second : Nat) :
    mask.after (first + second) = (mask.after first).after second := by
  induction first generalizing mask with
  | zero => rw [Nat.zero_add, after_zero]
  | succ first ih => rw [Nat.succ_add, after_succ, ih, after_succ]

end DeviceMask

namespace Vendor

/-- Whether the initialization of a vendor succeeds. -/
def starts (host : Host) : Vendor → Bool
  | amd vendor => (vendor.started? host.libraries).isSome
  | nvidia vendor => (vendor.load host.libraries host.nvml).toOption.isSome
  | simulated vendor => (host.station vendor.station).initFailure.isNone

theorem ensures_init (host : Host) (vendor : Vendor) :
    Run.Ensures (vendor.init host) fun result =>
      ∀ outcome started, result = .ok (outcome, started) →
        outcome.toOption.isSome = vendor.starts host := by
  cases vendor with
  | amd vendor =>
      refine Run.ensures_lift_bind (vendor.ensures_init host.libraries) ?_
      rintro ⟨outcome, started⟩ hstarted
      apply Run.ensures_pure
      rintro _ _ ⟨⟩
      rw [starts, ← hstarted, Option.isSome_map]
  | nvidia vendor =>
      refine (vendor.ensures_init host.libraries host.nvml).bind ?_ fun _ _ => nofun
      rintro ⟨outcome, started⟩ hstarted
      apply Run.ensures_pure
      rintro _ _ ⟨⟩
      have hsome := congrArg Option.isSome (hstarted outcome started rfl)
      rw [Option.isSome_map, Option.isSome_map] at hsome
      exact hsome
  | simulated vendor =>
      apply Run.ensures_pure
      rintro _ _ ⟨⟩
      rw [starts, Simulated.Behaviour.init]
      cases (host.station vendor.station).initFailure <;> rfl

end Vendor

/-! ## Turns -/

/-- A vendor as its turn comes at a start, with its number and the mask that is left for it. -/
structure Turn where
  index : Nat
  vendor : Vendor
  mask : DeviceMask

namespace Turn

variable (host : Host)

def devices (turn : Turn) : List GpuDevice :=
  (turn.mask.select (turn.vendor.matched host)).filterMap
    (Option.map (OpenDevice.ofVendor turn.index))

/-- The calls to a vendor that gives some devices, or none. -/
def calls (turn : Turn) (found : List GpuDevice) : List Event :=
  .vendor turn.index .init ::
    ((if turn.vendor.starts host then [.vendor turn.index .enumerate] else []) ++
      if found.isEmpty then [.vendor turn.index .shutdown] else [])

def events (turn : Turn) : List Event :=
  turn.calls host (turn.devices host)

theorem exists_call_of_mem_events {turn : Turn} {event : Event} (h : event ∈ turn.events host) :
    ∃ call, event = .vendor turn.index call := by
  rw [events, calls] at h
  rcases List.mem_cons.mp h with rfl | h
  · exact ⟨.init, rfl⟩
  rcases List.mem_append.mp h with h | h <;> split at h
  · exact ⟨.enumerate, List.mem_singleton.mp h⟩
  · cases h
  · exact ⟨.shutdown, List.mem_singleton.mp h⟩
  · cases h

theorem vendor_of_mem_devices {turn : Turn} {device : GpuDevice} (h : device ∈ turn.devices host) :
    device.vendor = turn.index := by
  obtain ⟨_, -, hdevice⟩ := List.mem_filterMap.mp h
  obtain ⟨opened, -, rfl⟩ := Option.map_eq_some_iff.mp hdevice
  rfl

end Turn

/-- The number of mask bits that some vendors take. -/
def bitsOf (host : Host) (vendors : List Vendor) : Nat :=
  (vendors.flatMap (Vendor.matched host)).length

/-- The turns of some vendors, the first of which has the number `index`. -/
def turns (host : Host) : Nat → List Vendor → DeviceMask → List Turn
  | _, [], _ => []
  | index, vendor :: vendors, mask =>
    { index, vendor, mask } ::
      turns host (index + 1) vendors (mask.after (vendor.matched host).length)

section

variable (host : Host)

theorem getElem?_turns (start : Nat) (vendors : List Vendor) (mask : DeviceMask) (i : Nat) :
    (turns host start vendors mask)[i]? = vendors[i]?.map fun vendor =>
      { index := start + i, vendor, mask := mask.after (bitsOf host (vendors.take i)) } := by
  induction vendors generalizing start mask i with
  | nil => rfl
  | cons vendor vendors ih =>
      cases i with
      | zero => simp [turns, bitsOf]
      | succ i =>
          rw [turns, List.getElem?_cons_succ, ih, List.getElem?_cons_succ, List.take_succ_cons]
          simp only [bitsOf, List.flatMap_cons, List.length_append, DeviceMask.after_add,
            Nat.add_assoc, Nat.add_comm 1 i]

theorem index_of_mem_turns {start : Nat} {vendors : List Vendor} {mask : DeviceMask} {turn : Turn}
    (h : turn ∈ turns host start vendors mask) :
    start ≤ turn.index ∧ turn.index < start + vendors.length := by
  obtain ⟨i, hi⟩ := List.mem_iff_getElem?.mp h
  rw [getElem?_turns] at hi
  obtain ⟨vendor, hvendor, rfl⟩ := Option.map_eq_some_iff.mp hi
  have hlt : i < vendors.length := (List.getElem?_eq_some_iff.mp hvendor).1
  exact ⟨Nat.le_add_right start i, by simpa using hlt⟩

/-- Of what the turns give in a row, the part that belongs to one vendor is what its own turn
gives. -/
theorem filter_flatMap_turns {γ : Type} {give : Turn → List γ} {belongs : Nat → γ → Bool}
    (hgive : ∀ turn, ∀ x ∈ give turn, ∀ i, belongs i x = (turn.index == i))
    (start : Nat) (vendors : List Vendor) (mask : DeviceMask) (i : Nat) :
    ((turns host start vendors mask).flatMap give).filter (belongs (start + i)) =
      ((turns host start vendors mask)[i]?.map give).getD [] := by
  have hown : ∀ turn, (give turn).filter (belongs turn.index) = give turn := by
    intro turn
    refine List.filter_eq_self.mpr fun x hx => ?_
    rw [hgive turn x hx, beq_self_eq_true]
  have hother : ∀ turn i, turn.index ≠ i → (give turn).filter (belongs i) = [] := by
    intro turn i hne
    refine List.filter_eq_nil_iff.mpr fun x hx => ?_
    rw [hgive turn x hx, beq_eq_false_iff_ne.mpr hne]
    exact Bool.false_ne_true
  induction vendors generalizing start mask i with
  | nil => rfl
  | cons vendor vendors ih =>
      rw [turns, List.flatMap_cons, List.filter_append]
      cases i with
      | zero =>
          -- the vendors behind the first one have larger numbers
          have hrest : ((turns host (start + 1) vendors
              (mask.after (vendor.matched host).length)).flatMap give).filter
              (belongs start) = [] := by
            refine List.filter_eq_nil_iff.mpr fun x hx => ?_
            obtain ⟨turn, hturn, hx⟩ := List.mem_flatMap.mp hx
            have hlater := (index_of_mem_turns host hturn).1
            rw [hgive turn x hx, beq_eq_false_iff_ne.mpr (Nat.ne_of_gt hlater)]
            exact Bool.false_ne_true
          rw [Nat.add_zero, hrest, List.append_nil]
          exact hown { index := start, vendor, mask }
      | succ i =>
          have hlater := ih (start + 1) (mask.after (vendor.matched host).length) i
          rw [hother _ _ (by simp), List.nil_append, List.getElem?_cons_succ, ← hlater]
          congr 2
          omega

end

/-! ## Starting and shutting down -/

theorem Device.leaves_release (device : GpuDevice) :
    Run.Leaves device.release fun _ events => events = [.deviceReleased device.vendor] := by
  rw [Device.release]
  apply Run.leaves_emit_bind rfl
  refine device.backend.silent_release.leaves.mono ?_
  rintro _ _ rfl
  rfl

def releases (devices : List GpuDevice) : List Event :=
  devices.map fun device => .deviceReleased device.vendor

theorem callsTo_releases (number : Nat) (devices : List GpuDevice) :
    callsTo number (releases devices) = [] := by
  simp [callsTo, releases, List.filterMap_map]

theorem leaves_releaseDevices (devices : List GpuDevice) :
    Run.Leaves (releaseDevices devices) fun _ events => events = releases devices := by
  induction devices with
  | nil => exact Run.leaves_pure rfl
  | cons device devices ih =>
      refine (Device.leaves_release device).bind ?_
      rintro _ _ rfl
      refine ih.mono ?_
      rintro _ _ rfl
      rfl

namespace Registry

variable (host : Host)

theorem leaves_shutdownVendor (index : Nat) (vendor : Vendor) :
    Run.Leaves (shutdownVendor index vendor) fun last events =>
      events = [.vendor index .shutdown] ∧ vendor.Undergoes index .shutdown last := by
  rw [shutdownVendor]
  apply Run.leaves_emit_bind rfl
  refine vendor.silent_shutdown.leaves_mayReturn.mono ?_
  rintro last _ ⟨rfl, hlast⟩
  exact ⟨rfl, .shutdown hlast⟩

/-- A vendor without a device to offer is shut down again. -/
theorem leaves_givenUp (index : Nat) (vendor : Vendor) (left : DeviceMask) :
    Run.Leaves
      (do return ([], left, ← shutdownVendor index vendor) :
        Run (List GpuDevice × DeviceMask × Vendor))
      fun result events => result.1 = [] ∧ events = [.vendor index .shutdown] ∧
        vendor.Undergoes index .shutdown result.2.2 := by
  refine (leaves_shutdownVendor index vendor).bind ?_
  rintro last _ ⟨rfl, hlast⟩
  exact Run.leaves_pure ⟨rfl, rfl, hlast⟩

theorem leaves_startVendor (turn : Turn) :
    Run.Leaves (startVendor host turn.index turn.vendor turn.mask) fun result events =>
      events = turn.calls host result.1 ∧
      ∃ calls, events = calls.map (Event.vendor turn.index) ∧
        turn.vendor.EvolvesTo turn.index calls result.2.2 := by
  obtain ⟨index, vendor, mask⟩ := turn
  rw [startVendor]
  apply Run.leaves_emit_bind rfl
  refine ((vendor.silent_init host).leaves_mayReturn.and (vendor.ensures_init host)).bind ?_
  rintro ⟨outcome, started⟩ _ ⟨⟨rfl, hreturned⟩, hstarts⟩
  have hinit : vendor.Undergoes index .init started := .init hreturned
  have hsome := hstarts outcome started rfl
  cases outcome with
  | error failure =>
      have hfails : vendor.starts host = false := hsome.symm
      refine (Run.keeps_lift (Traced.silent_log _ _ _)).leaves_bind fun _ => ?_
      refine (leaves_givenUp index started mask).mono ?_
      rintro ⟨found, left, last⟩ _ ⟨rfl, rfl, hlast⟩
      refine ⟨by simp [Turn.calls, hfails], [.init, .shutdown], rfl, ?_⟩
      exact .cons hinit (.cons hlast .nil)
  | ok _ =>
      have hstarts : vendor.starts host = true := hsome.symm
      apply Run.leaves_emit_bind rfl
      refine (started.silent_enumerate host index mask).leaves_mayReturn.bind ?_
      rintro ⟨outcome, left, listed⟩ _ ⟨rfl, hreturned⟩
      have hlisted : started.Undergoes index .enumerate listed := .enumerate hreturned
      -- a failed listing and an empty one end in the same way
      have hgiven : Run.Leaves
          (do return ([], left, ← shutdownVendor index listed) :
            Run (List GpuDevice × DeviceMask × Vendor))
          fun result events =>
            let made :=
              Event.vendor index .init :: ([] ++ .vendor index .enumerate :: ([] ++ events))
            made = (Turn.mk index vendor mask).calls host result.1 ∧
              ∃ calls, made = calls.map (Event.vendor index) ∧
                vendor.EvolvesTo index calls result.2.2 := by
        refine (leaves_givenUp index listed left).mono ?_
        rintro ⟨found, left, last⟩ _ ⟨rfl, rfl, hlast⟩
        refine ⟨by simp [Turn.calls, hstarts], [.init, .enumerate, .shutdown], rfl, ?_⟩
        exact .cons hinit (.cons hlisted (.cons hlast .nil))
      have hlog : ∀ level source text, Run.Silent (monadLift (log level source text) : Run Unit) :=
        fun _ _ _ => Run.keeps_lift (Traced.silent_log _ _ _)
      cases outcome with
      | error failure => exact (hlog _ _ _).leaves_bind fun _ => hgiven
      | ok found =>
          cases found with
          | nil => exact (hlog _ _ _).leaves_bind fun _ => hgiven
          | cons device found =>
              refine (hlog _ _ _).leaves_bind fun _ => Run.leaves_pure ?_
              refine ⟨by simp [Turn.calls, hstarts], [.init, .enumerate], rfl, ?_⟩
              exact .cons hinit (.cons hlisted .nil)

theorem leaves_startFrom (vendors : List Vendor) (index : Nat) (mask : DeviceMask)
    (found : List GpuDevice) :
    Run.Leaves (startFrom host index vendors mask found) fun result events =>
      Round index vendors events result.1 ∧
      result.2 = found ++ (turns host index vendors mask).flatMap (Turn.devices host) ∧
      events = (turns host index vendors mask).flatMap (Turn.events host) := by
  induction vendors generalizing index mask found with
  | nil => exact Run.leaves_pure ⟨.nil, (List.append_nil found).symm, rfl⟩
  | cons vendor vendors ih =>
      rw [startFrom, turns, List.flatMap_cons, List.flatMap_cons]
      have hresult := ensures_startVendor host (vendor.takes_matched host) index mask
      have hvendor := (leaves_startVendor host { index, vendor, mask }).and hresult
      refine (hvendor.onFault _).bind ?_
      rintro ⟨own, left, last⟩ events ⟨⟨hevents, calls, hcalls, hlast⟩, htakes⟩
      obtain ⟨hown, rfl⟩ := htakes own left last rfl
      refine (ih (index + 1) (mask.after (vendor.matched host).length) (found ++ own)).bind ?_
      rintro ⟨started, devices⟩ more ⟨hround, hdevices, hmore⟩
      refine Run.leaves_pure ⟨?_, ?_, ?_⟩
      · rw [hcalls, List.append_nil]
        exact .cons hlast hround
      · rw [hdevices, hown, List.append_assoc]
        rfl
      · rw [hevents, hmore, hown, List.append_nil]
        rfl

theorem leaves_start (registry : Registry) (mask : DeviceMask) :
    Run.Leaves (registry.start host mask) fun result events =>
      Round 0 registry.vendors events result.1.vendors ∧
      result.2 = (turns host 0 registry.vendors mask).flatMap (Turn.devices host) ∧
      events = (turns host 0 registry.vendors mask).flatMap (Turn.events host) := by
  refine (leaves_startFrom host registry.vendors 0 mask []).bind ?_
  rintro ⟨started, devices⟩ events ⟨hround, hdevices, hevents⟩
  apply Run.leaves_pure
  rw [List.append_nil]
  exact ⟨hround, hdevices, hevents⟩

/-- The calls that shut down some vendors in the order of their numbers. -/
def shutdownCalls (count : Nat) : List Event :=
  (List.range count).map fun index => .vendor index .shutdown

theorem leaves_shutdownFrom (vendors : List Vendor) (index : Nat) :
    Run.Leaves (shutdownFrom index vendors) fun after events =>
      Round index vendors events after ∧
      events = (List.range' index vendors.length).map fun index => .vendor index .shutdown := by
  induction vendors generalizing index with
  | nil => exact Run.leaves_pure ⟨.nil, rfl⟩
  | cons vendor vendors ih =>
      rw [shutdownFrom]
      refine (leaves_shutdownVendor index vendor).bind ?_
      rintro last _ ⟨rfl, hlast⟩
      refine (ih (index + 1)).bind ?_
      rintro after events ⟨hround, hevents⟩
      apply Run.leaves_pure
      rw [List.append_nil]
      refine ⟨.cons (.cons hlast .nil) hround, ?_⟩
      rw [hevents, List.length_cons, List.range'_succ]
      rfl

/-- The devices are given up before the first vendor is shut down. -/
theorem leaves_shutdown (registry : Registry) (devices : List GpuDevice) :
    Run.Leaves (registry.shutdown devices) fun after events =>
      Round 0 registry.vendors (shutdownCalls registry.vendors.length) after.vendors ∧
      events = releases devices ++ shutdownCalls registry.vendors.length := by
  rw [shutdown]
  refine (leaves_releaseDevices devices).bind ?_
  rintro _ _ rfl
  refine (leaves_shutdownFrom registry.vendors 0).bind ?_
  rintro after events ⟨hround, hevents⟩
  rw [← List.range_eq_range', ← shutdownCalls] at hevents
  refine Run.leaves_pure ⟨hevents ▸ hround, ?_⟩
  rw [List.append_nil, hevents]

end Registry

/-! ## Events of one kind -/

section

variable {kind : Event → Bool} (hnotable : ∀ event, kind event = true → event.isNotable = true)
  (hreleased : ∀ number, kind (.deviceReleased number) = false)

include hnotable hreleased

theorem Device.keeps_release (device : GpuDevice) : Run.Keeps kind device.release := by
  rw [Device.release]
  exact Run.keeps_lift_bind (Traced.keeps_emit (hreleased _)) fun _ =>
    device.backend.silent_release.mono hnotable

theorem keeps_releaseDevices (devices : List GpuDevice) :
    Run.Keeps kind (releaseDevices devices) := by
  induction devices with
  | nil => exact Run.keeps_pure ()
  | cons device devices ih => exact (device.keeps_release hnotable hreleased).bind fun _ => ih

namespace Registry

omit hreleased in
theorem keeps_shutdownVendor {number : Nat} (hcalls : ∀ call, kind (.vendor number call) = false)
    (vendor : Vendor) : Run.Keeps kind (shutdownVendor number vendor) := by
  rw [shutdownVendor]
  exact Run.keeps_lift_bind (Traced.keeps_emit (hcalls _)) fun _ =>
    vendor.silent_shutdown.mono hnotable

omit hreleased in
theorem keeps_startVendor {number : Nat} (hcalls : ∀ call, kind (.vendor number call) = false)
    (host : Host) (vendor : Vendor) (mask : DeviceMask) :
    Run.Keeps kind (startVendor host number vendor mask) := by
  have hgiven (last : Vendor) (left : DeviceMask) : Run.Keeps kind
      (do return ([], left, ← shutdownVendor number last) :
        Run (List GpuDevice × DeviceMask × Vendor)) :=
    (keeps_shutdownVendor hnotable hcalls last).bind fun _ => Run.keeps_pure _
  have hlog {α : Type} {next : Unit → Run α} {level source text}
      (hnext : Run.Keeps kind (next ())) :
      Run.Keeps kind (monadLift (log level source text) >>= next) := by
    have hsilent : Run.Silent (monadLift (log level source text) : Run Unit) :=
      Run.keeps_lift (Traced.silent_log _ _ _)
    exact (hsilent.mono hnotable).bind fun _ => hnext
  rw [startVendor]
  refine Run.keeps_lift_bind (Traced.keeps_emit (hcalls _)) fun _ => ?_
  refine ((vendor.silent_init host).mono hnotable).bind ?_
  rintro ⟨outcome, started⟩
  cases outcome with
  | error failure => exact hlog (hgiven started mask)
  | ok _ =>
      refine Run.keeps_lift_bind (Traced.keeps_emit (hcalls _)) fun _ => ?_
      refine ((started.silent_enumerate host number mask).mono hnotable).bind ?_
      rintro ⟨outcome, left, last⟩
      cases outcome with
      | error failure => exact hlog (hgiven last left)
      | ok found =>
          cases found with
          | nil => exact hlog (hgiven last left)
          | cons device found => exact hlog (Run.keeps_pure _)

theorem keeps_startFrom {vendors : List Vendor} {number : Nat}
    (hcalls : ∀ i < number + vendors.length, ∀ call, kind (.vendor i call) = false) (host : Host)
    (mask : DeviceMask) (found : List GpuDevice) :
    Run.Keeps kind (startFrom host number vendors mask found) := by
  induction vendors generalizing number mask found with
  | nil => exact Run.keeps_pure _
  | cons vendor vendors ih =>
      rw [List.length_cons] at hcalls
      have hvendor := keeps_startVendor hnotable (hcalls number (by omega)) host vendor mask
      rw [startFrom]
      refine (hvendor.onFault (keeps_releaseDevices hnotable hreleased found)).bind ?_
      rintro ⟨own, left, last⟩
      refine (ih ?_ left (found ++ own)).bind fun _ => Run.keeps_pure _
      intro i hi
      exact hcalls i (by omega)

/-- A start leaves calls to the vendors that there are, even if it faults. -/
theorem keeps_start {registry : Registry}
    (hcalls : ∀ i < registry.vendors.length, ∀ call, kind (.vendor i call) = false) (host : Host)
    (mask : DeviceMask) : Run.Keeps kind (registry.start host mask) := by
  rw [start]
  refine (keeps_startFrom hnotable hreleased ?_ host mask []).bind fun _ => Run.keeps_pure _
  rwa [Nat.zero_add]

omit hreleased in
theorem keeps_shutdownFrom {vendors : List Vendor} {number : Nat}
    (hcalls : ∀ i < number + vendors.length, ∀ call, kind (.vendor i call) = false) :
    Run.Keeps kind (shutdownFrom number vendors) := by
  induction vendors generalizing number with
  | nil => exact Run.keeps_pure _
  | cons vendor vendors ih =>
      rw [List.length_cons] at hcalls
      rw [shutdownFrom]
      refine (keeps_shutdownVendor hnotable (hcalls number (by omega)) vendor).bind fun _ => ?_
      refine (ih ?_).bind fun _ => Run.keeps_pure _
      intro i hi
      exact hcalls i (by omega)

theorem keeps_shutdown {registry : Registry}
    (hcalls : ∀ i < registry.vendors.length, ∀ call, kind (.vendor i call) = false)
    (devices : List GpuDevice) : Run.Keeps kind (registry.shutdown devices) := by
  rw [shutdown]
  refine (keeps_releaseDevices hnotable hreleased devices).bind fun _ => ?_
  refine (keeps_shutdownFrom hnotable ?_).bind fun _ => Run.keeps_pure _
  rwa [Nat.zero_add]

end Registry

end

end GpuTelemetry
