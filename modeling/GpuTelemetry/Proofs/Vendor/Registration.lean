import GpuTelemetry.Proofs.Vendor.Lifecycle
import Mathlib.Data.Finset.Card

/-!
# Registrations

A registry grows by the vendors whose names are new to it, and whatever else is done
with it keeps the names and their numbers. So each name has one number for good, and
the vendor with that number is the first one that was registered under the name,
after the calls that the trace tells. A vendor that came later under the same name
might as well have been any other one.
-/

namespace GpuTelemetry.Registry

/-- What is done with a registry, or with devices that came from it. -/
inductive Act
  | register (vendor : Vendor)
  | start (host : Host) (mask : DeviceMask)
  | release (devices : List GpuDevice)
  | shutdown (devices : List GpuDevice)

/-- Does what there is to do, and gives the number of the vendor if one is registered. -/
def act (registry : Registry) : Act → Run (Registry × List Nat)
  | .register vendor => do
    let (registry, number) ← registry.register vendor
    return (registry, [number])
  | .start host mask => do
    let (registry, _) ← registry.start host mask
    return (registry, [])
  | .release devices => do
    releaseDevices devices
    return (registry, [])
  | .shutdown devices => do return (← registry.shutdown devices, [])

/-- Does one thing after the other, and gives the numbers of all registrations. -/
def perform : List Act → Registry → Run (Registry × List Nat)
  | [], registry => return (registry, [])
  | first :: rest, registry => do
    let (registry, given) ← registry.act first
    let (registry, numbers) ← perform rest registry
    return (registry, given ++ numbers)

def Act.vendor? : Act → Option Vendor
  | register vendor => some vendor
  | _ => none

/-- The vendors that are registered, whether or not their names are new. -/
def registered (acts : List Act) : List Vendor :=
  acts.filterMap Act.vendor?

theorem registered_cons (first : Act) (rest : List Act) :
    registered (first :: rest) = first.vendor?.toList ++ registered rest := by
  rw [registered, registered, List.filterMap_cons]
  cases first.vendor? <;> rfl

def names (registry : Registry) : List String :=
  registry.vendors.map Vendor.name

/-! ## Numbers of names -/

theorem find?_eq (registry : Registry) (name : String) :
    registry.find? name =
      if name ∈ registry.names then some (registry.names.idxOf name) else none := by
  rw [find?, names]
  induction registry.vendors with
  | nil => rfl
  | cons vendor vendors ih =>
      rw [List.findIdx?_cons, ih, List.map_cons, List.idxOf_cons]
      by_cases h : vendor.name = name
      · simp [h]
      · have hbeq : (vendor.name == name) = false := beq_eq_false_iff_ne.mpr h
        by_cases hmem : name ∈ vendors.map Vendor.name <;> simp [h, Ne.symm h, hbeq, hmem]

section

variable {registry : Registry} {vendor : Vendor}

theorem register_of_mem (h : vendor.name ∈ registry.names) (trace : List Event) :
    (StateT.run (registry.register vendor) trace).1 =
      (registry, registry.names.idxOf vendor.name) := by
  rw [register, find?_eq, if_pos h]
  rfl

theorem register_of_not_mem (h : vendor.name ∉ registry.names) (trace : List Event) :
    (StateT.run (registry.register vendor) trace).1 =
      ({ vendors := registry.vendors ++ [vendor] }, registry.vendors.length) := by
  rw [register, find?_eq, if_neg h]
  rfl

/-- Of a vendor whose name is taken nothing but the name matters. -/
theorem register_congr {other : Vendor} (h : vendor.name ∈ registry.names)
    (hname : other.name = vendor.name) : registry.register other = registry.register vendor := by
  rw [register, register, hname, find?_eq, if_pos h]

theorem silent_register : Traced.Silent (registry.register vendor) := by
  rw [register]
  split
  · exact (Traced.silent_log _ _ _).bind fun _ => Traced.keeps_pure _
  · exact Traced.keeps_pure _

end

/-! ## What registrations come to -/

/-- How a registry stands after the registrations of some vendors, which gave them these numbers,
and after the calls in a trace. -/
structure Represents (registry : Registry) (vendors : List Vendor) (numbers : List Nat)
    (trace : List Event) : Prop where
  nodup : registry.names.Nodup
  mem_names : ∀ name, name ∈ registry.names ↔ name ∈ vendors.map Vendor.name
  numbers : numbers = vendors.map fun vendor => registry.names.idxOf vendor.name
  kept : ∀ number kept, registry.vendors[number]? = some kept →
    ∃ first, vendors.find? (fun vendor => vendor.name = kept.name) = some first ∧
      first.EvolvesTo number (callsTo number trace) kept
  uncalled : ∀ number, registry.vendors.length ≤ number → callsTo number trace = []

theorem represents_new : Represents {} [] [] [] :=
  ⟨List.nodup_nil, fun _ => Iff.rfl, rfl, by simp, fun _ _ => rfl⟩

namespace Represents

variable {registry after : Registry} {vendors : List Vendor} {numbers : List Nat}
  {trace more : List Event} {vendor : Vendor}

theorem of_callsTo (h : registry.Represents vendors numbers trace)
    (hmore : ∀ number, callsTo number more = callsTo number trace) :
    registry.Represents vendors numbers more := by
  refine ⟨h.nodup, h.mem_names, h.numbers, ?_, ?_⟩
  · intro number kept hkept
    rw [hmore]
    exact h.kept number kept hkept
  · intro number hnumber
    rw [hmore]
    exact h.uncalled number hnumber

theorem releases (h : registry.Represents vendors numbers trace) (devices : List GpuDevice) :
    registry.Represents vendors numbers (trace ++ GpuTelemetry.releases devices) := by
  refine h.of_callsTo fun number => ?_
  rw [callsTo_append, callsTo_releases, List.append_nil]

theorem round (h : registry.Represents vendors numbers trace)
    (hround : Round 0 registry.vendors more after.vendors) :
    after.Represents vendors numbers (trace ++ more) := by
  have hnames : after.names = registry.names := hround.map_name
  refine ⟨hnames ▸ h.nodup, hnames ▸ h.mem_names, hnames ▸ h.numbers, ?_, ?_⟩
  · intro number kept hkept
    obtain ⟨vendor, hvendor, hevolves⟩ := hround.evolvesTo hkept
    obtain ⟨first, hfirst, hbefore⟩ := h.kept number vendor hvendor
    rw [Nat.zero_add] at hevolves
    rw [hevolves.name, callsTo_append]
    exact ⟨first, hfirst, hbefore.append hevolves⟩
  · intro number hnumber
    have hlength : after.vendors.length = registry.vendors.length := by
      have hlength := congrArg List.length hnames
      rwa [names, names, List.length_map, List.length_map] at hlength
    rw [hlength] at hnumber
    rw [callsTo_append, h.uncalled number hnumber,
      hround.callsTo_eq_nil (.inr ((Nat.zero_add _).symm ▸ hnumber))]
    rfl

/-- A name that is registered again keeps its number and its vendor. -/
theorem register_again (h : registry.Represents vendors numbers trace)
    (hmem : vendor.name ∈ registry.names) :
    registry.Represents (vendors ++ [vendor])
      (numbers ++ [registry.names.idxOf vendor.name]) trace := by
  refine ⟨h.nodup, ?_, ?_, ?_, h.uncalled⟩
  · intro name
    rw [h.mem_names, List.map_append, List.mem_append, List.map_singleton, List.mem_singleton]
    constructor
    · exact .inl
    · rintro (hname | rfl)
      · exact hname
      · exact (h.mem_names _).mp hmem
  · rw [List.map_append, ← h.numbers, List.map_singleton]
  · intro number kept hkept
    obtain ⟨first, hfirst, hevolves⟩ := h.kept number kept hkept
    refine ⟨first, ?_, hevolves⟩
    rw [List.find?_append, hfirst, Option.some_or]

/-- A new name gets the next number. -/
theorem register_new (h : registry.Represents vendors numbers trace)
    (hnew : vendor.name ∉ registry.names) :
    Represents { vendors := registry.vendors ++ [vendor] } (vendors ++ [vendor])
      (numbers ++ [registry.vendors.length]) trace := by
  have hnames : names { vendors := registry.vendors ++ [vendor] } =
      registry.names ++ [vendor.name] := by
    rw [names, List.map_append, List.map_singleton, names]
  have hlength : registry.names.length = registry.vendors.length := List.length_map _
  refine ⟨?_, ?_, ?_, ?_, ?_⟩
  · rw [hnames]
    exact List.nodup_append_comm.mp (List.nodup_cons.mpr ⟨hnew, h.nodup⟩)
  · intro name
    rw [hnames, List.mem_append, h.mem_names, List.map_append, List.map_singleton,
      List.mem_append]
  · have hold : ∀ other ∈ vendors, registry.names.idxOf other.name =
        (registry.names ++ [vendor.name]).idxOf other.name := by
      intro other hother
      have hmem : other.name ∈ registry.names := (h.mem_names _).mpr (List.mem_map_of_mem hother)
      rw [List.idxOf_append_of_mem hmem]
    have hself : (registry.names ++ [vendor.name]).idxOf vendor.name =
        registry.vendors.length := by
      rw [List.idxOf_append_of_notMem hnew, List.idxOf_cons_self, Nat.add_zero, hlength]
    rw [hnames, List.map_append, List.map_singleton, hself, h.numbers, List.map_congr_left hold]
  · intro number kept hkept
    rw [List.find?_append]
    rw [List.getElem?_append] at hkept
    split at hkept
    next hlt =>
      obtain ⟨first, hfirst, hevolves⟩ := h.kept number kept hkept
      exact ⟨first, by rw [hfirst, Option.some_or], hevolves⟩
    next hge =>
      rw [List.getElem?_singleton] at hkept
      split at hkept
      next =>
        cases hkept
        have hnone : vendors.find? (fun other => other.name = vendor.name) = none := by
          rw [List.find?_eq_none]
          intro other hother heq
          have hname : other.name ∈ vendors.map Vendor.name := List.mem_map_of_mem hother
          rw [of_decide_eq_true heq] at hname
          exact hnew ((h.mem_names _).mpr hname)
        rw [hnone, h.uncalled number (Nat.not_lt.mp hge)]
        exact ⟨vendor, by simp, .nil⟩
      next => cases hkept
  · intro number hnumber
    rw [List.length_append, List.length_singleton] at hnumber
    exact h.uncalled number (Nat.le_of_succ_le hnumber)

theorem register (h : registry.Represents vendors numbers trace) (vendor : Vendor) :
    Traced.Ensures (registry.register vendor) fun result =>
      result.1.Represents (vendors ++ [vendor]) (numbers ++ [result.2]) trace := by
  intro before
  by_cases hmem : vendor.name ∈ registry.names
  · rw [register_of_mem hmem]
    exact h.register_again hmem
  · rw [register_of_not_mem hmem]
    exact h.register_new hmem

theorem act (h : registry.Represents vendors numbers trace) (first : Act) :
    Run.Leaves (registry.act first) fun result events =>
      result.1.Represents (vendors ++ first.vendor?.toList) (numbers ++ result.2)
        (trace ++ events) := by
  cases first with
  | register vendor =>
      have hregister : Run.Leaves (monadLift (registry.register vendor) : Run (Registry × Nat))
          fun result events => events = [] ∧
            result.1.Represents (vendors ++ [vendor]) (numbers ++ [result.2]) trace := by
        have hsilent : Run.Silent (monadLift (registry.register vendor) : Run (Registry × Nat)) :=
          Run.keeps_lift silent_register
        have hresult : Run.ReturnsOnly
            (monadLift (registry.register vendor) : Run (Registry × Nat)) fun result =>
              result.1.Represents (vendors ++ [vendor]) (numbers ++ [result.2]) trace := by
          rintro before _ ⟨⟩
          exact h.register vendor before
        refine (hsilent.leaves.and hresult).mono ?_
        rintro result events ⟨hnone, hafter⟩
        exact ⟨hnone, hafter result rfl⟩
      refine hregister.bind ?_
      rintro ⟨after, number⟩ _ ⟨rfl, hafter⟩
      apply Run.leaves_pure
      rw [List.append_nil, List.append_nil]
      exact hafter
  | start host mask =>
      refine (leaves_start host registry mask).bind ?_
      rintro ⟨after, devices⟩ events ⟨hround, -, -⟩
      apply Run.leaves_pure
      simp only [Act.vendor?, Option.toList_none, List.append_nil]
      exact h.round hround
  | release devices =>
      refine (leaves_releaseDevices devices).bind ?_
      rintro _ _ rfl
      apply Run.leaves_pure
      simp only [Act.vendor?, Option.toList_none, List.append_nil]
      exact h.releases devices
  | shutdown devices =>
      refine (registry.leaves_shutdown devices).bind ?_
      rintro after _ ⟨hround, rfl⟩
      apply Run.leaves_pure
      simp only [Act.vendor?, Option.toList_none, List.append_nil]
      rw [← List.append_assoc]
      exact (h.releases devices).round hround

theorem perform (h : registry.Represents vendors numbers trace) (acts : List Act) :
    Run.Leaves (perform acts registry) fun result events =>
      result.1.Represents (vendors ++ registered acts) (numbers ++ result.2)
        (trace ++ events) := by
  induction acts generalizing registry vendors numbers trace with
  | nil =>
      apply Run.leaves_pure
      rw [registered, List.filterMap_nil, List.append_nil, List.append_nil, List.append_nil]
      exact h
  | cons first rest ih =>
      rw [Registry.perform]
      refine (h.act first).bind ?_
      rintro ⟨middle, given⟩ events hmiddle
      refine (ih hmiddle).bind ?_
      rintro ⟨last, later⟩ more hlast
      apply Run.leaves_pure
      rw [List.append_nil, ← List.append_assoc, ← List.append_assoc]
      rw [registered_cons, ← List.append_assoc]
      exact hlast

end Represents

theorem perform_append (before after : List Act) (registry : Registry) :
    perform (before ++ after) registry = (do
      let (registry, given) ← perform before registry
      let (registry, numbers) ← perform after registry
      return (registry, given ++ numbers)) := by
  induction before generalizing registry with
  | nil => simp [perform]
  | cons first rest ih => simp [perform, ih]

/-- Instead of a vendor whose name is taken any other one of that name can be registered. -/
theorem perform_congr {before : List Act} {vendor other : Vendor}
    (h : vendor.name ∈ (registered before).map Vendor.name) (hname : other.name = vendor.name)
    (after : List Act) :
    perform (before ++ .register other :: after) {} =
      perform (before ++ .register vendor :: after) {} := by
  rw [perform_append, perform_append]
  funext trace
  change StateT.run (ExceptT.run _) trace = StateT.run (ExceptT.run _) trace
  rw [Run.run_bind, Run.run_bind]
  cases hbefore : StateT.run (ExceptT.run (perform before {})) trace with
  | mk result middle =>
      cases result with
      | error fault => rfl
      | ok reached =>
          obtain ⟨registry, given⟩ := reached
          obtain ⟨events, -, hregistry⟩ := represents_new.perform before _ _ _ hbefore
          have hmem : vendor.name ∈ registry.names := (hregistry.mem_names _).mpr h
          have hact : registry.act (.register other) = registry.act (.register vendor) := by
            rw [act, act, register_congr hmem hname]
          dsimp only
          rw [perform, perform, hact]

/-- Whether an event is a call to a vendor with a number from `count` on. -/
def isCallFrom (count : Nat) : Event → Bool
  | .vendor number _ => decide (count ≤ number)
  | _ => false

theorem isNotable_of_isCallFrom (count : Nat) (event : Event) (h : isCallFrom count event = true) :
    event.isNotable = true := by
  cases event with
  | vendor number call => rfl
  | _ => cases h

theorem keeps_act {registry : Registry} {count : Nat} (h : registry.vendors.length ≤ count)
    (first : Act) : Run.Keeps (isCallFrom count) (registry.act first) := by
  have hnotable := isNotable_of_isCallFrom count
  have hreleased : ∀ number, isCallFrom count (.deviceReleased number) = false := fun _ => rfl
  have hcalls : ∀ i < registry.vendors.length, ∀ call,
      isCallFrom count (.vendor i call) = false :=
    fun i hi call => decide_eq_false (Nat.not_le.mpr (Nat.lt_of_lt_of_le hi h))
  cases first with
  | register vendor =>
      have hsilent : Run.Silent (monadLift (registry.register vendor) : Run (Registry × Nat)) :=
        Run.keeps_lift silent_register
      exact (hsilent.mono hnotable).bind fun _ => Run.keeps_pure _
  | start host mask =>
      exact (keeps_start hnotable hreleased hcalls host mask).bind fun _ => Run.keeps_pure _
  | release devices =>
      exact (keeps_releaseDevices hnotable hreleased devices).bind fun _ => Run.keeps_pure _
  | shutdown devices =>
      exact (keeps_shutdown hnotable hreleased hcalls devices).bind fun _ => Run.keeps_pure _

namespace Represents

variable {registry : Registry} {vendors : List Vendor} {numbers : List Nat} {trace : List Event}

theorem numbers_eq (h : registry.Represents vendors numbers trace) :
    numbers = (vendors.map Vendor.name).map (registry.names.idxOf ·) := by
  rw [h.numbers, List.map_map]
  rfl

theorem length_eq_card (h : registry.Represents vendors numbers trace) :
    registry.vendors.length = (vendors.map Vendor.name).toFinset.card := by
  have hsame : (vendors.map Vendor.name).toFinset = registry.names.toFinset := by
    ext name
    rw [List.mem_toFinset, List.mem_toFinset, h.mem_names]
  rw [hsame, List.toFinset_card_of_nodup h.nodup, names, List.length_map]

theorem vendorName_idxOf (h : registry.Represents vendors numbers trace) {name : String}
    (hname : name ∈ vendors.map Vendor.name) :
    registry.names.idxOf name < registry.vendors.length ∧
      registry.vendorName (registry.names.idxOf name) = name := by
  have hmem : name ∈ registry.names := (h.mem_names name).mpr hname
  constructor
  · have hlt := List.idxOf_lt_length_iff.mpr hmem
    rwa [names, List.length_map] at hlt
  · have hget : registry.names[registry.names.idxOf name]? = some name := List.getElem?_idxOf hmem
    rw [names, List.getElem?_map] at hget
    rw [vendorName, names, hget, Option.getD_some]

/-- Only numbers that were given are called, even if the run faults. -/
theorem keeps_perform (h : registry.Represents vendors numbers trace) (acts : List Act)
    {count : Nat}
    (hcount : ((vendors ++ registered acts).map Vendor.name).toFinset.card ≤ count) :
    Run.Keeps (isCallFrom count) (Registry.perform acts registry) := by
  induction acts generalizing registry vendors numbers trace with
  | nil => exact Run.keeps_pure _
  | cons first rest ih =>
      have hlength : registry.vendors.length ≤ count := by
        rw [h.length_eq_card]
        refine (Finset.card_le_card ?_).trans hcount
        intro name hname
        rw [List.mem_toFinset] at hname ⊢
        rw [List.map_append]
        exact List.mem_append_left _ hname
      rw [registered_cons, ← List.append_assoc] at hcount
      rw [Registry.perform]
      refine (keeps_act hlength first).bind_leaves (h.act first) ?_
      rintro ⟨middle, given⟩ events hmiddle
      exact (ih hmiddle hcount).bind fun _ => Run.keeps_pure _

end Represents

/-- Whatever else is done between the registrations, a registry has one vendor for each name that
was registered, and every registration of a name gives the same number, which has that name from
then on. The vendor with a number is what the calls to this number in the trace have made of the
vendor that was the first of its name, and there are no other calls, even if the run faults. A
vendor whose name was taken when it was registered could have been any other vendor of that name:
the numbers, the vendors that are kept, the trace and the fault of a run would be the same. -/
theorem registrations_of_perform :
    (∀ acts : List Act,
      let given := (registered acts).map Vendor.name
      let (result, trace) := StateT.run (ExceptT.run (perform acts {})) []
      (∀ number call, .vendor number call ∈ trace → number < given.toFinset.card) ∧
      ∀ registry numbers, result = .ok (registry, numbers) →
        (registry.vendors.map Vendor.name).Nodup ∧
        registry.vendors.length = given.toFinset.card ∧
        numbers.length = given.length ∧
        (∀ i j : Nat, given[i]? = given[j]? → numbers[i]? = numbers[j]?) ∧
        (∀ (i : Nat) name number, given[i]? = some name → numbers[i]? = some number →
          number < registry.vendors.length ∧ registry.vendorName number = name) ∧
        ∀ number kept, registry.vendors[number]? = some kept →
          ∃ first, (registered acts).find? (fun vendor => vendor.name = kept.name) = some first ∧
            first.EvolvesTo number (callsTo number trace) kept) ∧
    ∀ (before after : List Act) (vendor other : Vendor),
      vendor.name ∈ (registered before).map Vendor.name → other.name = vendor.name →
      perform (before ++ .register other :: after) {} =
        perform (before ++ .register vendor :: after) {} := by
  refine ⟨?_, fun before after vendor other h hname => perform_congr h hname after⟩
  intro acts given
  have hcalls := represents_new.keeps_perform acts (le_refl given.toFinset.card) []
  cases hrun : StateT.run (ExceptT.run (perform acts {})) [] with
  | mk result trace =>
      rw [hrun] at hcalls
      refine ⟨?_, ?_⟩
      · intro number call hmem
        by_contra hge
        have hkept : .vendor number call ∈ trace.filter (isCallFrom given.toFinset.card) :=
          List.mem_filter.mpr ⟨hmem, decide_eq_true (Nat.not_lt.mp hge)⟩
        rw [hcalls] at hkept
        cases hkept
      · rintro registry numbers rfl
        obtain ⟨events, htrace, hevents⟩ := represents_new.perform acts _ _ _ hrun
        have hregistry : registry.Represents (registered acts) numbers trace := by
          refine hevents.of_callsTo fun number => ?_
          rw [← callsTo_lifecycle, htrace]
          rfl
        have hnumbers : numbers = given.map (registry.names.idxOf ·) := hregistry.numbers_eq
        refine ⟨hregistry.nodup, hregistry.length_eq_card, ?_, ?_, ?_, hregistry.kept⟩
        · rw [hnumbers, List.length_map]
        · intro i j hsame
          have hboth := congrArg (Option.map (registry.names.idxOf ·)) hsame
          rwa [← List.getElem?_map, ← List.getElem?_map, ← hnumbers] at hboth
        · intro i name number hname hnumber
          rw [hnumbers, List.getElem?_map, hname] at hnumber
          cases hnumber
          exact hregistry.vendorName_idxOf (List.mem_of_getElem? hname)

/-- The second vendor of the name cannot be initialized, and never is. -/
theorem registrations_of_two_names :
    let host : Host :=
      { libraries := { path := "/lib" }
        drm := { count := 0 }
        nvml := { count := .ok 0 }
        simulated :=
          [{ devices := [{}] }, { initFailure := some "gone" },
            { enumerationFailure := some "busy" }]
        procfs := fun path => { path } }
    let before : List Act := [.register (.simulated ⟨"a", 0⟩), .start host .all]
    let after : List Act :=
      [.register (.simulated ⟨"b", 2⟩), .start host .all, .register (.simulated ⟨"b", 0⟩),
        .shutdown []]
    let acts := before ++ .register (.simulated ⟨"a", 1⟩) :: after
    ∃ registry trace,
      StateT.run (ExceptT.run (perform acts {})) [] = (.ok (registry, [0, 0, 1, 1]), trace) ∧
      registry.vendors.length = 2 ∧ registry.vendorName 0 = "a" ∧
      (Vendor.simulated ⟨"a", 0⟩).EvolvesTo 0
        [.init, .enumerate, .init, .enumerate, .shutdown] (.simulated ⟨"a", 0⟩) ∧
      perform (before ++ .register (.simulated ⟨"a", 0⟩) :: after) {} = perform acts {} := by
  intro host before after acts
  obtain ⟨hruns, hduplicates⟩ := registrations_of_perform
  have hcalls : callsTo 0 (StateT.run (ExceptT.run (perform acts {})) []).2 =
      [.init, .enumerate, .init, .enumerate, .shutdown] := by decide
  have hrun : ∃ registry trace,
      StateT.run (ExceptT.run (perform acts {})) [] = (.ok (registry, [0, 0, 1, 1]), trace) ∧
      registry.vendors[0]? = some (.simulated ⟨"a", 0⟩) ∧
      callsTo 0 trace = [.init, .enumerate, .init, .enumerate, .shutdown] :=
    ⟨_, _, rfl, rfl, hcalls⟩
  obtain ⟨registry, trace, hrun, hkept, htrace⟩ := hrun
  have hacts := hruns acts
  rw [hrun] at hacts
  obtain ⟨-, hlength, -, -, hnames, hevolves⟩ := hacts.2 registry _ rfl
  obtain ⟨first, hfirst, hmade⟩ := hevolves 0 _ hkept
  cases hfirst
  rw [htrace] at hmade
  refine ⟨registry, trace, hrun, hlength.trans (by decide), (hnames 1 "a" 0 rfl rfl).2, hmade, ?_⟩
  exact hduplicates before after (.simulated ⟨"a", 1⟩) (.simulated ⟨"a", 0⟩)
    List.mem_cons_self rfl

end GpuTelemetry.Registry
