import GpuTelemetry.Proofs.Amd.Enumeration
import GpuTelemetry.Proofs.Nvidia.Enumeration
import GpuTelemetry.Vendor.Registry

/-!
# Enumerating the devices of all vendors

The devices that the vendors meet are numbered in the order of registration, and
then as each vendor meets its own. A vendor that cannot be initialized or cannot
list its devices meets none. What a start collects is what the mask selects from
this one list, less the devices that fail to open.
-/

namespace GpuTelemetry

/-- What opening a device gives, before it is handed to the vendor it belongs to. -/
structure OpenDevice where
  /-- The address for which the device reads fdinfo texts, if it does. -/
  address : Option (List Char)
  backend : Backend

def OpenDevice.ofVendor (index : Nat) (opened : OpenDevice) : GpuDevice :=
  { vendor := index
    fdinfo := opened.address.map fun address => { address }
    backend := opened.backend }

theorem OpenDevice.map_ofVendor {α : Type} (open? : α → OpenDevice) (index : Nat)
    (mask : DeviceMask) (devices : List (Option α)) :
    ((mask.select devices).filterMap id).map (fun found => (open? found).ofVendor index) =
      (mask.select (devices.map (Option.map open?))).filterMap
        (Option.map (OpenDevice.ofVendor index)) := by
  rw [DeviceMask.select_map, List.filterMap_map, List.map_filterMap]
  congr 1
  funext device
  exact (Option.map_map (OpenDevice.ofVendor index) open? device).symm

/-- What each AMD device gives, if the vendor can be initialized and can list its devices. -/
def Amd.Vendor.offers (host : Host) (vendor : Amd.Vendor) : Option (List (Option Found)) := do
  let started ← vendor.started? host.libraries
  let listed ← host.drm.listed?
  some ((Drm.amdDevices listed).map fun (device, index) =>
    device.found? started.contexts host.pciDirectory index)

/-- What each NVIDIA device gives, if the vendor can be initialized and can count its devices. -/
def Nvidia.Vendor.offers (host : Host) (vendor : Nvidia.Vendor) :
    Option (List (Option Device)) := do
  let library ← (vendor.load host.libraries host.nvml).toOption
  library.offers host.nvml

/-- What each simulated device gives, if neither the initialization nor the enumeration fails. -/
def Simulated.Vendor.offers (host : Host) (vendor : Simulated.Vendor) :
    Option (List (Option Found)) :=
  let behaviour := host.station vendor.station
  match behaviour.initFailure, behaviour.enumerationFailure with
  | none, none =>
    some (behaviour.devices.zipIdx.map fun (device, index) =>
      if device.failsToOpen then none
      else some { address := device.address, device := { station := vendor.station, index } })
  | _, _ => none

namespace Simulated

theorem openSelected_eq (station index : Nat) (devices : List DeviceBehaviour) (mask : DeviceMask) :
    openSelected station index devices mask =
      ((mask.select (devices.zipIdx index)).filterMap fun (device, index) =>
        if device.failsToOpen then none
        else some { address := device.address, device := { station, index } },
        mask.after devices.length) := by
  induction devices generalizing index mask with
  | nil => simp [openSelected]
  | cons device devices ih =>
      rw [openSelected, ih, List.zipIdx_cons, DeviceMask.select_cons, List.length_cons,
        DeviceMask.after_succ]
      cases mask.selected with
      | false => rfl
      | true => cases hopen : device.failsToOpen <;> simp [hopen]

end Simulated

namespace Vendor

/-- What opening the devices of a vendor gives, in the order in which the vendor meets them. There
are none if it cannot be initialized or cannot list them. -/
def matched (host : Host) : Vendor → List (Option OpenDevice)
  | amd vendor => ((vendor.offers host).getD []).map (Option.map fun found =>
      { address := some found.address
        backend := .amd (String.ofList found.address) found.device })
  | nvidia vendor => ((vendor.offers host).getD []).map (Option.map fun device =>
      { address := none, backend := .nvidia device })
  | simulated vendor => ((vendor.offers host).getD []).map (Option.map fun found =>
      { address := found.address, backend := .simulated found.device })

/-- A vendor takes one bit for each of its devices before it tries to open it, and none if its
initialization or its enumeration fails. -/
def Takes (host : Host) (vendor : Vendor) (devices : List (Option OpenDevice)) : Prop :=
  Run.Ensures (vendor.init host) fun result =>
    ∀ outcome started, result = .ok (outcome, started) →
      (outcome.toOption = none → devices = []) ∧
      (outcome = .ok () → ∀ index mask,
        Run.Ensures (started.enumerate host index mask) fun result =>
          ∀ found left last, result = .ok (found, left, last) →
            found.toOption.getD [] =
              (mask.select devices).filterMap (Option.map (OpenDevice.ofVendor index)) ∧
            left = mask.after devices.length)

/-- A vendor whose functions end without a fault, whether or not they fail. -/
def Returns (host : Host) (vendor : Vendor) : Prop :=
  Run.Ensures (vendor.init host) fun result =>
    ∃ outcome started, result = .ok (outcome, started) ∧
      Run.Ensures started.shutdown (·.isOk) ∧
      (outcome = .ok () → ∀ index mask,
        Run.Ensures (started.enumerate host index mask) fun result =>
          ∃ found left last, result = .ok (found, left, last) ∧
            Run.Ensures last.shutdown (·.isOk))

theorem takes_amd (host : Host) (vendor : Amd.Vendor) :
    Takes host (.amd vendor) ((amd vendor).matched host) := by
  refine Run.ensures_lift_bind (Amd.Vendor.ensures_init host.libraries vendor) ?_
  rintro ⟨outcome, started⟩ hstarted
  apply Run.ensures_pure
  rintro _ _ ⟨⟩
  rw [matched, Amd.Vendor.offers, ← hstarted]
  constructor
  · intro hfailed
    rw [hfailed]
    rfl
  · rintro rfl index mask
    obtain ⟨library, -, hlibrary⟩ := Option.map_eq_some_iff.mp hstarted.symm
    have hloaded : started.library = some library := (congrArg Amd.Vendor.library hlibrary).symm
    refine (Amd.Vendor.ensures_enumerate host.pciDirectory hloaded mask).bind ?_ fun _ _ => nofun
    rintro ⟨outcome, left, last⟩ ⟨hsome, hnone⟩
    apply Run.ensures_pure
    rintro _ _ _ ⟨⟩
    cases hlisted : host.drm.listed? with
    | none =>
        obtain ⟨hfailed, hmask⟩ := hnone hlisted _ rfl
        cases outcome with
        | error failure => exact ⟨rfl, hmask.trans (DeviceMask.after_zero mask).symm⟩
        | ok found => cases hfailed
    | some listed =>
        have hfound := hsome listed hlisted
        split at hfound
        · cases hfound
        · cases hfound
          dsimp only [Except.toOption, Option.map_some, Option.bind_eq_bind, Option.bind_some,
            Option.getD_some]
          refine ⟨?_, by rw [List.length_map, List.length_map]⟩
          rw [← OpenDevice.map_ofVendor, DeviceMask.select_map, List.filterMap_map]
          rfl

theorem takes_nvidia (host : Host) (vendor : Nvidia.Vendor) :
    Takes host (.nvidia vendor) ((nvidia vendor).matched host) := by
  refine (Nvidia.Vendor.ensures_init host.libraries host.nvml vendor).bind ?_ fun _ _ => nofun
  rintro ⟨outcome, started⟩ hstarted
  apply Run.ensures_pure
  rintro _ _ ⟨⟩
  have hlibrary := hstarted outcome started rfl
  rw [matched, Nvidia.Vendor.offers]
  cases hload : vendor.load host.libraries host.nvml with
  | error failure =>
      refine ⟨fun _ => rfl, ?_⟩
      rintro rfl
      rw [hload] at hlibrary
      cases hlibrary
  | ok library =>
      rw [hload] at hlibrary
      constructor
      · intro hfailed
        rw [hfailed] at hlibrary
        cases hlibrary
      · rintro rfl index mask
        have hloaded : started.library = some library := Option.some.inj hlibrary
        refine Run.ensures_lift_bind (Nvidia.Vendor.ensures_enumerate hloaded mask) ?_
        rintro ⟨outcome, left, last⟩ houtcome
        apply Run.ensures_pure
        rintro _ _ _ ⟨⟩
        dsimp only [Except.toOption, Option.bind_eq_bind, Option.bind_some]
        cases hoffers : library.offers host.nvml with
        | none =>
            rw [hoffers] at houtcome
            obtain ⟨hfailed, hmask⟩ := houtcome
            cases outcome with
            | error failure => exact ⟨rfl, hmask.trans (DeviceMask.after_zero mask).symm⟩
            | ok found => cases hfailed
        | some offers =>
            rw [hoffers] at houtcome
            cases houtcome
            refine ⟨?_, by rw [Option.getD_some, List.length_map]⟩
            rw [Option.getD_some, ← OpenDevice.map_ofVendor]
            rfl

theorem takes_simulated (host : Host) (vendor : Simulated.Vendor) :
    Takes host (.simulated vendor) ((simulated vendor).matched host) := by
  apply Run.ensures_pure
  rintro _ _ ⟨⟩
  rw [matched, Simulated.Vendor.offers, Simulated.Behaviour.init]
  dsimp only
  cases hinit : (host.station vendor.station).initFailure with
  | some detail => exact ⟨fun _ => rfl, nofun⟩
  | none =>
      refine ⟨nofun, ?_⟩
      intro _ index mask
      apply Run.ensures_pure
      rintro _ _ _ ⟨⟩
      cases henumerate : (host.station vendor.station).enumerationFailure with
      | some detail => exact ⟨rfl, (DeviceMask.after_zero mask).symm⟩
      | none =>
          dsimp only
          rw [Simulated.openSelected_eq, ← OpenDevice.map_ofVendor, Option.getD_some,
            DeviceMask.select_map, List.filterMap_map, List.length_map, List.length_map,
            List.length_zipIdx]
          exact ⟨rfl, rfl⟩

theorem takes_matched (host : Host) (vendor : Vendor) :
    Takes host vendor (vendor.matched host) := by
  cases vendor with
  | amd vendor => exact takes_amd host vendor
  | nvidia vendor => exact takes_nvidia host vendor
  | simulated vendor => exact takes_simulated host vendor

theorem returns_simulated (host : Host) (vendor : Simulated.Vendor) :
    Returns host (.simulated vendor) := by
  apply Run.ensures_pure
  refine ⟨_, _, rfl, Run.ensures_pure rfl, ?_⟩
  intro _ index mask
  exact Run.ensures_pure ⟨_, _, _, rfl, Run.ensures_pure rfl⟩

/-- The vendor of AMD never faults where both calls of a listing agree and no device answers the
status that has no text. -/
theorem returns_amd {host : Host} (hagrees : host.drm.Agrees)
    (h : ∀ device ∈ host.drm.devices, device.initStatus ≠ Int32.minValue) (vendor : Amd.Vendor) :
    Returns host (.amd vendor) := by
  have hshutdown : ∀ vendor : Amd.Vendor, Run.Ensures (amd vendor).shutdown (·.isOk) :=
    fun _ _ => rfl
  refine Run.ensures_lift_bind (vendor.ensures_init host.libraries) ?_
  rintro ⟨outcome, started⟩ hstarted
  refine Run.ensures_pure ⟨outcome, amd started, rfl, hshutdown started, ?_⟩
  rintro rfl index mask
  obtain ⟨library, -, hlibrary⟩ := Option.map_eq_some_iff.mp hstarted.symm
  have hloaded : started.library = some library := (congrArg Amd.Vendor.library hlibrary).symm
  refine (Amd.Vendor.ensures_enumerate host.pciDirectory hloaded mask).bind ?_ ?_
  · rintro ⟨found, left, last⟩ -
    exact Run.ensures_pure ⟨_, left, amd last, rfl, hshutdown last⟩
  · rintro fault ⟨hsome, -⟩
    have hspared : ((mask.select (Drm.amdDevices
        (host.drm.devices.take host.drm.count.toInt.toNat).zipIdx)).any
          fun entry => entry.1.overflows started.contexts) = false := by
      rw [List.any_eq_false]
      intro entry hentry
      have hplace := List.mem_of_mem_filter (DeviceMask.mem_of_mem_select hentry)
      have hdevice := List.mem_of_mem_take (List.fst_mem_of_mem_zipIdx hplace)
      simp [Drm.ListedDevice.overflows, h _ hdevice]
    have hresult := hsome _ hagrees.listed?_eq
    rw [hspared] at hresult
    cases hresult

end Vendor

namespace Registry

variable (host : Host)

/-- A vendor without a device to offer is shut down again. -/
theorem ensures_givenUp (index : Nat) (vendor : Vendor) (left : DeviceMask) :
    Run.Ensures
      (do return ([], left, ← shutdownVendor index vendor) :
        Run (List GpuDevice × DeviceMask × Vendor))
      fun result => ∀ found rest last, result = .ok (found, rest, last) →
        found = [] ∧ rest = left := by
  refine Run.Ensures.bind (P := fun _ => True) (fun _ => trivial) ?_ nofun
  intro last _
  apply Run.ensures_pure
  rintro _ _ _ ⟨⟩
  exact ⟨rfl, rfl⟩

theorem ensures_startVendor {vendor : Vendor} {devices : List (Option OpenDevice)}
    (h : vendor.Takes host devices) (index : Nat) (mask : DeviceMask) :
    Run.Ensures (startVendor host index vendor mask) fun result =>
      ∀ found left last, result = .ok (found, left, last) →
        found = (mask.select devices).filterMap (Option.map (OpenDevice.ofVendor index)) ∧
        left = mask.after devices.length := by
  rw [startVendor]
  apply Run.ensures_unit_bind
  refine Run.Ensures.bind h ?_ nofun
  rintro ⟨outcome, started⟩ hstarted
  obtain ⟨hfails, hstarts⟩ := hstarted outcome started rfl
  cases outcome with
  | error failure =>
      apply Run.ensures_unit_bind
      refine (ensures_givenUp index started mask).mono ?_
      intro result hresult found left last hlast
      rw [hfails rfl, List.length_nil, DeviceMask.after_zero]
      exact hresult found left last hlast
  | ok _ =>
      apply Run.ensures_unit_bind
      refine (hstarts rfl index mask).bind ?_ nofun
      rintro ⟨outcome, left, last⟩ henumerated
      obtain ⟨hfound, hleft⟩ := henumerated outcome left last rfl
      rw [← hfound, ← hleft]
      cases outcome with
      | error failure => exact Run.ensures_unit_bind (ensures_givenUp index last left)
      | ok found =>
          cases found with
          | nil => exact Run.ensures_unit_bind (ensures_givenUp index last left)
          | cons device found =>
              apply Run.ensures_unit_bind
              apply Run.ensures_pure
              rintro _ _ _ ⟨⟩
              exact ⟨rfl, rfl⟩

theorem isOk_startVendor {vendor : Vendor} (h : vendor.Returns host) (index : Nat)
    (mask : DeviceMask) : Run.Ensures (startVendor host index vendor mask) (·.isOk) := by
  have hgiven {started : Vendor} (hshutdown : Run.Ensures started.shutdown (·.isOk))
      (left : DeviceMask) :
      Run.Ensures
        (do return ([], left, ← shutdownVendor index started) :
          Run (List GpuDevice × DeviceMask × Vendor)) (·.isOk) := by
    have hdone : Run.Ensures (shutdownVendor index started) (·.isOk) :=
      Run.ensures_unit_bind hshutdown
    refine hdone.bind ?_ nofun
    intro last _
    exact Run.ensures_pure rfl
  rw [startVendor]
  apply Run.ensures_unit_bind
  refine Run.Ensures.bind h ?_ fun _ ⟨_, _, hfault, _⟩ => nomatch hfault
  rintro ⟨outcome, started⟩ ⟨_, _, hsame, hshutdown, henumerate⟩
  cases hsame
  cases outcome with
  | error failure => exact Run.ensures_unit_bind (hgiven hshutdown mask)
  | ok _ =>
      apply Run.ensures_unit_bind
      refine (henumerate rfl index mask).bind ?_ fun _ ⟨_, _, _, hfault, _⟩ => nomatch hfault
      rintro ⟨outcome, left, last⟩ ⟨_, _, _, hsame, hlast⟩
      cases hsame
      cases outcome with
      | error failure => exact Run.ensures_unit_bind (hgiven hlast left)
      | ok found =>
          cases found with
          | nil => exact Run.ensures_unit_bind (hgiven hlast left)
          | cons device found => exact Run.ensures_unit_bind (Run.ensures_pure rfl)

/-- The devices that the vendors from number `index` on meet, in order. -/
def matchedFrom (index : Nat) (vendors : List Vendor) : List (Option GpuDevice) :=
  (vendors.zipIdx index).flatMap fun (vendor, index) =>
    (vendor.matched host).map (Option.map (OpenDevice.ofVendor index))

theorem ensures_startFrom (vendors : List Vendor) (index : Nat) (mask : DeviceMask)
    (found : List GpuDevice) :
    Run.Ensures (startFrom host index vendors mask found) fun result =>
      ∀ started devices, result = .ok (started, devices) →
        devices = found ++ (mask.select (matchedFrom host index vendors)).filterMap id := by
  induction vendors generalizing index mask found with
  | nil =>
      apply Run.ensures_pure
      rintro _ _ ⟨⟩
      simp [matchedFrom]
  | cons vendor vendors ih =>
      rw [startFrom, matchedFrom, List.zipIdx_cons, List.flatMap_cons, ← matchedFrom]
      have hstart := ensures_startVendor host (vendor.takes_matched host) index mask
      refine (hstart.onFault _).bind ?_ nofun
      rintro ⟨own, left, last⟩ hown
      obtain ⟨rfl, rfl⟩ := hown own left last rfl
      refine (ih (index + 1) (mask.after (vendor.matched host).length) _).bind ?_ nofun
      rintro ⟨started, devices⟩ hdevices
      apply Run.ensures_pure
      rintro _ _ ⟨⟩
      rw [hdevices started devices rfl, DeviceMask.select_append, DeviceMask.select_map,
        List.filterMap_append, List.filterMap_map, List.length_map, List.append_assoc]
      rfl

theorem isOk_startFrom (vendors : List Vendor) (h : ∀ vendor ∈ vendors, vendor.Returns host)
    (index : Nat) (mask : DeviceMask) (found : List GpuDevice) :
    Run.Ensures (startFrom host index vendors mask found) (·.isOk) := by
  induction vendors generalizing index mask found with
  | nil => exact Run.ensures_pure rfl
  | cons vendor vendors ih =>
      rw [startFrom]
      have hvendor := isOk_startVendor host (h vendor List.mem_cons_self) index mask
      refine (hvendor.onFault _).bind ?_ nofun
      rintro ⟨own, left, last⟩ -
      have hothers := ih fun other hother => h other (List.mem_cons_of_mem vendor hother)
      refine (hothers (index + 1) left (found ++ own)).bind ?_ nofun
      rintro ⟨started, devices⟩ -
      exact Run.ensures_pure rfl

theorem ensures_start (registry : Registry) (mask : DeviceMask) :
    Run.Ensures (registry.start host mask) fun result =>
      ∀ started devices, result = .ok (started, devices) →
        devices = (mask.select (matchedFrom host 0 registry.vendors)).filterMap id := by
  refine (ensures_startFrom host registry.vendors 0 mask []).bind ?_ nofun
  rintro ⟨vendors, devices⟩ hdevices
  apply Run.ensures_pure
  rintro _ _ ⟨⟩
  exact hdevices vendors devices rfl

/-- A device is handed over as its vendor opened it. -/
theorem exists_ofVendor_of_mem_matchedFrom {vendors : List Vendor} {start : Nat}
    {device : GpuDevice} (h : some device ∈ matchedFrom host start vendors) :
    ∃ opened index, device = OpenDevice.ofVendor index opened := by
  obtain ⟨⟨vendor, index⟩, -, hmem⟩ := List.mem_flatMap.mp h
  obtain ⟨_, -, hsome⟩ := List.mem_map.mp hmem
  obtain ⟨opened, -, rfl⟩ := Option.map_eq_some_iff.mp hsome
  exact ⟨opened, index, rfl⟩

/-- A start collects the selected devices that open, each tagged with its vendor, and comes to an
end if no vendor faults. -/
theorem devices_of_start (registry : Registry) (mask : DeviceMask) (trace : List Event) :
    let result := (StateT.run (ExceptT.run (registry.start host mask)) trace).1
    let opened := (mask.select (matchedFrom host 0 registry.vendors)).filterMap id
    (∀ started devices, result = .ok (started, devices) → devices = opened) ∧
      ((∀ vendor ∈ registry.vendors, vendor.Returns host) →
        ∃ started, result = .ok (started, opened)) := by
  intro result opened
  have hdevices : ∀ started devices, result = .ok (started, devices) → devices = opened :=
    ensures_start host registry mask trace
  refine ⟨hdevices, ?_⟩
  intro hreturns
  have hstart : Run.Ensures (registry.start host mask) (·.isOk) := by
    refine (isOk_startFrom host registry.vendors hreturns 0 mask []).bind ?_ nofun
    rintro ⟨vendors, devices⟩ -
    exact Run.ensures_pure rfl
  obtain ⟨⟨started, devices⟩, hresult⟩ := Fault.exists_of_isOk (hstart trace)
  have hopened := hdevices started devices hresult
  rw [hopened] at hresult
  exact ⟨started, hresult⟩

/-- The second vendor cannot be initialized and the last one cannot list its devices, so the first
device of the third vendor has the third bit. It fails to open, and the bit after its is not set. -/
theorem devices_of_failing_vendors :
    let host : Host :=
      { libraries := { path := "/lib" }
        drm := { count := 0 }
        nvml := { count := .ok 0 }
        simulated :=
          [{ devices := [{}, {}] },
            { initFailure := some "gone", devices := [{}] },
            { devices := [{ failsToOpen := true }, {}, { address := some ['0'] }] },
            { enumerationFailure := some "busy", devices := [{}, {}] }]
        procfs := fun path => { path } }
    let vendors : List Vendor :=
      [.simulated ⟨"a", 0⟩, .simulated ⟨"b", 1⟩, .simulated ⟨"c", 2⟩, .simulated ⟨"d", 3⟩]
    (∀ vendor ∈ vendors, vendor.Returns host) ∧
      ∃ started,
        (StateT.run (ExceptT.run (({ vendors } : Registry).start host (.ofInt 0b110110))) []).1 =
          .ok (started, [{ vendor := 0, backend := .simulated ⟨0, 1⟩ },
            { vendor := 2, fdinfo := some { address := ['0'] }, backend := .simulated ⟨2, 2⟩ }]) := by
  intro host vendors
  have hreturns : ∀ vendor ∈ vendors, vendor.Returns host := by
    intro vendor hvendor
    simp only [vendors, List.mem_cons, List.not_mem_nil, or_false] at hvendor
    rcases hvendor with rfl | rfl | rfl | rfl <;> exact Vendor.returns_simulated host _
  obtain ⟨-, hends⟩ := devices_of_start host { vendors } (.ofInt 0b110110) []
  exact ⟨hreturns, hends hreturns⟩

end Registry

end GpuTelemetry
