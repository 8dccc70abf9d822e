import GpuTelemetry.Proofs.Amd.Opening
import GpuTelemetry.Proofs.Settled

/-!
# Enumerating AMD devices

What the vendor finds once it is initialized, told by the list of the driver: the
devices of AMD in the order of the list, each with a bit of its own, and of those
that are selected the ones that can be opened.
-/

namespace GpuTelemetry

open Drm

/-- The listed devices of AMD with their places in the list. -/
def Drm.amdDevices (listed : List (ListedDevice × Nat)) : List (ListedDevice × Nat) :=
  listed.filter fun (device, _) => device.isAmd

namespace Amd

variable {driver : Driver} {listed : ListedDevice} {index : Nat}

theorem isAmd_eq_any_pci? (listed : ListedDevice) (index : Nat) :
    listed.isAmd = (listed.pci? index).any fun device => device.vendorId = vendorId := by
  rw [ListedDevice.isAmd, ListedDevice.pci?]
  cases !listed.isNull && listed.busType = pciBus with
  | false => rfl
  | true =>
      cases listed.address with
      | none => rfl
      | some address =>
          cases listed.ids with
          | none => rfl
          | some ids => rfl

/-- The devices that are AMD's are copied out of the list one by one. -/
theorem forall₂_describes {entries : List (ListedDevice × Nat)}
    (h : ∀ entry ∈ entries, driver.device? entry.2 = some entry.1) :
    List.Forall₂ (Describes driver)
      ((entries.filterMap fun (device, index) => device.pci? index).filter fun device =>
        device.vendorId = vendorId)
      (amdDevices entries) := by
  induction entries with
  | nil => exact List.Forall₂.nil
  | cons entry entries ih =>
      have htail := ih fun other hother => h other (List.mem_cons_of_mem _ hother)
      have hown := isAmd_eq_any_pci? entry.1 entry.2
      rw [amdDevices, List.filter_cons, List.filterMap_cons]
      cases hpci : entry.1.pci? entry.2 with
      | none =>
          rw [hpci, Option.any_none] at hown
          simp only [hown, hpci]
          exact htail
      | some device =>
          rw [hpci, Option.any_some] at hown
          simp only [hown, hpci, List.filter_cons]
          by_cases hvendor : device.vendorId = vendorId
          · simp only [hvendor]
            obtain ⟨haddress, hindex, hnodes⟩ := ListedDevice.pci?_eq_some hpci
            exact List.Forall₂.cons ⟨h entry List.mem_cons_self, hindex, haddress, hnodes⟩ htail
          · simp only [hvendor]
            exact htail

namespace Vendor

/-- The vendor after it is initialized, if the driver library can be loaded. -/
def started? (directory : Platform.LibraryDirectory) (vendor : Vendor) : Option Vendor :=
  (Library.loaded? directory).map fun library =>
    { library := some library
      contexts := contextsLoad directory || vendor.contexts
      lastError := none }

/-- What an initialization ends with, once loading the library has ended. -/
def afterLoad (directory : Platform.LibraryDirectory) (vendor : Vendor) :
    Except Failure Library → Except Failure Unit × Vendor
  | .error failure => (.error failure, { vendor with lastError := some failure.message })
  | .ok library =>
    (.ok (), { library := some library
               contexts := contextsLoad directory || vendor.contexts
               lastError := none })

theorem ensures_init_of_load {directory : Platform.LibraryDirectory}
    {loaded : Except Failure Library}
    (h : Traced.Ensures (Library.load directory) (· = loaded)) (vendor : Vendor) :
    Traced.Ensures (vendor.init directory) (· = vendor.afterLoad directory loaded) := by
  rw [init]
  refine h.bind ?_
  rintro found rfl
  cases found with
  | error failure => exact Traced.ensures_pure rfl
  | ok library =>
      have hrest (contexts : Bool) (h : contexts = (contextsLoad directory || vendor.contexts)) :
          Traced.Ensures
            (do
              if vendor.library.isSome then emit (.released .drmLibrary)
              return (.ok (), { library := some library, contexts, lastError := none }) :
              Traced (Except Failure Unit × Vendor))
            (· = (.ok (), { library := some library
                            contexts := contextsLoad directory || vendor.contexts
                            lastError := none })) := by
        rw [← h]
        split
        · exact Traced.ensures_unit_bind (Traced.ensures_pure rfl)
        · exact Traced.ensures_pure rfl
      refine (ensures_loadContextLibrary directory).bind ?_
      intro contexts hcontexts
      cases contexts with
      | ok _ =>
          have hloads : true = (contextsLoad directory || vendor.contexts) := by
            rw [← hcontexts]
            rfl
          dsimp only
          split
          · exact Traced.ensures_unit_bind (hrest true hloads)
          · exact hrest true hloads
      | error failure =>
          have hkept : vendor.contexts = (contextsLoad directory || vendor.contexts) := by
            rw [← hcontexts]
            rfl
          exact Traced.ensures_unit_bind (hrest vendor.contexts hkept)

theorem ensures_init (directory : Platform.LibraryDirectory) (vendor : Vendor) :
    Traced.Ensures (vendor.init directory) fun outcome =>
      (outcome.1.toOption.map fun _ => outcome.2) = vendor.started? directory := by
  obtain ⟨loaded, hloaded⟩ := Library.settled_load directory
  have hlibrary : loaded.toOption = Library.loaded? directory := by
    rw [← hloaded []]
    exact Library.ensures_load directory []
  refine (ensures_init_of_load hloaded vendor).mono ?_
  rintro _ rfl
  rw [started?, ← hlibrary]
  cases loaded with
  | error failure => rfl
  | ok library => rfl

/-- What an enumeration finds, if it comes to an end. -/
theorem ensures_enumerate (trees : String → Sysfs.FileTree) {vendor : Vendor} {library : Library}
    (hlibrary : vendor.library = some library) (mask : DeviceMask) :
    Run.Ensures (vendor.enumerate driver trees mask) fun result =>
      (∀ entries, driver.listed? = some entries →
        result =
          if (mask.select (amdDevices entries)).any (·.1.overflows vendor.contexts) then
            .error .negationOverflow
          else .ok (.ok ((mask.select (amdDevices entries)).filterMap fun entry =>
            entry.1.found? vendor.contexts trees entry.2),
              mask.after (amdDevices entries).length, vendor)) ∧
      (driver.listed? = none → ∀ outcome, result = .ok outcome →
        outcome.1.toOption = none ∧ outcome.2.1 = mask) := by
  rw [enumerate, hlibrary]
  refine (library.ensures_pciDevices driver).bind ?_ ?_
  · rintro outcome ⟨hsome, hnone⟩
    cases outcome with
    | error failure =>
        apply Run.ensures_pure
        constructor
        · intro entries hentries
          cases hsome entries hentries
        · intro _ outcome houtcome
          cases houtcome
          exact ⟨rfl, rfl⟩
    | ok devices =>
        cases hlisted : driver.listed? with
        | none => exact absurd rfl (hnone hlisted devices)
        | some entries =>
            cases hsome entries hlisted
            have hentries := forall₂_describes fun _ hmem => Driver.device?_of_listed? hlisted hmem
            have hselected := ensures_openSelected vendor.contexts trees hentries mask []
            by_cases hfault : ((mask.select (amdDevices entries)).any fun entry =>
                entry.1.overflows vendor.contexts) = true
            · rw [if_pos hfault] at hselected
              refine hselected.bind_error ⟨?_, nofun⟩
              intro listed hsame
              cases hsame
              rw [if_pos hfault]
            · rw [if_neg hfault, List.nil_append] at hselected
              refine hselected.bind_ok (Run.ensures_pure ⟨?_, nofun⟩)
              intro listed hsame
              cases hsame
              rw [if_neg hfault]
  · rintro fault ⟨hsome, -⟩
    refine ⟨?_, nofun⟩
    intro entries hentries
    cases hsome entries hentries

/-- After a successful initialization and with a listing that agrees, an enumeration finds the
selected devices that attach, unless one of the selected ones overflows. -/
theorem enumerate_of_init {directory : Platform.LibraryDirectory} {vendor started : Vendor}
    {before between : List Event}
    (hinit : StateT.run (vendor.init directory) before = ((.ok (), started), between))
    (hagrees : driver.Agrees) (trees : String → Sysfs.FileTree) (mask : DeviceMask)
    (trace : List Event) :
    let contexts := contextsLoad directory || vendor.contexts
    let own := amdDevices (driver.devices.take driver.count.toInt.toNat).zipIdx
    (StateT.run (ExceptT.run (started.enumerate driver trees mask)) trace).1 =
      if (mask.select own).any fun entry => entry.1.overflows contexts then
        .error .negationOverflow
      else .ok (.ok ((mask.select own).filterMap fun entry =>
        entry.1.found? contexts trees entry.2), mask.after own.length, started) := by
  intro contexts own
  have hstarted := ensures_init directory vendor before
  rw [hinit] at hstarted
  obtain ⟨library, -, rfl⟩ := Option.map_eq_some_iff.mp hstarted.symm
  exact (ensures_enumerate trees rfl mask trace).1 _ hagrees.listed?_eq

/-- Of a device without a node, one of another vendor, one behind its primary node and one that is
not selected, the third is found. -/
theorem enumerate_of_primary_node :
    let directory : Platform.LibraryDirectory :=
      { path := "/lib", libraries := [{ name := "libdrm.so.2" }, { name := "libdrm_amdgpu.so" }] }
    let device : ListedDevice :=
      { address := some ⟨1, 3, 0, 0⟩
        ids := some (vendorId, 0x73BF)
        renderNode := some { path := none, opens := true }
        primaryNode := some { path := some "card0", opens := true }
        version := some { name := some [97, 109, 100, 103, 112, 117], description := none } }
    let driver : Driver :=
      { count := 4
        devices := [{ device with primaryNode := none }, { device with ids := some (0x10DE, 1) },
          device, { device with initStatus := Int32.minValue }] }
    let started : Vendor :=
      { library := some { modernListing := true }, contexts := true, lastError := none }
    (∃ between, StateT.run (({} : Vendor).init directory) [] = ((.ok (), started), between)) ∧
      driver.Agrees ∧
      (StateT.run (ExceptT.run (started.enumerate driver (fun _ => {}) (.ofInt 3))) []).1 =
        .ok (.ok [{ address := "0001:03:00.0".toList
                    device := { index := 2, description := "", sensors := .ofTree {} } }],
          .ofInt 0, started) := by
  intro directory device driver started
  have hstarted : ∃ between,
      StateT.run (({} : Vendor).init directory) [] = ((.ok (), started), between) := ⟨_, rfl⟩
  have hagrees : driver.Agrees := ⟨by decide, fun _ => rfl⟩
  obtain ⟨between, hinit⟩ := hstarted
  refine ⟨⟨between, hinit⟩, hagrees, ?_⟩
  have hname : textOf [97, 109, 100, 103, 112, 117] = "amdgpu" := by decide +kernel
  have hdriver : device.driver? = some ("amdgpu", "") :=
    congrArg (fun name => some (name, "")) hname
  have hreaches : device.reachesContext true = true := by
    rw [ListedDevice.reachesContext, hdriver]
    rfl
  have hunreached : ({ device with primaryNode := none } : ListedDevice).reachesContext true =
      false := rfl
  have hselect : (DeviceMask.ofInt 3).select (amdDevices (driver.devices.take 4).zipIdx) =
      [({ device with primaryNode := none }, 0), (device, 2)] := rfl
  have hfound := ListedDevice.found?_of_reaches (fun _ => {}) 2 rfl hdriver hreaches
  have hskipped := ListedDevice.found?_of_not_reaches (fun _ => {}) 0 hunreached
  have hattaches : device.overflows true = false := by
    rw [ListedDevice.overflows, hreaches]
    rfl
  have hspared := ListedDevice.overflows_of_not_reaches hunreached
  have hcontexts : (contextsLoad directory || ({} : Vendor).contexts) = true := rfl
  have hcount : driver.count.toInt.toNat = 4 := rfl
  have haddress : PciAddress.text ⟨1, 3, 0, 0⟩ = "0001:03:00.0".toList := by decide +kernel
  have hlength : (amdDevices (driver.devices.take 4).zipIdx).length = 3 := rfl
  have hleft : (DeviceMask.ofInt 3).after 3 = .ofInt 0 := by decide
  rw [haddress] at hfound
  rw [enumerate_of_init hinit hagrees, hcontexts, hcount, hselect, hlength, hleft,
    List.any_cons, List.any_cons, hattaches, hspared, List.filterMap_cons, hskipped,
    List.filterMap_cons, hfound]
  rfl

/-- A selected device that answers the smallest status keeps the enumeration from going on. -/
theorem enumerate_faults_of_smallest_status :
    let directory : Platform.LibraryDirectory :=
      { path := "/lib", libraries := [{ name := "libdrm.so" }, { name := "libdrm_amdgpu.so" }] }
    let device : ListedDevice :=
      { address := some ⟨1, 3, 0, 0⟩
        ids := some (vendorId, 0x73BF)
        renderNode := some { path := some "renderD128", opens := true }
        primaryNode := none
        version := some { name := some [97, 109, 100, 103, 112, 117], description := none }
        initStatus := Int32.minValue }
    let driver : Driver := { count := 1, devices := [device] }
    let started : Vendor :=
      { library := some { modernListing := true }, contexts := true, lastError := none }
    (∃ between, StateT.run (({} : Vendor).init directory) [] = ((.ok (), started), between)) ∧
      driver.Agrees ∧
      (StateT.run (ExceptT.run (started.enumerate driver (fun _ => {}) .all)) []).1 ≠
        .ok (.ok [], DeviceMask.all.after 1, started) := by
  intro directory device driver started
  have hagrees : driver.Agrees := ⟨by decide, fun _ => rfl⟩
  have hname : textOf [97, 109, 100, 103, 112, 117] = "amdgpu" := by decide +kernel
  have hdriver : device.driver? = some ("amdgpu", "") :=
    congrArg (fun name => some (name, "")) hname
  have hoverflows : device.overflows true = true := by
    rw [ListedDevice.overflows, ListedDevice.reachesContext, hdriver]
    rfl
  have hselect : DeviceMask.all.select (amdDevices (driver.devices.take 1).zipIdx) =
      [(device, 0)] := rfl
  have hfault : (StateT.run (ExceptT.run
      (started.enumerate driver (fun _ => {}) .all)) []).1 = .error .negationOverflow := by
    have hlibrary : started.library = some { modernListing := true } := rfl
    have hresult :=
      (ensures_enumerate (fun _ => {}) hlibrary DeviceMask.all []).1 _ hagrees.listed?_eq
    have hcount : driver.count.toInt.toNat = 1 := rfl
    have hcontexts : started.contexts = true := rfl
    rw [hresult, hcontexts, hcount, hselect, List.any_cons, hoverflows]
    rfl
  refine ⟨⟨_, rfl⟩, hagrees, ?_⟩
  rw [hfault]
  intro hskipped
  cases hskipped

end Vendor

end Amd

end GpuTelemetry
