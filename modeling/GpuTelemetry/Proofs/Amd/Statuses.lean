import GpuTelemetry.Proofs.Amd.Enumeration
import GpuTelemetry.Proofs.Drm.Listing

/-!
# Statuses in an enumeration

An enumeration meets the statuses of the two listing calls and, for each selected
device that gets so far, that of making a device context. A failed listing ends
it before the mask or a node is touched, and a failed context skips one device.
The smallest status has no text, and is the only thing that keeps an enumeration
from coming to an end.
-/

namespace GpuTelemetry

open Drm

namespace Drm

theorem statusText_eq_error_iff {status : Int32} {fault : Fault} :
    statusText status = .error fault ↔ fault = .negationOverflow ∧ status = Int32.minValue := by
  by_cases hmin : status = Int32.minValue
  · subst hmin
    rw [statusText_minValue, Except.error.injEq]
    exact ⟨fun h => ⟨h.symm, rfl⟩, fun h => h.1.symm⟩
  · obtain ⟨text, htext⟩ := exists_statusText hmin
    rw [htext]
    exact ⟨nofun, fun h => absurd h.2 hmin⟩

/-- What a listing answers in the end: the library is asked a second time if it counts devices. -/
def Driver.listingStatus (driver : Driver) : Int32 :=
  if 0 < driver.count then driver.filledCount driver.count.toInt.toNat else driver.count

/-- The calls of a listing that fails, after which there is nothing to give back. -/
def Library.failedCalls (library : Library) (driver : Driver) : List Event :=
  if 0 < driver.count then
    [.drm (.listDevices library.modernListing 0),
      .drm (.listDevices library.modernListing driver.count)]
  else [.drm (.listDevices library.modernListing 0)]

theorem Driver.listed?_eq_none_iff {driver : Driver} :
    driver.listed? = none ↔ driver.listingStatus < 0 := by
  rw [listed?, listingStatus]
  by_cases hpositive : 0 < driver.count
  · have hcount : ¬driver.count < 0 := Int32.not_lt.mpr (Int32.le_of_lt hpositive)
    rw [if_neg hcount, if_neg (Int32.ne_of_lt hpositive).symm, if_pos hpositive]
    simp
  · rw [if_neg hpositive]
    by_cases hcount : driver.count < 0
    · simp [hcount]
    · have hzero : driver.count = 0 :=
        Int32.le_antisymm (Int32.not_lt.mp hpositive) (Int32.not_lt.mp hcount)
      simp [hzero]

theorem Library.run_of_listing_failed (library : Library) {driver : Driver}
    (h : driver.listingStatus < 0) (trace : List Event) :
    StateT.run (ExceptT.run (library.pciDevices driver)) trace =
      ((statusText driver.listingStatus).map fun text => .error (.drm text),
        trace ++ library.failedCalls driver) := by
  rw [Driver.listingStatus] at h ⊢
  rw [failedCalls]
  by_cases hpositive : 0 < driver.count
  · rw [if_pos hpositive] at h ⊢
    rw [if_pos hpositive]
    exact run_of_not_filled library trace hpositive h
  · rw [if_neg hpositive] at h ⊢
    rw [if_neg hpositive]
    exact run_of_no_count library trace h

end Drm

namespace Amd

/-! ## Devices that attach -/

theorem isSome_address_of_isAmd {listed : ListedDevice} (h : listed.isAmd = true) :
    ∃ address, listed.address = some address := by
  simp only [ListedDevice.isAmd, Bool.and_eq_true] at h
  exact Option.isSome_iff_exists.mp h.1.2

/-- A device is found just when it attaches, and is known by its place in the list. -/
theorem map_index_found? {listed : ListedDevice} {address : PciAddress}
    (haddress : listed.address = some address) (contexts : Bool)
    (trees : String → Sysfs.FileTree) (index : Nat) :
    ((listed.found? contexts trees index).map fun found => found.device.index) =
      if listed.attaches contexts then some index else none := by
  cases hreaches : listed.reachesContext contexts with
  | false =>
      rw [ListedDevice.found?_of_not_reaches trees index hreaches, ListedDevice.attaches, hreaches]
      rfl
  | true =>
      obtain ⟨-, ⟨description, hdriver⟩, -⟩ := ListedDevice.reachesContext_iff.mp hreaches
      rw [ListedDevice.found?_of_reaches trees index haddress hdriver hreaches,
        ListedDevice.attaches, hreaches, Bool.true_and]
      cases listed.initStatus = 0 && !listed.nullHandle <;> rfl

theorem map_index_filterMap_found? (contexts : Bool) (trees : String → Sysfs.FileTree)
    {entries : List (ListedDevice × Nat)} (h : ∀ entry ∈ entries, entry.1.isAmd = true) :
    ((entries.filterMap fun entry => entry.1.found? contexts trees entry.2).map fun found =>
        found.device.index) =
      (entries.filter fun entry => entry.1.attaches contexts).map Prod.snd := by
  induction entries with
  | nil => rfl
  | cons entry entries ih =>
      obtain ⟨hentry, htail⟩ := List.forall_mem_cons.mp h
      obtain ⟨address, haddress⟩ := isSome_address_of_isAmd hentry
      have hfound := map_index_found? haddress contexts trees entry.2
      rw [List.filterMap_cons, List.filter_cons]
      by_cases hattaches : entry.1.attaches contexts = true
      · rw [if_pos hattaches] at hfound ⊢
        obtain ⟨found, hsome, hindex⟩ := Option.map_eq_some_iff.mp hfound
        rw [hsome, List.map_cons, List.map_cons, ih htail, hindex]
      · rw [if_neg hattaches] at hfound ⊢
        rw [Option.map_eq_none_iff.mp hfound, ih htail]

namespace Vendor

theorem run_enumerate_of_no_library {vendor : Vendor} (h : vendor.library = none)
    (driver : Driver) (trees : String → Sysfs.FileTree) (mask : DeviceMask)
    (trace : List Event) :
    StateT.run (ExceptT.run (vendor.enumerate driver trees mask)) trace =
      (.ok (.error (.vendorInit "libdrm is not loaded"), mask, vendor), trace) := by
  rw [enumerate, h]
  rfl

theorem run_enumerate_of_listing_failed {vendor : Vendor} {library : Library}
    (hlibrary : vendor.library = some library) {driver : Driver} (h : driver.listingStatus < 0)
    (trees : String → Sysfs.FileTree) (mask : DeviceMask) (trace : List Event) :
    StateT.run (ExceptT.run (vendor.enumerate driver trees mask)) trace =
      ((statusText driver.listingStatus).map fun text =>
          (.error (.drm text), mask,
            { vendor with lastError := some (Failure.drm text).message }),
        trace ++ library.failedCalls driver) := by
  rw [enumerate, hlibrary]
  dsimp only
  rw [Run.run_bind, library.run_of_listing_failed h]
  cases statusText driver.listingStatus <;> rfl

theorem fault_of_listing_failed {vendor : Vendor} {library : Library}
    (hlibrary : vendor.library = some library) {driver : Driver} (h : driver.listingStatus < 0)
    (trees : String → Sysfs.FileTree) (mask : DeviceMask) (trace : List Event) (fault : Fault) :
    (StateT.run (ExceptT.run (vendor.enumerate driver trees mask)) trace).1 = .error fault ↔
      fault = .negationOverflow ∧ driver.listingStatus = Int32.minValue := by
  rw [run_enumerate_of_listing_failed hlibrary h, Fault.map_eq_error_iff, statusText_eq_error_iff]

/-- A selected device that gets as far as its context, and answers the status without a text. -/
def MeetsSmallest (vendor : Vendor) (mask : DeviceMask) (entries : List (ListedDevice × Nat)) :
    Prop :=
  ∃ entry ∈ mask.select (amdDevices entries),
    entry.1.reachesContext vendor.contexts = true ∧ entry.1.initStatus = Int32.minValue

theorem meetsSmallest_iff_any {vendor : Vendor} {mask : DeviceMask}
    {entries : List (ListedDevice × Nat)} :
    vendor.MeetsSmallest mask entries ↔
      ((mask.select (amdDevices entries)).any fun entry =>
        entry.1.overflows vendor.contexts) = true := by
  simp only [MeetsSmallest, List.any_eq_true, ListedDevice.overflows, Bool.and_eq_true,
    decide_eq_true_eq]

theorem result_of_listed {vendor : Vendor} {library : Library}
    (hlibrary : vendor.library = some library) {driver : Driver}
    {entries : List (ListedDevice × Nat)} (h : driver.listed? = some entries)
    (trees : String → Sysfs.FileTree) (mask : DeviceMask) (trace : List Event) :
    let result := (StateT.run (ExceptT.run (vendor.enumerate driver trees mask)) trace).1
    (∀ fault, result = .error fault ↔
      fault = .negationOverflow ∧ vendor.MeetsSmallest mask entries) ∧
    (¬vendor.MeetsSmallest mask entries →
      ∃ found, result = .ok (.ok found, mask.after (amdDevices entries).length, vendor) ∧
        found.map (fun device => device.device.index) =
          ((mask.select (amdDevices entries)).filter fun entry =>
            entry.1.attaches vendor.contexts).map Prod.snd) := by
  intro result
  have hresult : result = _ := (ensures_enumerate trees hlibrary mask trace).1 entries h
  by_cases hsmallest : vendor.MeetsSmallest mask entries
  · rw [if_pos (meetsSmallest_iff_any.mp hsmallest)] at hresult
    rw [hresult]
    refine ⟨?_, fun hnot => absurd hsmallest hnot⟩
    intro fault
    rw [Except.error.injEq]
    exact ⟨fun hfault => ⟨hfault.symm, hsmallest⟩, fun hfault => hfault.1.symm⟩
  · rw [if_neg (meetsSmallest_iff_any.not.mp hsmallest)] at hresult
    rw [hresult]
    refine ⟨fun fault => ⟨nofun, fun hfault => absurd hfault.2 hsmallest⟩, fun _ => ?_⟩
    refine ⟨_, rfl, map_index_filterMap_found? vendor.contexts trees fun entry hentry => ?_⟩
    exact (List.mem_filter.mp (DeviceMask.mem_of_mem_select hentry)).2

/-- How an enumeration ends, for all statuses that the libraries may answer. -/
theorem endings_of_enumerate (vendor : Vendor) (driver : Driver)
    (trees : String → Sysfs.FileTree) (mask : DeviceMask) (trace : List Event) :
    let outcome := StateT.run (ExceptT.run (vendor.enumerate driver trees mask)) trace
    let failed := fun failure : Failure => (.error failure : Except Failure (List Found))
    (vendor.library = none →
      outcome = (.ok (failed (.vendorInit "libdrm is not loaded"), mask, vendor), trace)) ∧
    ∀ library, vendor.library = some library →
      (∀ fault, outcome.1 = .error fault ↔ fault = .negationOverflow ∧
        (driver.listingStatus = Int32.minValue ∨
          ∃ entries, driver.listed? = some entries ∧ vendor.MeetsSmallest mask entries)) ∧
      (driver.listingStatus < 0 → driver.listingStatus ≠ Int32.minValue →
        ∃ text, statusText driver.listingStatus = .ok text ∧
          outcome = (.ok (failed (.drm text), mask,
            { vendor with lastError := some ("DRM error: " ++ text) }),
            trace ++ library.failedCalls driver)) ∧
      (∀ entries, driver.listed? = some entries → ¬vendor.MeetsSmallest mask entries →
        ∃ found, outcome.1 = .ok (.ok found, mask.after (amdDevices entries).length, vendor) ∧
          found.map (fun device => device.device.index) =
            ((mask.select (amdDevices entries)).filter fun entry =>
              entry.1.attaches vendor.contexts).map Prod.snd) := by
  intro outcome failed
  refine ⟨fun h => run_enumerate_of_no_library h driver trees mask trace, ?_⟩
  intro library hlibrary
  by_cases hfailed : driver.listingStatus < 0
  · have hlisted : driver.listed? = none := Driver.listed?_eq_none_iff.mpr hfailed
    refine ⟨?_, ?_, ?_⟩
    · intro fault
      rw [fault_of_listing_failed hlibrary hfailed, hlisted]
      simp
    · intro _ hmin
      obtain ⟨text, htext⟩ := exists_statusText hmin
      have houtcome : outcome = _ :=
        run_enumerate_of_listing_failed hlibrary hfailed trees mask trace
      rw [htext] at houtcome
      exact ⟨text, htext, houtcome⟩
    · intro entries hentries
      rw [hlisted] at hentries
      cases hentries
  · obtain ⟨entries, hlisted⟩ : ∃ entries, driver.listed? = some entries :=
      Option.ne_none_iff_exists'.mp (Driver.listed?_eq_none_iff.not.mpr hfailed)
    have hmin : driver.listingStatus ≠ Int32.minValue := by
      intro hmin
      exact hfailed (hmin ▸ by decide)
    have hresult := result_of_listed hlibrary hlisted trees mask trace
    refine ⟨?_, fun hstatus => absurd hstatus hfailed, ?_⟩
    · intro fault
      rw [hresult.1 fault, hlisted]
      simp [hmin]
    · intro others hothers
      rw [hlisted, Option.some.injEq] at hothers
      exact hothers ▸ hresult.2

/-- A second listing call that is denied, and of two devices one whose context is refused. -/
theorem endings_of_refused_device :
    let device (status : Int32) : ListedDevice :=
      { address := some ⟨1, 3, 0, 0⟩
        ids := some (vendorId, 0x73BF)
        renderNode := some { path := some "renderD128", opens := true }
        primaryNode := none
        version := some { name := some [97, 109, 100, 103, 112, 117], description := none }
        initStatus := status }
    let denied : Driver := { count := 2, filled := some (-1002) }
    let driver : Driver := { count := 2, devices := [device (-22), device 0] }
    let vendor : Vendor :=
      { library := some { modernListing := true }, contexts := true, lastError := none }
    denied.listingStatus < 0 ∧ denied.listingStatus ≠ Int32.minValue ∧
      StateT.run (ExceptT.run (vendor.enumerate denied (fun _ => {}) .all)) [] =
        (.ok (.error (.drm "no access"), .all,
          { vendor with lastError := some "DRM error: no access" }),
          [.drm (.listDevices true 0), .drm (.listDevices true 2)]) ∧
      driver.listed? = some [(device (-22), 0), (device 0, 1)] ∧
      ¬vendor.MeetsSmallest .all [(device (-22), 0), (device 0, 1)] ∧
      ∃ found, (StateT.run (ExceptT.run (vendor.enumerate driver (fun _ => {}) .all)) []).1 =
          .ok (.ok found, DeviceMask.all.after 2, vendor) ∧
        found.map (fun device => device.device.index) = [1] := by
  intro device denied driver vendor
  have hlibrary : vendor.library = some { modernListing := true } := rfl
  have hcontexts : vendor.contexts = true := rfl
  have hfails : denied.listingStatus < 0 := by decide
  have hmin : denied.listingStatus ≠ Int32.minValue := by decide
  have hlisted : driver.listed? = some [(device (-22), 0), (device 0, 1)] := rfl
  have hselect : DeviceMask.all.select (amdDevices [(device (-22), 0), (device 0, 1)]) =
      [(device (-22), 0), (device 0, 1)] := rfl
  have hsmallest : ¬vendor.MeetsSmallest .all [(device (-22), 0), (device 0, 1)] := by
    rintro ⟨entry, hentry, -, hstatus⟩
    rw [hselect] at hentry
    simp only [List.mem_cons, List.not_mem_nil, or_false] at hentry
    rcases hentry with rfl | rfl
    · exact absurd hstatus (by decide : (-22 : Int32) ≠ Int32.minValue)
    · exact absurd hstatus (by decide : (0 : Int32) ≠ Int32.minValue)
  have hname : textOf [97, 109, 100, 103, 112, 117] = "amdgpu" := by decide +kernel
  have hreaches (status : Int32) : (device status).reachesContext true = true := by
    refine ListedDevice.reachesContext_iff.mpr ⟨rfl, ⟨"", ?_⟩, rfl⟩
    exact congrArg (fun name => some (name, "")) hname
  have hrefused : (device (-22)).attaches true = false := by
    rw [ListedDevice.attaches, hreaches]
    rfl
  have hattaches : (device 0).attaches true = true := by
    rw [ListedDevice.attaches, hreaches]
    rfl
  obtain ⟨text, htext, hdenied⟩ :=
    ((endings_of_enumerate vendor denied (fun _ => {}) .all []).2 _ hlibrary).2.1 hfails hmin
  cases htext
  obtain ⟨found, hfound, hplaces⟩ :=
    ((endings_of_enumerate vendor driver (fun _ => {}) .all []).2 _ hlibrary).2.2 _ hlisted
      hsmallest
  refine ⟨hfails, hmin, hdenied, hlisted, hsmallest, found, hfound, ?_⟩
  rw [hplaces, hselect, List.filter_cons, List.filter_cons]
  simp only [hcontexts, hrefused, hattaches]
  rfl

/-- The smallest status as the number of devices keeps the enumeration from coming to an end. -/
theorem enumerate_faults_of_smallest_count :
    let driver : Driver := { count := Int32.minValue }
    let vendor : Vendor :=
      { library := some { modernListing := true }, contexts := true, lastError := none }
    (StateT.run (ExceptT.run (vendor.enumerate driver (fun _ => {}) .all)) []).1 =
      .error .negationOverflow :=
  rfl

end Vendor

end Amd

end GpuTelemetry
