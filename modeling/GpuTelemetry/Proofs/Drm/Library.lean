import GpuTelemetry.Drm.Library
import GpuTelemetry.Proofs.Ensures

/-!
# What the libraries of the graphics driver offer

Whether the libraries can be loaded depends on the directory they are looked for
in, and what they list on the two answers of the driver.
-/

namespace GpuTelemetry

namespace Platform.LibraryDirectory

/-- The first of some names under which a library is found. -/
def first? (directory : LibraryDirectory) (names : List String) : Option SharedLibrary :=
  names.findSome? fun name => (directory.load name).toOption

def provides (directory : LibraryDirectory) (library : SharedLibrary) (symbols : List String) :
    Bool :=
  symbols.all fun name => (directory.symbol library name).isOk

end Platform.LibraryDirectory

namespace Drm

open Platform

/-- Whether a library lists devices with the present function, if it has one for that. -/
def modernListing? (directory : LibraryDirectory) (library : SharedLibrary) : Option Bool :=
  if directory.provides library ["drmGetDevices2"] then some true
  else if directory.provides library ["drmGetDevices"] then some false
  else none

/-- The driver library, if it can be loaded with all its symbols. -/
def Library.loaded? (directory : LibraryDirectory) : Option Library := do
  let file ← directory.first? libraryNames
  let modernListing ← modernListing? directory file
  if directory.provides file librarySymbols then some { modernListing } else none

/-- Whether the library for device contexts can be loaded with all its symbols. -/
def contextsLoad (directory : LibraryDirectory) : Bool :=
  (directory.first? contextLibraryNames).any fun file =>
    directory.provides file contextLibrarySymbols

section

variable (directory : LibraryDirectory) (library : SharedLibrary) (label : String)

theorem ensures_loadFirst (failure : Failure) (names : List String) :
    Traced.Ensures (loadFirst directory failure names)
      fun result => result.toOption = directory.first? names := by
  induction names generalizing failure with
  | nil => exact Traced.ensures_pure rfl
  | cons name names ih =>
      rw [loadFirst, LibraryDirectory.first?, List.findSome?_cons]
      cases directory.load name with
      | ok library => exact Traced.ensures_unit_bind (Traced.ensures_pure rfl)
      | error text => exact ih (.libraryLoad text)

theorem ensures_resolve (name : String) :
    Traced.Ensures (resolve directory library label name)
      fun result => result.isOk = (directory.symbol library name).isOk := by
  rw [resolve]
  cases directory.symbol library name with
  | ok _ => exact Traced.ensures_pure rfl
  | error text => exact Traced.ensures_unit_bind (Traced.ensures_pure rfl)

theorem ensures_resolveAll (symbols : List String) :
    Traced.Ensures (resolveAll directory library label symbols)
      fun result => result.isOk = directory.provides library symbols := by
  induction symbols with
  | nil => exact Traced.ensures_pure rfl
  | cons name names ih =>
      rw [resolveAll]
      refine (ensures_resolve directory library label name).bind ?_
      intro result hresult
      rw [LibraryDirectory.provides, List.all_cons, ← hresult]
      cases result with
      | ok _ => exact ih
      | error failure => exact Traced.ensures_pure rfl

theorem ensures_resolveListing :
    Traced.Ensures (resolveListing directory library)
      fun result => result.toOption = modernListing? directory library := by
  rw [resolveListing, modernListing?]
  refine (ensures_resolve directory library _ _).bind ?_
  intro result hresult
  simp only [LibraryDirectory.provides, List.all_cons, List.all_nil, Bool.and_true, ← hresult]
  cases result with
  | ok _ => exact Traced.ensures_pure rfl
  | error failure =>
      refine (ensures_resolve directory library _ _).bind ?_
      intro former hformer
      simp only [← hformer]
      cases former with
      | ok _ => exact Traced.ensures_pure rfl
      | error other => exact Traced.ensures_pure rfl

end

theorem Library.ensures_load (directory : LibraryDirectory) :
    Traced.Ensures (Library.load directory) fun result => result.toOption = loaded? directory := by
  rw [Library.load]
  refine (ensures_loadFirst directory _ _).bind ?_
  intro found hfound
  rw [loaded?, ← hfound]
  cases found with
  | error failure => exact Traced.ensures_pure rfl
  | ok library =>
      apply Traced.ensures_unit_bind
      refine (ensures_resolveListing directory library).bind ?_
      intro listing hlisting
      simp only [Except.toOption, Option.bind_eq_bind, Option.bind_some, ← hlisting]
      cases listing with
      | error failure => exact Traced.ensures_unit_bind (Traced.ensures_pure rfl)
      | ok modernListing =>
          refine (ensures_resolveAll directory library _ _).bind ?_
          intro others hothers
          simp only [← hothers]
          cases others with
          | error failure => exact Traced.ensures_unit_bind (Traced.ensures_pure rfl)
          | ok _ => exact Traced.ensures_pure rfl

theorem ensures_loadContextLibrary (directory : LibraryDirectory) :
    Traced.Ensures (loadContextLibrary directory)
      fun result => result.isOk = contextsLoad directory := by
  rw [loadContextLibrary]
  refine (ensures_loadFirst directory _ _).bind ?_
  intro found hfound
  rw [contextsLoad, ← hfound]
  cases found with
  | error failure => exact Traced.ensures_pure rfl
  | ok library =>
      apply Traced.ensures_unit_bind
      refine (ensures_resolveAll directory library _ _).bind ?_
      intro symbols hsymbols
      simp only [Except.toOption, Option.any_some, ← hsymbols]
      cases symbols with
      | error failure => exact Traced.ensures_unit_bind (Traced.ensures_pure rfl)
      | ok _ => exact Traced.ensures_pure rfl

/-! ## Listing -/

/-- The devices of the list with their places in it, if both calls succeed. -/
def Driver.listed? (driver : Driver) : Option (List (ListedDevice × Nat)) :=
  let capacity := driver.count.toInt.toNat
  let filled := driver.filledCount capacity
  if driver.count < 0 then none
  else if driver.count = 0 then some []
  else if filled < 0 then none
  else some ((driver.stored capacity).take filled.toInt.toNat).zipIdx

/-- The place of a device in the list is where the driver knows it. -/
theorem Driver.device?_of_listed? {driver : Driver} {entries : List (ListedDevice × Nat)}
    (h : driver.listed? = some entries) {entry : ListedDevice × Nat} (hmem : entry ∈ entries) :
    driver.device? entry.2 = some entry.1 := by
  have htake : ∃ count, entries = (driver.devices.take count).zipIdx := by
    rw [listed?] at h
    split at h
    · cases h
    split at h
    · cases h
      exact ⟨0, rfl⟩
    split at h
    · cases h
    · cases h
      exact ⟨_, by rw [stored, List.take_take]⟩
  obtain ⟨count, rfl⟩ := htake
  have hentry := List.mem_zipIdx_iff_getElem?.mp hmem
  rw [List.getElem?_take] at hentry
  by_cases hplace : entry.2 < count
  · rw [if_pos hplace] at hentry
    exact hentry
  · rw [if_neg hplace] at hentry
    cases hentry

/-- Both calls of a listing succeed and answer one number of devices. -/
structure Driver.Agrees (driver : Driver) : Prop where
  succeeds : 0 ≤ driver.count
  /-- The list is not filled when there is nothing to put into it. -/
  fills : driver.count ≠ 0 → driver.filledCount driver.count.toInt.toNat = driver.count

theorem Driver.Agrees.listed?_eq {driver : Driver} (h : driver.Agrees) :
    driver.listed? = some (driver.devices.take driver.count.toInt.toNat).zipIdx := by
  have hnonneg : ¬driver.count < 0 := Int32.not_lt.mpr h.succeeds
  rw [listed?, if_neg hnonneg]
  by_cases hzero : driver.count = 0
  · rw [if_pos hzero, hzero]
    rfl
  · rw [if_neg hzero, h.fills hzero, if_neg hnonneg, stored, List.take_take, Nat.min_self]

theorem ListedDevice.pci?_eq_some {listed : ListedDevice} {index : Nat} {device : PciDevice}
    (h : listed.pci? index = some device) :
    listed.address = some device.address ∧ device.index = index ∧
      device.nodes = listed.renderNode.toList ++ listed.primaryNode.toList := by
  rw [pci?] at h
  by_cases hbus : (!listed.isNull && listed.busType = pciBus) = true
  · rw [if_pos hbus] at h
    cases haddress : listed.address with
    | none =>
        rw [haddress] at h
        cases h
    | some address =>
        cases hids : listed.ids with
        | none =>
            rw [haddress, hids] at h
            cases h
        | some ids =>
            rw [haddress, hids] at h
            cases h
            exact ⟨rfl, rfl, rfl⟩
  · rw [if_neg hbus] at h
    cases h

theorem statusText_minValue : statusText Int32.minValue = .error .negationOverflow := rfl

theorem exists_statusText {status : Int32} (h : status ≠ Int32.minValue) :
    ∃ text, statusText status = .ok text := by
  rw [statusText]
  cases libraryStatusText? status with
  | some text => exact ⟨text, rfl⟩
  | none => exact ⟨_, if_neg h⟩

theorem ensures_statusText_bind {α : Type} (status : Int32) (failure : String → Failure) :
    Run.Ensures
      (do
        let text ← statusText status
        return .error (failure text) : Run (Except Failure α))
      fun result => ∀ a, result ≠ .ok (.ok a) := by
  refine Run.Ensures.bind (P := fun _ => True) (fun _ => trivial) ?_ fun _ _ => nofun
  intro text _
  exact Run.ensures_pure nofun

theorem Library.ensures_pciDevices (library : Library) (driver : Driver) :
    Run.Ensures (library.pciDevices driver) fun result =>
      (∀ listed, driver.listed? = some listed →
        result = .ok (.ok (listed.filterMap fun (device, index) => device.pci? index))) ∧
      (driver.listed? = none → ∀ devices, result ≠ .ok (.ok devices)) := by
  rw [pciDevices]
  apply Run.ensures_unit_bind
  dsimp only
  by_cases hcount : driver.count < 0
  · have hnone : driver.listed? = none := by rw [Driver.listed?, if_pos hcount]
    rw [if_pos hcount, hnone]
    exact (ensures_statusText_bind driver.count .drm).mono fun _ h => ⟨nofun, fun _ => h⟩
  · rw [if_neg hcount]
    by_cases hzero : driver.count = 0
    · have hnil : driver.listed? = some [] := by rw [Driver.listed?, if_neg hcount, if_pos hzero]
      rw [if_pos hzero, hnil]
      apply Run.ensures_pure
      refine ⟨?_, nofun⟩
      intro listed hlisted
      cases hlisted
      rfl
    · rw [if_neg hzero]
      apply Run.ensures_unit_bind
      by_cases hfilled : driver.filledCount driver.count.toInt.toNat < 0
      · have hnone : driver.listed? = none := by
          rw [Driver.listed?, if_neg hcount, if_neg hzero, if_pos hfilled]
        rw [if_pos hfilled, hnone]
        exact (ensures_statusText_bind _ .drm).mono fun _ h => ⟨nofun, fun _ => h⟩
      · rw [if_neg hfilled]
        apply Run.ensures_unit_bind
        apply Run.ensures_pure
        rw [Driver.listed?, if_neg hcount, if_neg hzero, if_neg hfilled]
        refine ⟨?_, nofun⟩
        intro listed hlisted
        cases hlisted
        rfl

end Drm

end GpuTelemetry
