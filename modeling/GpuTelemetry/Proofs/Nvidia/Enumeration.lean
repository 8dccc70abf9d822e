import GpuTelemetry.Nvidia.Vendor
import GpuTelemetry.Proofs.Device.Selection
import GpuTelemetry.Proofs.Ensures

/-!
# Enumerating NVIDIA devices

The devices are the numbers below the count that the library answers. A device
is found if it is selected and the library has a handle for its number.
-/

namespace GpuTelemetry.Nvidia

open Nvml Platform

variable {library : Library} {driver : Driver}

/-- What asking for the device with a number gives, if it succeeds. -/
def Library.opened? (library : Library) (driver : Driver) (index : Nat) : Option Device :=
  (library.device driver index).toOption.map fun _ => { library, index }

/-- What each device of the library gives, if the library can tell how many there are. -/
def Library.offers (library : Library) (driver : Driver) : Option (List (Option Device)) :=
  (library.query "nvmlDeviceGetCount_v2" driver.count).toOption.map fun count =>
    (List.range count.toNat).map (library.opened? driver)

theorem ensures_openSelected (library : Library) (driver : Driver) (count index : Nat)
    (mask : DeviceMask) :
    Traced.Ensures (openSelected library driver count index mask) (· =
      ((mask.select (List.range' index count)).filterMap (library.opened? driver),
        mask.after count)) := by
  induction count generalizing index mask with
  | zero =>
      apply Traced.ensures_pure
      simp
  | succ count ih =>
      rw [openSelected, List.range'_succ, DeviceMask.select_cons, DeviceMask.after_succ]
      by_cases hselected : mask.selected = true
      · have hincluded : ¬(!mask.selected) = true := by simp [hselected]
        rw [if_neg hincluded, if_pos hselected, List.filterMap_cons]
        cases hdevice : library.device driver index with
        | error failure =>
            have hnone : library.opened? driver index = none := by
              rw [Library.opened?, hdevice]
              rfl
            rw [hnone]
            exact Traced.ensures_unit_bind (ih (index + 1) mask.rest)
        | ok listed =>
            have hsome : library.opened? driver index = some { library, index } := by
              rw [Library.opened?, hdevice]
              rfl
            rw [hsome]
            apply Traced.ensures_unit_bind
            refine (ih (index + 1) mask.rest).bind ?_
            rintro _ rfl
            exact Traced.ensures_pure rfl
      · have hexcluded : (!mask.selected) = true := by simp [hselected]
        rw [if_pos hexcluded, if_neg hselected]
        exact Traced.ensures_unit_bind (ih (index + 1) mask.rest)

namespace Vendor

/-- The library after a successful initialization, whatever was loaded before. -/
theorem ensures_init (directory : LibraryDirectory) (driver : Driver) (vendor : Vendor) :
    Run.Ensures (vendor.init directory driver) fun result =>
      ∀ outcome started, result = .ok (outcome, started) →
        (outcome.toOption.map fun _ => started.library) =
          (load directory driver vendor).toOption.map some := by
  rw [init]
  cases load directory driver vendor with
  | error failure =>
      apply Run.ensures_pure
      intro outcome started h
      cases h
      rfl
  | ok library =>
      apply Run.ensures_unit_bind
      refine Run.Ensures.bind (P := fun _ => True) (fun _ => trivial) ?_ ?_
      · intro _ _
        apply Run.ensures_pure
        intro outcome started h
        cases h
        rfl
      · intro fault _ outcome started h
        cases h

theorem ensures_enumerate {vendor : Vendor} (hlibrary : vendor.library = some library)
    (mask : DeviceMask) :
    Traced.Ensures (vendor.enumerate driver mask) fun outcome =>
      match library.offers driver with
      | none => outcome.1.toOption = none ∧ outcome.2.1 = mask
      | some offers =>
        outcome = (.ok ((mask.select offers).filterMap id), mask.after offers.length, vendor) := by
  rw [enumerate, hlibrary, Library.offers]
  dsimp only
  cases library.query "nvmlDeviceGetCount_v2" driver.count with
  | error failure => exact Traced.ensures_pure ⟨rfl, rfl⟩
  | ok count =>
      refine (ensures_openSelected library driver count.toNat 0 mask).bind ?_
      rintro _ rfl
      apply Traced.ensures_pure
      dsimp only [Except.toOption, Option.map_some]
      rw [List.length_map, List.length_range, DeviceMask.select_map, List.filterMap_map,
        List.range_eq_range']
      rfl

end Vendor

end GpuTelemetry.Nvidia
