import GpuTelemetry.Proofs.Drm.Library
import Mathlib.Data.List.Basic

/-!
# Listing devices

The library is asked for a number of devices and then fills a list with room for
so many. Whatever the two answers are, every slot up to the second one is read at
most once and none beyond the list. The list is given back with the second
answer, so that it stays within its bounds just when that answer is not larger
than the first.
-/

namespace GpuTelemetry.Drm

/-- The slots of a list with room for `capacity` devices, with a null pointer in those that the
library did not fill. -/
def Driver.slots (driver : Driver) (capacity : Nat) : List (Option ListedDevice) :=
  (driver.stored capacity).map some ++
    List.replicate (capacity - (driver.stored capacity).length) none

theorem Driver.length_slots (driver : Driver) (capacity : Nat) :
    (driver.slots capacity).length = capacity := by
  have hstored : (driver.stored capacity).length ≤ capacity := List.length_take_le _ _
  simp only [slots, List.length_append, List.length_map, List.length_replicate]
  omega

/-- The first `count` slots of a list are read: a slot gives the device that it holds, if that is a
PCI device, and no device comes from elsewhere. -/
structure Reads (slots : List (Option ListedDevice)) (count : Nat) (devices : List PciDevice) :
    Prop where
  within : ∀ device ∈ devices, device.index < count ∧ device.index < slots.length
  each : ∀ index slot, index < count → slots[index]? = some slot →
    (devices.filter fun device => device.index = index) =
      (slot.bind fun listed => listed.pci? index).toList

/-- The PCI devices of a list of which the first one has the number `start`. -/
def pciDevicesFrom (start : Nat) (listed : List ListedDevice) : List PciDevice :=
  (listed.zipIdx start).filterMap fun (device, index) => device.pci? index

theorem pciDevicesFrom_cons (start : Nat) (first : ListedDevice) (rest : List ListedDevice) :
    pciDevicesFrom start (first :: rest) =
      (first.pci? start).toList ++ pciDevicesFrom (start + 1) rest := by
  rw [pciDevicesFrom, List.zipIdx_cons, List.filterMap_cons]
  dsimp only
  cases first.pci? start <;> rfl

theorem filter_pci? (listed : ListedDevice) (place index : Nat) :
    ((listed.pci? place).toList.filter fun device => device.index = index) =
      if place = index then (listed.pci? index).toList else [] := by
  cases hpci : listed.pci? place with
  | none =>
      split
      next heq => rw [← heq, hpci]; rfl
      next => rfl
  | some device =>
      have hindex := (ListedDevice.pci?_eq_some hpci).2.1
      by_cases heq : place = index
      · subst heq
        simp [hpci, hindex]
      · simp [hindex, heq]

theorem filter_pciDevicesFrom (start index : Nat) (listed : List ListedDevice) :
    ((pciDevicesFrom start listed).filter fun device => device.index = index) =
      if start ≤ index then (listed[index - start]?.bind fun device => device.pci? index).toList
      else [] := by
  induction listed generalizing start with
  | nil => simp [pciDevicesFrom]
  | cons first rest ih =>
      rw [pciDevicesFrom_cons, List.filter_append, filter_pci?, ih]
      rcases Nat.lt_trichotomy start index with hbefore | hhere | hafter
      · have hnext : index - start = index - (start + 1) + 1 := by omega
        rw [if_neg (Nat.ne_of_lt hbefore), if_pos (Nat.succ_le_of_lt hbefore),
          if_pos (Nat.le_of_lt hbefore), hnext, List.getElem?_cons_succ, List.nil_append]
      · subst hhere
        rw [if_pos rfl, if_neg (Nat.not_succ_le_self start), if_pos (Nat.le_refl start),
          Nat.sub_self, List.append_nil]
        rfl
      · rw [if_neg (Nat.ne_of_gt hafter), if_neg (by omega), if_neg (by omega)]
        rfl

theorem Driver.getElem?_slots (driver : Driver) {capacity index : Nat}
    {slot : Option ListedDevice} (h : (driver.slots capacity)[index]? = some slot) :
    (driver.stored capacity)[index]? = slot := by
  rw [slots] at h
  by_cases hstored : index < (driver.stored capacity).length
  · rw [List.getElem?_append_left (by simpa using hstored), List.getElem?_map] at h
    obtain ⟨listed, hlisted, rfl⟩ := Option.map_eq_some_iff.mp h
    exact hlisted
  · rw [List.getElem?_append_right (by simpa using hstored)] at h
    rw [List.getElem?_eq_none (Nat.le_of_not_lt hstored)]
    exact (List.eq_of_mem_replicate (List.mem_of_getElem? h)).symm

theorem Driver.reads_filled (driver : Driver) (capacity count : Nat) :
    Reads (driver.slots capacity) count
      (pciDevicesFrom 0 ((driver.stored capacity).take count)) where
  within := by
    intro device hdevice
    obtain ⟨⟨listed, place⟩, hentry, hpci⟩ := List.mem_filterMap.mp hdevice
    have hindex := (ListedDevice.pci?_eq_some hpci).2.1
    have hplace := List.snd_lt_of_mem_zipIdx hentry
    have hstored : (driver.stored capacity).length ≤ capacity := List.length_take_le _ _
    rw [List.length_take] at hplace
    rw [driver.length_slots, hindex]
    dsimp only at hplace
    omega
  each := by
    intro index slot hcount hslot
    rw [filter_pciDevicesFrom, if_pos (Nat.zero_le index), Nat.sub_zero, List.getElem?_take,
      if_pos hcount, driver.getElem?_slots hslot]

/-! ## The calls of a listing -/

section

variable (library : Library) {driver : Driver} (trace : List Event)

/-- The text of a status leaves the trace as it is. -/
theorem run_statusText {α : Type} (status : Int32) (failure : String → Failure) :
    StateT.run (ExceptT.run (do
      let text ← statusText status
      return .error (failure text) : Run (Except Failure α))) trace =
      ((statusText status).map fun text => .error (failure text), trace) := by
  cases statusText status <;> rfl

theorem map_error_ne_ok {α : Type} (text : Except Fault String) (failure : String → Failure)
    (a : α) : (text.map fun text => (.error (failure text) : Except Failure α)) ≠ .ok (.ok a) := by
  cases text <;> exact nofun

theorem run_of_no_count (hcount : driver.count < 0) :
    StateT.run (ExceptT.run (library.pciDevices driver)) trace =
      ((statusText driver.count).map fun text => .error (.drm text),
        trace ++ [.drm (.listDevices library.modernListing 0)]) := by
  rw [Library.pciDevices, Run.run_lift_bind]
  dsimp only
  rw [if_pos hcount]
  exact run_statusText _ driver.count .drm

theorem run_of_count_zero (hcount : driver.count = 0) :
    StateT.run (ExceptT.run (library.pciDevices driver)) trace =
      (.ok (.ok []), trace ++ [.drm (.listDevices library.modernListing 0)]) := by
  rw [Library.pciDevices, Run.run_lift_bind]
  dsimp only
  rw [hcount]
  rfl

theorem run_of_not_filled (hcount : 0 < driver.count)
    (hfilled : driver.filledCount driver.count.toInt.toNat < 0) :
    StateT.run (ExceptT.run (library.pciDevices driver)) trace =
      ((statusText (driver.filledCount driver.count.toInt.toNat)).map fun text =>
          .error (.drm text),
        trace ++ [.drm (.listDevices library.modernListing 0),
          .drm (.listDevices library.modernListing driver.count)]) := by
  rw [Library.pciDevices, Run.run_lift_bind]
  dsimp only
  rw [if_neg (Int32.not_lt.mpr (Int32.le_of_lt hcount)), if_neg (Int32.ne_of_lt hcount).symm,
    Run.run_lift_bind, if_pos hfilled, List.append_cons trace _ [_]]
  exact run_statusText _ _ .drm

theorem run_of_filled (hcount : 0 < driver.count)
    (hfilled : 0 ≤ driver.filledCount driver.count.toInt.toNat) :
    StateT.run (ExceptT.run (library.pciDevices driver)) trace =
      (.ok (.ok (pciDevicesFrom 0 ((driver.stored driver.count.toInt.toNat).take
          (driver.filledCount driver.count.toInt.toNat).toInt.toNat))),
        trace ++ [.drm (.listDevices library.modernListing 0),
          .drm (.listDevices library.modernListing driver.count),
          .drm (.freeDevices (driver.filledCount driver.count.toInt.toNat))]) := by
  rw [Library.pciDevices, Run.run_lift_bind]
  dsimp only
  rw [if_neg (Int32.not_lt.mpr (Int32.le_of_lt hcount)), if_neg (Int32.ne_of_lt hcount).symm,
    Run.run_lift_bind, if_neg (Int32.not_lt.mpr hfilled), Run.run_lift_bind,
    List.append_cons trace _ [_, _], List.append_cons _ _ [_]]
  rfl

end

/-- What a listing does with the two answers of the library. -/
theorem listing_of_answers (library : Library) (driver : Driver) (trace : List Event) :
    let capacity := driver.count.toInt.toNat
    let filled := driver.filledCount capacity
    let listed := Event.drm (.listDevices library.modernListing 0)
    let fetched := Event.drm (.listDevices library.modernListing driver.count)
    let outcome := StateT.run (ExceptT.run (library.pciDevices driver)) trace
    (driver.count ≤ 0 → outcome.2 = trace ++ [listed] ∧
      ∀ devices, outcome.1 = .ok (.ok devices) → devices = []) ∧
    (0 < driver.count → filled < 0 → outcome.2 = trace ++ [listed, fetched] ∧
      ∀ devices, outcome.1 ≠ .ok (.ok devices)) ∧
    (0 < driver.count → 0 ≤ filled →
      outcome.2 = trace ++ [listed, fetched, .drm (.freeDevices filled)] ∧
      (∃ devices, outcome.1 = .ok (.ok devices) ∧
        Reads (driver.slots capacity) filled.toInt.toNat devices) ∧
      (filled.toInt.toNat ≤ (driver.slots capacity).length ↔ filled ≤ driver.count)) := by
  intro capacity filled listed fetched outcome
  refine ⟨?_, ?_, ?_⟩
  · intro hcount
    by_cases hzero : driver.count = 0
    · have hrun : outcome = _ := run_of_count_zero library trace hzero
      rw [hrun]
      refine ⟨rfl, ?_⟩
      intro devices hdevices
      cases hdevices
      rfl
    · have hnegative : driver.count < 0 := Int32.lt_of_le_of_ne hcount hzero
      have houtcome : outcome = _ := run_of_no_count library trace hnegative
      rw [houtcome]
      exact ⟨rfl, fun devices hdevices => absurd hdevices (map_error_ne_ok _ .drm devices)⟩
  · intro hcount hfilled
    have houtcome : outcome = _ := run_of_not_filled library trace hcount hfilled
    rw [houtcome]
    exact ⟨rfl, map_error_ne_ok _ .drm⟩
  · intro hcount hfilled
    have houtcome : outcome = _ := run_of_filled library trace hcount hfilled
    rw [houtcome]
    refine ⟨rfl, ⟨_, rfl, driver.reads_filled capacity filled.toInt.toNat⟩, ?_⟩
    rw [driver.length_slots, Int32.le_iff_toInt_le]
    have hpositive := Int32.lt_iff_toInt_lt.mp hcount
    have hnonneg := Int32.le_iff_toInt_le.mp hfilled
    rw [Int32.toInt_zero] at hpositive hnonneg
    simp only [capacity]
    omega

/-- One of the two devices that were counted is on another bus, a third one is gone. -/
theorem listing_of_lost_device :
    let own : ListedDevice :=
      { address := some { domain := 1, bus := 11, device := 0, function := 0 }
        ids := some (0x1002, 0x73bf)
        renderNode := none
        primaryNode := none
        version := none }
    let driver : Driver := { devices := [{ own with busType := 1 }, own], count := 3 }
    let outcome := StateT.run (ExceptT.run (Library.pciDevices ⟨true⟩ driver)) []
    0 < driver.count ∧ 0 ≤ driver.filledCount 3 ∧
      outcome.2 = [.drm (.listDevices true 0), .drm (.listDevices true 3), .drm (.freeDevices 2)] ∧
      ∃ devices, outcome.1 = .ok (.ok devices) ∧ Reads (driver.slots 3) 2 devices ∧
        (driver.slots 3).length = 3 := by
  intro own driver outcome
  have hcount : 0 < driver.count := by decide
  have hfilled : 0 ≤ driver.filledCount 3 := by decide
  obtain ⟨hcalls, ⟨devices, hdevices, hreads⟩, -⟩ :=
    (listing_of_answers ⟨true⟩ driver []).2.2 hcount hfilled
  exact ⟨hcount, hfilled, hcalls, devices, hdevices, hreads, driver.length_slots 3⟩

/-- A second device appears between the two calls, and the library counts it although the list has no
room for it. -/
theorem list_freed_beyond_its_bounds :
    let own : ListedDevice :=
      { address := some { domain := 1, bus := 11, device := 0, function := 0 }
        ids := some (0x1002, 0x73bf)
        renderNode := none
        primaryNode := none
        version := none }
    let driver : Driver := { devices := [own, own], count := 1, filled := some 2 }
    (StateT.run (ExceptT.run (Library.pciDevices ⟨true⟩ driver)) []).2 =
        [.drm (.listDevices true 0), .drm (.listDevices true 1), .drm (.freeDevices 2)] ∧
      (driver.slots 1).length = 1 :=
  ⟨rfl, rfl⟩

end GpuTelemetry.Drm
