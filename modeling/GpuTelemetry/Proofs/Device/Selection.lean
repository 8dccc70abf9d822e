import GpuTelemetry.Device.Mask
import Mathlib.Data.List.Basic

/-!
# The devices that a mask selects

The devices of an enumeration are numbered from zero on. Bit `min i 63` of a mask
is for the device with number `i`, and each device uses up one bit whether or not
it can be opened.
-/

namespace GpuTelemetry.DeviceMask

/-- The bit for the device with a number. -/
def bit (mask : DeviceMask) (number : Nat) : Bool :=
  mask.bits.getLsbD (min number 63)

/-- The mask for the devices after the first ones. -/
def after (mask : DeviceMask) (count : Nat) : DeviceMask :=
  ⟨mask.bits.sshiftRight count⟩

/-- Those of some devices whose bits are set. -/
def select {α : Type} (mask : DeviceMask) (devices : List α) : List α :=
  (devices.zipIdx.filter fun (_, number) => mask.bit number).map Prod.fst

theorem selected_eq_bit (mask : DeviceMask) : mask.selected = mask.bit 0 := rfl

theorem bit_rest (mask : DeviceMask) (number : Nat) :
    mask.rest.bit number = mask.bit (number + 1) := by
  have hshift := BitVec.getLsbD_sshiftRight mask.bits 1 (min number 63)
  have hin : ¬64 ≤ min number 63 := by omega
  rw [bit, rest, hshift, bit]
  by_cases hlast : number < 63
  · have hnext : min (number + 1) 63 = 1 + min number 63 := by omega
    have hroom : 1 + min number 63 < 64 := by omega
    simp [hin, hroom, hnext]
  · -- beyond the last bit the sign stands for all devices
    have hnext : min (number + 1) 63 = 63 := by omega
    have hroom : ¬1 + min number 63 < 64 := by omega
    rw [hnext]
    simp [hin, hroom, BitVec.msb_eq_getLsbD_last]

@[simp] theorem after_zero (mask : DeviceMask) : mask.after 0 = mask := by
  simp [after]

theorem after_succ (mask : DeviceMask) (count : Nat) :
    mask.after (count + 1) = mask.rest.after count := by
  rw [after, after, rest, Nat.add_comm, BitVec.sshiftRight_add]

variable {α β : Type}

@[simp] theorem select_nil (mask : DeviceMask) : mask.select ([] : List α) = [] := rfl

theorem select_cons (mask : DeviceMask) (device : α) (devices : List α) :
    mask.select (device :: devices) =
      if mask.selected then device :: mask.rest.select devices else mask.rest.select devices := by
  have hrest : mask.rest.select devices =
      ((devices.zipIdx 1).filter fun (_, number) => mask.bit number).map Prod.fst := by
    rw [select, List.zipIdx_succ, List.filter_map, List.map_map]
    simp only [bit_rest]
    rfl
  rw [hrest, select, List.zipIdx_cons, List.filter_cons, selected_eq_bit]
  by_cases hselected : mask.bit 0 = true
  · rw [if_pos hselected, if_pos hselected, List.map_cons]
  · rw [if_neg hselected, if_neg hselected]

theorem mem_of_mem_select {mask : DeviceMask} {devices : List α} {device : α}
    (h : device ∈ mask.select devices) : device ∈ devices := by
  obtain ⟨entry, hentry, rfl⟩ := List.mem_map.mp h
  exact List.fst_mem_of_mem_zipIdx (List.mem_filter.mp hentry).1

theorem select_append (mask : DeviceMask) (first second : List α) :
    mask.select (first ++ second) =
      mask.select first ++ (mask.after first.length).select second := by
  induction first generalizing mask with
  | nil => simp
  | cons device devices ih =>
      rw [List.cons_append, select_cons, select_cons, ih, List.length_cons, after_succ]
      by_cases hselected : mask.selected = true
      · rw [if_pos hselected, if_pos hselected, List.cons_append]
      · rw [if_neg hselected, if_neg hselected]

theorem select_map (f : α → β) (mask : DeviceMask) (devices : List α) :
    mask.select (devices.map f) = (mask.select devices).map f := by
  induction devices generalizing mask with
  | nil => rfl
  | cons device devices ih =>
      rw [List.map_cons, select_cons, select_cons, ih]
      by_cases hselected : mask.selected = true
      · rw [if_pos hselected, if_pos hselected, List.map_cons]
      · rw [if_neg hselected, if_neg hselected]

end GpuTelemetry.DeviceMask
