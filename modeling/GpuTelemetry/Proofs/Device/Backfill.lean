import GpuTelemetry.Device.Backfill
import Mathlib.Algebra.GroupWithZero.Nat
import Mathlib.Data.List.Forall2

/-!
# Rates that the processes add up to

A device that lacks a rate gets the exact total of its processes, cut off at 100,
although the program cuts off after every process. So the rate depends neither on
the order of the processes nor on how often it is derived, and it never falls when
a usage grows.
-/

namespace GpuTelemetry

/-- The rates that a device can take from its processes. -/
inductive Rate
  | gpu
  | encoder
  | decoder
  deriving DecidableEq

namespace Rate

def value : Rate → DynamicInfo → Metric UInt32
  | gpu, info => info.gpuUtilization
  | encoder, info => info.encoderUtilization
  | decoder, info => info.decoderUtilization

/-- What a process contributes to a rate. -/
def usage : Rate → GpuProcess → Metric UInt32
  | gpu, process => process.gpuUsage
  | encoder, process => process.encodeUsage
  | decoder, process => process.decodeUsage

end Rate

/-- Device metrics without the rates that processes can contribute to. -/
def DynamicInfo.withoutRates (info : DynamicInfo) : DynamicInfo :=
  { info with gpuUtilization := none, encoderUtilization := none, decoderUtilization := none }

/-- The sum of some usages as a number without bound. -/
def totalUsage (usages : List UInt32) : Nat :=
  (usages.map UInt32.toNat).sum

/-- A total cut off at 100. -/
def cutOff (total : Nat) : UInt32 :=
  UInt32.ofNat (min 100 total)

theorem toNat_cutOff (total : Nat) : (cutOff total).toNat = min 100 total :=
  UInt32.toNat_ofNat_of_lt' (Nat.lt_of_le_of_lt (Nat.min_le_left 100 total) (by decide))

/-! ## Running sums -/

theorem addUsage_eq (rate : Metric UInt32) (usage : UInt32) :
    addUsage rate usage = some (cutOff ((rate.getD 0).toNat + usage.toNat)) := by
  have hsum : (Word.saturatingAdd (rate.getD 0) usage).toNat =
      min ((rate.getD 0).toNat + usage.toNat) (2 ^ 32 - 1) :=
    Word.toNat_saturate (α := UInt32) _
  rw [addUsage]
  congr 1
  apply UInt32.toNat_inj.mp
  rw [UInt32.toNat_min, hsum, toNat_cutOff]
  change min _ 100 = _
  omega

/-- A running sum that starts within the bound is the total cut off once. -/
theorem foldl_addUsage_some (usages : List UInt32) {start : UInt32} (h : start.toNat ≤ 100) :
    usages.foldl addUsage (some start) = some (cutOff (start.toNat + totalUsage usages)) := by
  induction usages generalizing start with
  | nil =>
      have hstart : cutOff start.toNat = start := by
        apply UInt32.toNat_inj.mp
        rw [toNat_cutOff, Nat.min_eq_right h]
      exact congrArg some hstart.symm
  | cons usage usages ih =>
      have hnext := toNat_cutOff (start.toNat + usage.toNat)
      rw [List.foldl_cons, addUsage_eq, Option.getD_some, ih (by omega), hnext]
      congr 1
      apply UInt32.toNat_inj.mp
      rw [toNat_cutOff, toNat_cutOff, totalUsage, totalUsage, List.map_cons, List.sum_cons]
      omega

theorem foldl_addUsage_none (usages : List UInt32) :
    usages.foldl addUsage none =
      if usages = [] then none else some (cutOff (totalUsage usages)) := by
  cases usages with
  | nil => rfl
  | cons usage usages =>
      -- the first usage is added to nothing as it is to zero
      have hzero : (usage :: usages).foldl addUsage none =
          (usage :: usages).foldl addUsage (some 0) := rfl
      rw [hzero, foldl_addUsage_some _ (by decide), if_neg (List.cons_ne_nil usage usages)]
      simp

theorem backfilledRate_none (usages : List (Metric UInt32)) :
    backfilledRate none usages =
      if usages.filterMap id = [] then none
      else some (cutOff (totalUsage (usages.filterMap id))) :=
  foldl_addUsage_none (usages.filterMap id)

theorem backfilledRate_of_perm (rate : Metric UInt32) {usages others : List (Metric UInt32)}
    (h : usages.Perm others) : backfilledRate rate usages = backfilledRate rate others := by
  cases rate with
  | some r => rfl
  | none =>
      have hpresent : (usages.filterMap id).Perm (others.filterMap id) := h.filterMap id
      have htotal : totalUsage (usages.filterMap id) = totalUsage (others.filterMap id) :=
        (hpresent.map UInt32.toNat).sum_nat
      have hnil : usages.filterMap id = [] ↔ others.filterMap id = [] := by
        rw [← List.length_eq_zero_iff, hpresent.length_eq, List.length_eq_zero_iff]
      simp only [backfilledRate_none, htotal, hnil]

theorem totalUsage_le {usages others : List (Metric UInt32)}
    (h : List.Forall₂ (· ≤ ·) usages others) :
    totalUsage (usages.filterMap id) ≤ totalUsage (others.filterMap id) ∧
      (others.filterMap id = [] → usages.filterMap id = []) := by
  induction h with
  | nil => exact ⟨Nat.le_refl _, fun _ => rfl⟩
  | @cons usage other usages others hle _ ih =>
      obtain ⟨htotal, hnil⟩ := ih
      cases other with
      | none =>
          rw [Option.le_none.mp hle]
          exact ⟨htotal, hnil⟩
      | some b =>
          refine ⟨?_, fun hcons => by cases hcons⟩
          cases usage with
          | none => exact Nat.le_trans htotal (Nat.le_add_left _ _)
          | some a =>
              have hab := UInt32.le_iff_toNat_le.mp (Option.some_le_some.mp hle)
              exact Nat.add_le_add hab htotal

theorem backfilledRate_le (rate : Metric UInt32) {usages others : List (Metric UInt32)}
    (h : List.Forall₂ (· ≤ ·) usages others) :
    backfilledRate rate usages ≤ backfilledRate rate others := by
  cases rate with
  | some r => exact Option.some_le_some.mpr (UInt32.le_refl r)
  | none =>
      obtain ⟨htotal, hnil⟩ := totalUsage_le h
      rw [backfilledRate_none, backfilledRate_none]
      split
      next => exact Option.none_le
      next husages =>
          rw [if_neg fun hothers => husages (hnil hothers)]
          apply Option.some_le_some.mpr
          rw [UInt32.le_iff_toNat_le, toNat_cutOff, toNat_cutOff]
          omega

theorem backfilledRate_again (rate : Metric UInt32) (usages : List (Metric UInt32)) :
    backfilledRate (backfilledRate rate usages) usages = backfilledRate rate usages := by
  cases hrate : backfilledRate rate usages with
  | some r => rfl
  | none =>
      cases rate with
      | some r => cases hrate
      | none => exact hrate

/-! ## Devices -/

namespace Device

variable {β : Type}

theorem value_backfill (rate : Rate) (device : Device β) :
    rate.value device.backfill.dynamicInfo =
      backfilledRate (rate.value device.dynamicInfo) (device.processes.map rate.usage) := by
  cases rate <;> rfl

/-- How a device comes out when the rates that it lacks are taken from its processes. -/
structure Backfilled (device filled : Device β) : Prop where
  reported : ∀ (rate : Rate) r, rate.value device.dynamicInfo = some r →
    rate.value filled.dynamicInfo = some r
  absent : ∀ rate : Rate, rate.value device.dynamicInfo = none →
    (∀ process ∈ device.processes, rate.usage process = none) →
      rate.value filled.dynamicInfo = none
  total : ∀ rate : Rate, rate.value device.dynamicInfo = none →
    (∃ process ∈ device.processes, rate.usage process ≠ none) →
      ∃ r : UInt32, rate.value filled.dynamicInfo = some r ∧ r ≤ 100 ∧
        r.toNat = min 100 (totalUsage (device.processes.filterMap rate.usage))
  rest : { filled with dynamicInfo := filled.dynamicInfo.withoutRates } =
    { device with dynamicInfo := device.dynamicInfo.withoutRates }

theorem backfilled_backfill (device : Device β) : device.Backfilled device.backfill := by
  have hvalue (rate : Rate) (hlacks : rate.value device.dynamicInfo = none) :
      rate.value device.backfill.dynamicInfo =
        if device.processes.filterMap rate.usage = [] then none
        else some (cutOff (totalUsage (device.processes.filterMap rate.usage))) := by
    rw [value_backfill, hlacks, backfilledRate_none, List.filterMap_map, Function.id_comp]
  refine ⟨?_, ?_, ?_, rfl⟩
  · intro rate r hreported
    rw [value_backfill, hreported]
    rfl
  · intro rate hlacks hnone
    rw [hvalue rate hlacks, if_pos (List.filterMap_eq_nil_iff.mpr hnone)]
  · rintro rate hlacks ⟨process, hprocess, husage⟩
    have hne : device.processes.filterMap rate.usage ≠ [] := fun hnil =>
      husage (List.filterMap_eq_nil_iff.mp hnil process hprocess)
    refine ⟨_, (hvalue rate hlacks).trans (if_neg hne), ?_, toNat_cutOff _⟩
    rw [UInt32.le_iff_toNat_le, toNat_cutOff]
    exact Nat.min_le_left _ _

theorem backfill_backfill (device : Device β) : device.backfill.backfill = device.backfill := by
  unfold backfill
  simp only [backfilledRate_again]

theorem backfill_of_perm {device : Device β} {processes : List GpuProcess}
    (h : device.processes.Perm processes) :
    ({ device with processes } : Device β).backfill = { device.backfill with processes } := by
  unfold backfill
  simp only [backfilledRate_of_perm _ (h.map _)]

/-- Every device of a list keeps the rates that it reported and gets the others as the total of its
processes, cut off at 100. Nothing else changes, and neither the order of the processes nor doing it
again makes a difference. A rate only grows with the usages that go into it, where an absent usage is
below every present one. -/
theorem rates_of_backfill (devices : List (Device β)) :
    List.Forall₂ Backfilled devices (devices.map backfill) ∧
      (devices.map backfill).map backfill = devices.map backfill ∧
      ∀ device ∈ devices, ∀ processes : List GpuProcess,
        (device.processes.Perm processes →
          ({ device with processes } : Device β).backfill = { device.backfill with processes }) ∧
        ∀ rate : Rate,
          List.Forall₂ (fun process other => rate.usage process ≤ rate.usage other)
            device.processes processes →
          rate.value device.backfill.dynamicInfo ≤
            rate.value ({ device with processes } : Device β).backfill.dynamicInfo := by
  refine ⟨?_, ?_, ?_⟩
  · rw [List.forall₂_map_right_iff, List.forall₂_same]
    exact fun device _ => device.backfilled_backfill
  · rw [List.map_map]
    exact List.map_congr_left fun device _ => device.backfill_backfill
  · intro device _ processes
    refine ⟨backfill_of_perm, ?_⟩
    intro rate hle
    rw [value_backfill, value_backfill]
    apply backfilledRate_le
    exact List.forall₂_map_left_iff.mpr (List.forall₂_map_right_iff.mpr hle)

/-- A usage as large as a word can hold, on a device that reports a decoder rate beyond 100. -/
theorem rates_of_backfill_of_two_processes :
    let busy : GpuProcess := { pid := 1, gpuUsage := some 4294967295, decodeUsage := some 7 }
    let idle : GpuProcess := { pid := 2, gpuUsage := some 3 }
    let device : Device Unit :=
      { vendor := 0
        dynamicInfo := { decoderUtilization := some 120 }
        processes := [idle, busy]
        backend := () }
    device ∈ [device] ∧ device.processes.Perm [busy, idle] ∧
      List.Forall₂ (fun process other => Rate.gpu.usage process ≤ Rate.gpu.usage other)
        device.processes [busy, busy] ∧
      Backfilled device device.backfill ∧
      ({ device with processes := [busy, idle] } : Device Unit).backfill =
        { device.backfill with processes := [busy, idle] } ∧
      Rate.gpu.value device.backfill.dynamicInfo ≤ Rate.gpu.value
        ({ device with processes := [busy, busy] } : Device Unit).backfill.dynamicInfo := by
  intro busy idle device
  have hmem : device ∈ [device] := List.mem_singleton.mpr rfl
  have hswap : device.processes.Perm [busy, idle] := List.Perm.swap busy idle []
  have hgrows : List.Forall₂ (fun process other => Rate.gpu.usage process ≤ Rate.gpu.usage other)
      device.processes [busy, busy] := by
    refine .cons ?_ (.cons ?_ .nil)
    · exact Option.some_le_some.mpr (by decide)
    · exact Option.some_le_some.mpr (by decide)
  obtain ⟨hfilled, -, hothers⟩ := rates_of_backfill [device]
  obtain ⟨hdevice, -⟩ := List.forall₂_cons.mp hfilled
  exact ⟨hmem, hswap, hgrows, hdevice, (hothers device hmem [busy, idle]).1 hswap,
    (hothers device hmem [busy, busy]).2 .gpu hgrows⟩

end Device

end GpuTelemetry
