import GpuTelemetry.Proofs.Device.Clients
import GpuTelemetry.Proofs.Drm.Address
import GpuTelemetry.Proofs.Fdinfo.Report
import GpuTelemetry.Proofs.Process.Merging

/-!
# Offering a text to devices

The first device that accepts a text reads it into a fresh record and merges the
record, and nothing else changes: devices that reject the text are left as they
were, whatever it says before it names another device. The addresses of different
PCI devices are different, so a text with an address is accepted by at most one
device, and then the order of the devices makes no difference.
-/

namespace GpuTelemetry

namespace Device

open Procfs

variable {β : Type} {device : Device β} {devices before rest : List (Device β)} {pid : UInt32}
  {text : List Char} {now : Nat}

/-- Whether a device accepts a text about a process, with the outcome of reading the text into a
fresh record. -/
def Claims (device : Device β) (pid : UInt32) (text : List Char) (now : Nat)
    (outcome : FdinfoReader.Outcome) : Prop :=
  ∃ reader, device.fdinfo = some reader ∧ reader.read text { pid } now = .ok outcome ∧
    outcome.accepted = true

/-- Whether those of some devices that have readers were opened at these addresses. -/
def OpenedAt (devices : List (Device β)) (addresses : List Drm.PciAddress) : Prop :=
  devices.filterMap address? = addresses.map Drm.PciAddress.text

theorem Claims.accepts {outcome : FdinfoReader.Outcome} (h : device.Claims pid text now outcome) :
    device.accepts text = true := by
  obtain ⟨reader, hreader, hread, haccepted⟩ := h
  rw [Device.accepts, hreader, Option.any_some, ← FdinfoReader.accepted_of_read hread, haccepted]

theorem claims_of_take {last : Device β} (haccepts : device.accepts text = true)
    (h : device.take ⟨pid, text, now⟩ = .ok last) :
    ∃ outcome processes, device.Claims pid text now outcome ∧
      outcome.process.Joins device.processes processes ∧
      last = { device with fdinfo := some outcome.reader, processes } := by
  cases hreader : device.fdinfo with
  | none => simp [accepts, hreader] at haccepts
  | some reader =>
      simp only [take, hreader] at h
      obtain ⟨outcome, hread, h⟩ := Fault.bind_eq_ok_iff.mp h
      obtain ⟨processes, hmerge, h⟩ := Fault.bind_eq_ok_iff.mp h
      cases h
      have haccepted : outcome.accepted = true := by
        simpa [accepts, hreader, FdinfoReader.accepted_of_read hread] using haccepts
      exact ⟨outcome, processes, ⟨reader, hreader, hread, haccepted⟩,
        GpuProcess.merge_eq_ok_iff.mp hmerge, rfl⟩

theorem dispatch_of_not_accepts (h : ∀ device ∈ devices, device.accepts text = false) :
    dispatch pid text now devices = .ok (devices, false) := by
  induction devices with
  | nil => rfl
  | cons device devices ih =>
      obtain ⟨hdevice, hdevices⟩ := List.forall_mem_cons.mp h
      rw [dispatch_cons_of_not_accepts hdevice, ih hdevices]
      rfl

theorem dispatch_append_cons (hbefore : ∀ other ∈ before, other.accepts text = false)
    (hdevice : device.accepts text = true) :
    dispatch pid text now (before ++ device :: rest) =
      (device.take ⟨pid, text, now⟩).map fun last => (before ++ last :: rest, true) := by
  induction before with
  | nil => exact dispatch_cons_of_accepts hdevice rest pid now
  | cons other before ih =>
      obtain ⟨hother, hbefore⟩ := List.forall_mem_cons.mp hbefore
      rw [List.cons_append, dispatch_cons_of_not_accepts hother, ih hbefore, Fault.map_map]
      rfl

/-- Either no device accepts a text, or there is a first one. -/
theorem exists_first_accepting (devices : List (Device β)) (text : List Char) :
    (∀ device ∈ devices, device.accepts text = false) ∨
      ∃ before device rest, devices = before ++ device :: rest ∧
        (∀ other ∈ before, other.accepts text = false) ∧ device.accepts text = true := by
  cases hfind : devices.find? (accepts text) with
  | none =>
      left
      simpa using hfind
  | some device =>
      right
      obtain ⟨hdevice, before, rest, hdevices, hbefore⟩ := List.find?_eq_some_iff_append.mp hfind
      exact ⟨before, device, rest, hdevices, by simpa using hbefore, hdevice⟩

/-! ## Devices at different addresses -/

/-- A device that accepts a text is at every address that the text names. -/
theorem address?_of_accepts {value : List Char} (hvalue : .address value ∈ Fdinfo.entries text)
    (h : device.accepts text = true) : device.address? = some value := by
  obtain ⟨reader, hreader, htext⟩ := (Option.any_eq_true ..).mp h
  rw [FdinfoReader.accepts, Fdinfo.isAbout, List.all_eq_true] at htext
  have hsame := of_decide_eq_true (htext value (List.mem_filterMap.mpr ⟨_, hvalue, rfl⟩))
  rw [address?, hreader, Option.map_some, hsame]

theorem length_accepting_le_one {addresses : List Drm.PciAddress} {value : List Char}
    (hopened : OpenedAt devices addresses) (hdistinct : addresses.Nodup)
    (hvalue : .address value ∈ Fdinfo.entries text) :
    (devices.filter (accepts text)).length ≤ 1 := by
  have haddresses : (devices.filterMap address?).Nodup := by
    rw [hopened]
    exact hdistinct.map fun _ _ => Drm.PciAddress.text_injective
  have hsame : (devices.filter (accepts text)).filterMap address? =
      List.replicate (devices.filter (accepts text)).length value := by
    have hall : ∀ device ∈ devices.filter (accepts text), device.address? = some value :=
      fun device hdevice => address?_of_accepts hvalue (List.mem_filter.mp hdevice).2
    rw [List.filterMap_congr hall, List.filterMap_eq_map', List.map_const']
  have hsublist : ((devices.filter (accepts text)).filterMap address?).Sublist
      (devices.filterMap address?) := List.filter_sublist.filterMap address?
  rw [hsame] at hsublist
  exact List.nodup_replicate.mp (hsublist.nodup haddresses)

/-- When at most one device accepts a text, each device ends up as it does in any other order. -/
theorem dispatch_of_perm {others : List (Device β)}
    (hone : (devices.filter (accepts text)).length ≤ 1) (hperm : others.Perm devices) :
    (∀ after claimed, dispatch pid text now devices = .ok (after, claimed) →
      ∃ otherAfter, dispatch pid text now others = .ok (otherAfter, claimed) ∧
        (others.zip otherAfter).Perm (devices.zip after)) ∧
    ∀ fault, dispatch pid text now devices = .error fault →
      dispatch pid text now others = .error fault := by
  have hself (list : List (Device β)) : list.zip list = list.map fun device => (device, device) := by
    rw [List.zip_eq_zipWith, List.zipWith_self]
  rcases exists_first_accepting devices text with
    hnone | ⟨before, device, rest, rfl, hbefore, hdevice⟩
  · have hothers : ∀ other ∈ others, other.accepts text = false :=
      fun other hother => hnone other (hperm.mem_iff.mp hother)
    rw [dispatch_of_not_accepts hnone, dispatch_of_not_accepts hothers]
    constructor
    · rintro after claimed ⟨⟩
      refine ⟨others, rfl, ?_⟩
      rw [hself, hself]
      exact hperm.map _
    · rintro fault ⟨⟩
  · -- the only device that accepts the text is found in the other order too
    obtain ⟨otherBefore, otherRest, rfl⟩ := List.append_of_mem
      (hperm.mem_iff.mpr (List.mem_append_right before List.mem_cons_self))
    have hremaining : (otherBefore ++ otherRest).Perm (before ++ rest) :=
      (List.perm_middle.symm.trans (hperm.trans List.perm_middle)).cons_inv
    have hreject : ∀ other ∈ before ++ rest, other.accepts text = false := by
      rw [(List.perm_middle.filter _).length_eq, List.filter_cons_of_pos hdevice,
        List.length_cons] at hone
      have hempty := List.eq_nil_of_length_eq_zero (Nat.le_zero.mp (Nat.le_of_succ_le_succ hone))
      simpa using List.filter_eq_nil_iff.mp hempty
    have hotherBefore : ∀ other ∈ otherBefore, other.accepts text = false :=
      fun other hother => hreject other (hremaining.mem_iff.mp (List.mem_append_left _ hother))
    rw [dispatch_append_cons hbefore hdevice, dispatch_append_cons hotherBefore hdevice]
    constructor
    · intro after claimed h
      obtain ⟨last, htake, hafter⟩ := Fault.map_eq_ok_iff.mp h
      cases hafter
      refine ⟨_, Fault.map_eq_ok_iff.mpr ⟨last, htake, rfl⟩, ?_⟩
      have hzip (front back : List (Device β)) :
          ((front ++ device :: back).zip (front ++ last :: back)).Perm
            ((device, last) :: (front ++ back).zip (front ++ back)) := by
        rw [List.zip_append rfl, List.zip_append rfl, List.zip_cons_cons]
        exact List.perm_middle
      refine (hzip otherBefore otherRest).trans (List.Perm.trans ?_ (hzip before rest).symm)
      rw [hself, hself]
      exact (hremaining.map _).cons _
    · intro fault h
      exact Fault.map_eq_error_iff.mpr (Fault.map_eq_error_iff.mp h)

/-- Dispatch reaches one device and leaves the others alone, and which one it is does not depend on
the order of devices at different addresses. -/
theorem dispatch_reaches_one (devices : List (Device β)) (pid : UInt32) (text : List Char)
    (now : Nat) :
    (∀ after claimed, dispatch pid text now devices = .ok (after, claimed) →
      (claimed = true ↔ ∃ device ∈ devices, ∃ outcome, device.Claims pid text now outcome) ∧
      (claimed = false → after = devices) ∧
      (claimed = true → ∃ before device rest outcome processes,
        devices = before ++ device :: rest ∧
        (∀ other ∈ before, ∀ foreign, ¬ other.Claims pid text now foreign) ∧
        device.Claims pid text now outcome ∧
        outcome.process.Joins device.processes processes ∧
        after = before ++ { device with fdinfo := some outcome.reader, processes } :: rest)) ∧
    ∀ addresses, OpenedAt devices addresses → addresses.Nodup →
      (∃ line ∈ Text.lines text, ∃ value, Fdinfo.Says line (.address value)) →
      (devices.filter (accepts text)).length ≤ 1 ∧
      ∀ others, others.Perm devices →
        (∀ after claimed, dispatch pid text now devices = .ok (after, claimed) →
          ∃ otherAfter, dispatch pid text now others = .ok (otherAfter, claimed) ∧
            (others.zip otherAfter).Perm (devices.zip after)) ∧
        ∀ fault, dispatch pid text now devices = .error fault →
          dispatch pid text now others = .error fault := by
  constructor
  · intro after claimed h
    rcases exists_first_accepting devices text with
      hnone | ⟨before, device, rest, rfl, hbefore, hdevice⟩
    · rw [dispatch_of_not_accepts hnone] at h
      cases h
      refine ⟨⟨nofun, ?_⟩, fun _ => rfl, nofun⟩
      rintro ⟨device, hmem, outcome, hclaims⟩
      exact absurd hclaims.accepts (by simp [hnone device hmem])
    · rw [dispatch_append_cons hbefore hdevice] at h
      obtain ⟨last, htake, hafter⟩ := Fault.map_eq_ok_iff.mp h
      cases hafter
      obtain ⟨outcome, processes, hclaims, hmerge, rfl⟩ := claims_of_take hdevice htake
      refine ⟨⟨fun _ => ⟨device, by simp, outcome, hclaims⟩, fun _ => rfl⟩, nofun, fun _ => ?_⟩
      refine ⟨before, device, rest, outcome, processes, rfl, ?_, hclaims, hmerge, rfl⟩
      intro other hother foreign hforeign
      exact absurd hforeign.accepts (by simp [hbefore other hother])
  · rintro addresses hopened hdistinct ⟨line, hline, value, hsays⟩
    have hvalue := Fdinfo.mem_entries_iff.mpr ⟨line, hline, hsays⟩
    have hone := length_accepting_le_one hopened hdistinct hvalue
    exact ⟨hone, fun others hperm => dispatch_of_perm hone hperm⟩

/-- The text names its device last, and that device has an entry of the process. The other device
keeps nothing of what the text says before. -/
theorem dispatch_reaches_second :
    let near : Drm.PciAddress := ⟨0, 0x0b, 0, 0⟩
    let far : Drm.PciAddress := ⟨0, 0x0c, 0, 0⟩
    let text := ("drm-client-id:\t7\ngfx0:\t20%\ndrm-engine-enc:\t90 ns\n" ++
      "drm-memory-vram:\t2 KiB\ndrm-pdev:\t0000:0c:00.0\n").toList
    let entry : GpuProcess :=
      { pid := 10, kind := .compute, memory := some 100, gpuUsage := some 30 }
    let first : Device Unit :=
      { vendor := 0, fdinfo := some { address := near.text }, backend := () }
    let second : Device Unit :=
      { vendor := 0, processes := [{ pid := 9 }, entry], fdinfo := some { address := far.text },
        backend := () }
    let reading : ClientReading := { counters := { encode := some 90 }, time := 5 }
    let last : Device Unit :=
      { vendor := 0
        processes := [{ pid := 9 },
          { pid := 10, memory := some 2148, gpuUsage := some 50, engines := { encode := some 90 } }]
        fdinfo := some { address := far.text, clients := { current := [(⟨7, 10⟩, reading)] } }
        backend := () }
    dispatch 10 text 5 [first, second] = .ok ([first, last], true) ∧
      (∃ device ∈ [first, second], ∃ outcome, device.Claims 10 text 5 outcome) ∧
      ([first, second].filter (accepts text)).length ≤ 1 ∧
      ∃ otherAfter, dispatch 10 text 5 [second, first] = .ok (otherAfter, true) ∧
        ([second, first].zip otherAfter).Perm [(first, first), (second, last)] := by
  intro near far text entry first second reading last
  have hdispatch : dispatch 10 text 5 [first, second] = .ok ([first, last], true) := by
    simp only [near, far, text, entry, first, second, reading, last]
    rfl
  have hopened : OpenedAt [first, second] [near, far] := rfl
  obtain ⟨line, hline, hsays⟩ :=
    Fdinfo.mem_entries_iff.mp (by decide +kernel : .address far.text ∈ Fdinfo.entries text)
  obtain ⟨hclaimed, horder⟩ := dispatch_reaches_one [first, second] 10 text 5
  obtain ⟨hone, hothers⟩ := horder [near, far] hopened (by decide) ⟨line, hline, _, hsays⟩
  obtain ⟨hsame, -⟩ := hothers [second, first] (List.Perm.swap _ _ _)
  exact ⟨hdispatch, (hclaimed _ _ hdispatch).1.mp rfl, hone, hsame _ _ hdispatch⟩

end Device

end GpuTelemetry
