import GpuTelemetry.Proofs.Procfs.Clients

/-!
# Devices that read no client twice

A reader is ready for some visits if it has read none of their clients in the
running cycle and they are different clients. Each visit takes one of them away,
and what is left to fail is an addition of figures.
-/

namespace GpuTelemetry

open Procfs

theorem FdinfoReader.Fresh.sublist {reader : FdinfoReader} {visits others : List Visit}
    (h : reader.Fresh visits) (hsub : others.Sublist visits) : reader.Fresh others := by
  have hkeys : (clientKeys others).Sublist (clientKeys visits) := hsub.filterMap _
  exact ⟨h.1.sublist hkeys, fun key hkey => h.2 key (hkeys.subset hkey)⟩

namespace Device

variable {β : Type} {device : Device β} {devices : List (Device β)} {visit : Visit}
  {visits : List Visit}

def address? (device : Device β) : Option (List Char) :=
  device.fdinfo.map FdinfoReader.address

/-- Nothing has been read in the running cycle. -/
def Rests (device : Device β) : Prop :=
  ∀ reader, device.fdinfo = some reader → reader.clients.current = []

/-- The clients of the visits that a device accepts are different ones and not read yet. -/
def Ready (visits : List Visit) (device : Device β) : Prop :=
  ∀ reader, device.fdinfo = some reader → reader.Fresh (about reader.address visits)

theorem Rests.ready (h : device.Rests)
    (hkeys : ∀ address, device.address? = some address →
      (clientKeys (about address visits)).Nodup) : device.Ready visits := by
  intro reader hreader
  have haddress : device.address? = some reader.address := by
    rw [address?, hreader, Option.map_some]
  refine ⟨hkeys reader.address haddress, ?_⟩
  intro key _
  rw [h reader hreader]
  rfl

theorem Ready.tail (h : device.Ready (visit :: visits)) : device.Ready visits := by
  intro reader hreader
  exact (h reader hreader).sublist ((List.sublist_cons_self visit visits).filter _)

/-- A device that is ready takes the first visit, unless a sum of figures overflows. -/
theorem Ready.take (h : device.Ready (visit :: visits))
    (haccepts : device.accepts visit.text = true) :
    (∀ fault, device.take visit = .error fault → fault = .additionOverflow) ∧
      ∀ after, device.take visit = .ok after →
        after.Ready visits ∧ after.address? = device.address? := by
  cases hreader : device.fdinfo with
  | none =>
      rw [accepts, hreader] at haccepts
      cases haccepts
  | some reader =>
      rw [accepts, hreader, Option.any_some] at haccepts
      have hfresh := h reader hreader
      have habout : about reader.address (visit :: visits) =
          visit :: about reader.address visits := List.filter_cons_of_pos haccepts
      rw [habout, FdinfoReader.fresh_cons_iff] at hfresh
      obtain ⟨hnew, hrest⟩ := hfresh
      have hread : reader.read visit.text { pid := visit.pid } visit.now =
          .ok ⟨reader.note visit, reader.recordAt visit, true⟩ :=
        (FdinfoReader.read_eq_ok_iff haccepts).mpr ⟨hnew, rfl⟩
      have htake : device.take visit =
          ((reader.recordAt visit).merge device.processes).map fun processes =>
            { device with fdinfo := some (reader.note visit), processes } := by
        simp only [Device.take, hreader, hread, bind, Except.bind, pure, Except.pure]
        cases (reader.recordAt visit).merge device.processes <;> rfl
      rw [htake]
      constructor
      · intro fault hfault
        exact GpuProcess.fault_of_merge (Fault.map_eq_error_iff.mp hfault)
      · intro after hafter
        obtain ⟨processes, -, rfl⟩ := Fault.map_eq_ok_iff.mp hafter
        constructor
        · rintro _ ⟨⟩
          rw [FdinfoReader.address_note]
          exact hrest
        · rw [address?, address?, hreader, Option.map_some, Option.map_some,
            FdinfoReader.address_note]

/-- Of devices that are ready, at most one takes the visit, and all are ready for the others. -/
theorem dispatch_of_ready (hready : ∀ device ∈ devices, device.Ready (visit :: visits)) :
    (∀ fault, (dispatch visit.pid visit.text visit.now devices).map Prod.fst = .error fault →
      fault = .additionOverflow) ∧
      ∀ after, (dispatch visit.pid visit.text visit.now devices).map Prod.fst = .ok after →
        (∀ device ∈ after, device.Ready visits) ∧ after.map address? = devices.map address? := by
  induction devices with
  | nil =>
      have hnone : (dispatch visit.pid visit.text visit.now ([] : List (Device β))).map Prod.fst =
          .ok [] := rfl
      rw [hnone]
      constructor
      · intro fault hfault
        cases hfault
      · intro after hafter
        cases hafter
        refine ⟨?_, rfl⟩
        intro device hdevice
        cases hdevice
  | cons device devices ih =>
      have hdevice := hready device List.mem_cons_self
      have hothers : ∀ other ∈ devices, other.Ready (visit :: visits) :=
        fun other hother => hready other (List.mem_cons_of_mem device hother)
      cases haccepts : device.accepts visit.text with
      | true =>
          rw [dispatch_cons_of_accepts haccepts, Fault.map_map]
          obtain ⟨hfault, hafter⟩ := hdevice.take haccepts
          constructor
          · intro fault h
            exact hfault fault (Fault.map_eq_error_iff.mp h)
          · intro _ h
            obtain ⟨after, htake, rfl⟩ := Fault.map_eq_ok_iff.mp h
            obtain ⟨hready, haddress⟩ := hafter after htake
            constructor
            · intro other hother
              rcases List.mem_cons.mp hother with rfl | hother
              · exact hready
              · exact (hothers other hother).tail
            · rw [List.map_cons, List.map_cons, haddress]
      | false =>
          rw [dispatch_cons_of_not_accepts haccepts, Fault.map_map, ← Fault.map_map _ Prod.fst]
          obtain ⟨hfault, hafter⟩ := ih hothers
          constructor
          · intro fault h
            exact hfault fault (Fault.map_eq_error_iff.mp h)
          · intro _ h
            obtain ⟨rest, hrest, rfl⟩ := Fault.map_eq_ok_iff.mp h
            obtain ⟨hready, haddresses⟩ := hafter rest hrest
            constructor
            · intro other hother
              rcases List.mem_cons.mp hother with rfl | hother
              · exact hdevice.tail
              · exact hready other hother
            · rw [List.map_cons, List.map_cons, haddresses]

theorem dispatchAll_of_ready (hready : ∀ device ∈ devices, device.Ready visits) :
    (∀ fault, dispatchAll visits devices = .error fault → fault = .additionOverflow) ∧
      ∀ after, dispatchAll visits devices = .ok after →
        after.map address? = devices.map address? := by
  induction visits generalizing devices with
  | nil =>
      refine ⟨nofun, ?_⟩
      intro after hafter
      cases hafter
      rfl
  | cons visit visits ih =>
      obtain ⟨hfault, hafter⟩ := dispatch_of_ready hready
      rw [dispatchAll_cons]
      constructor
      · intro fault h
        rcases Fault.bind_eq_error_iff.mp h with hfirst | ⟨middle, hmiddle, hrest⟩
        · exact hfault fault hfirst
        · exact (ih (hafter middle hmiddle).1).1 fault hrest
      · intro after h
        obtain ⟨middle, hmiddle, hrest⟩ := Fault.bind_eq_ok_iff.mp h
        obtain ⟨hmiddleReady, haddresses⟩ := hafter middle hmiddle
        exact ((ih hmiddleReady).2 after hrest).trans haddresses

/-- In a sweep no device meets a client for the second time. -/
theorem sweep_of_separates {same : SameOpenFile} {root : Root}
    (hrests : ∀ device ∈ devices, device.Rests)
    (hroot : root.Separates same (devices.filterMap address?)) :
    (∀ fault, sweep same root devices = .error fault → fault = .additionOverflow) ∧
      ∀ after, sweep same root devices = .ok after →
        after.map address? = devices.map address? := by
  rw [sweep_eq_dispatchAll]
  apply dispatchAll_of_ready
  intro device hdevice
  apply (hrests device hdevice).ready
  intro address haddress
  exact hroot.nodup_clientKeys (List.mem_filterMap.mpr ⟨device, hdevice, haddress⟩)

end Device

end GpuTelemetry
