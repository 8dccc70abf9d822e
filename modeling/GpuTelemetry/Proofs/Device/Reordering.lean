import GpuTelemetry.Proofs.Device.Shares
import GpuTelemetry.Proofs.Process.Reordering

/-!
# Texts in another order

Readings of different clients commute: what a reader remembers after some texts,
and the records it makes of them, do not depend on the order of the texts. So a
device that gets its texts in another order ends up with the same records.
-/

namespace GpuTelemetry

open Procfs

namespace Procfs

/-- The client that a visit finds. -/
def Visit.clientKey? (visit : Visit) : Option ClientKey :=
  Fdinfo.clientKey? visit.pid (Fdinfo.entries visit.text)

def clientKeys (visits : List Visit) : List ClientKey :=
  visits.filterMap Visit.clientKey?

theorem clientKeys_cons_of_none {visit : Visit} (h : visit.clientKey? = none)
    (visits : List Visit) : clientKeys (visit :: visits) = clientKeys visits :=
  List.filterMap_cons_none h

theorem clientKeys_cons_of_some {visit : Visit} {key : ClientKey} (h : visit.clientKey? = some key)
    (visits : List Visit) : clientKeys (visit :: visits) = key :: clientKeys visits :=
  List.filterMap_cons_some h

end Procfs

namespace FdinfoReader

def note (reader : FdinfoReader) (visit : Visit) : FdinfoReader :=
  reader.noting visit.text { pid := visit.pid } visit.now

def recordAt (reader : FdinfoReader) (visit : Visit) : GpuProcess :=
  reader.recordOf visit.text { pid := visit.pid } visit.now

@[simp] theorem address_note (reader : FdinfoReader) (visit : Visit) :
    (reader.note visit).address = reader.address :=
  address_noting ..

theorem find?_note_current (reader : FdinfoReader) (visit : Visit) (key : ClientKey) :
    Generations.find? key (reader.note visit).clients.current =
      if visit.clientKey? = some key then
        some (readingOf visit.text { pid := visit.pid } visit.now)
      else Generations.find? key reader.clients.current :=
  find?_noting_current ..

theorem find?_note_previous (reader : FdinfoReader) (visit : Visit) (key : ClientKey) :
    Generations.find? key (reader.note visit).clients.previous =
      if visit.clientKey? = some key then none
      else Generations.find? key reader.clients.previous :=
  find?_noting_previous ..

theorem recordAt_note (reader : FdinfoReader) {visit other : Visit}
    (h : ∀ key, visit.clientKey? = some key → other.clientKey? ≠ some key) :
    (reader.note visit).recordAt other = reader.recordAt other := by
  have hlast : (reader.note visit).lastReading? other.pid other.text =
      reader.lastReading? other.pid other.text := by
    change other.clientKey?.bind _ = other.clientKey?.bind _
    cases hkey : other.clientKey? with
    | none => rfl
    | some key =>
        have hother : visit.clientKey? ≠ some key := fun hvisit => h key hvisit hkey
        rw [Option.bind_some, Option.bind_some, find?_note_previous, if_neg hother]
  rw [recordAt, recordAt, recordOf, recordOf, hlast]

theorem readAll_cons_eq_ok_iff {reader last : FdinfoReader} {visit : Visit} {visits : List Visit}
    {records : List GpuProcess} (haccepts : reader.accepts visit.text = true) :
    reader.readAll (visit :: visits) = .ok (last, records) ↔
      ¬reader.repeats visit.pid visit.text ∧
        ∃ rest, (reader.note visit).readAll visits = .ok (last, rest) ∧
          records = reader.recordAt visit :: rest := by
  simp only [readAll, Fault.bind_eq_ok_iff, read_eq_ok_iff haccepts]
  constructor
  · rintro ⟨_, ⟨hnew, rfl⟩, ⟨_, rest⟩, hrest, hrecords⟩
    cases hrecords
    exact ⟨hnew, rest, hrest, rfl⟩
  · rintro ⟨hnew, rest, hrest, rfl⟩
    exact ⟨_, ⟨hnew, rfl⟩, (last, rest), hrest, rfl⟩

/-- Visits to different clients, none of which has been read in the running cycle. -/
def Fresh (reader : FdinfoReader) (visits : List Visit) : Prop :=
  (clientKeys visits).Nodup ∧
    ∀ key ∈ clientKeys visits, Generations.find? key reader.clients.current = none

theorem fresh_cons_iff {reader : FdinfoReader} {visit : Visit} {visits : List Visit} :
    reader.Fresh (visit :: visits) ↔
      ¬reader.repeats visit.pid visit.text ∧ (reader.note visit).Fresh visits := by
  simp only [Fresh, find?_note_current]
  cases hkey : visit.clientKey? with
  | none =>
      have hnew : ¬reader.repeats visit.pid visit.text := by
        rintro ⟨key, hvisit, -⟩
        cases hkey.symm.trans hvisit
      simp [clientKeys_cons_of_none hkey, hnew]
  | some key =>
      have hrepeats : ¬reader.repeats visit.pid visit.text ↔
          Generations.find? key reader.clients.current = none := by
        rw [← Option.not_isSome_iff_eq_none, not_iff_not]
        constructor
        · rintro ⟨other, hvisit, hsome⟩
          cases hkey.symm.trans hvisit
          exact hsome
        · intro hsome
          exact ⟨key, hkey, hsome⟩
      rw [hrepeats, clientKeys_cons_of_some hkey, List.nodup_cons, List.forall_mem_cons]
      constructor
      · rintro ⟨⟨hnotMem, hnodup⟩, hnew, hfresh⟩
        refine ⟨hnew, hnodup, ?_⟩
        intro other hother
        have hne : some key ≠ some other := by
          rintro ⟨⟩
          exact hnotMem hother
        rw [if_neg hne]
        exact hfresh other hother
      · rintro ⟨hnew, hnodup, hfresh⟩
        refine ⟨⟨?_, hnodup⟩, hnew, ?_⟩
        · intro hmem
          have hfind := hfresh key hmem
          rw [if_pos rfl] at hfind
          cases hfind
        · intro other hother
          have hfind := hfresh other hother
          split at hfind
          next => cases hfind
          next => exact hfind

theorem Fresh.map_recordAt_note {reader : FdinfoReader} {visit : Visit} {visits : List Visit}
    (h : reader.Fresh (visit :: visits)) :
    visits.map (reader.note visit).recordAt = visits.map reader.recordAt := by
  apply List.map_congr_left
  intro other hother
  apply recordAt_note
  intro key hvisit hotherKey
  have hnodup := h.1
  rw [clientKeys_cons_of_some hvisit, List.nodup_cons] at hnodup
  exact hnodup.1 (List.mem_filterMap.mpr ⟨other, hother, hotherKey⟩)

/-- Texts that a reader accepts can be read just when their clients are fresh. -/
theorem readAll_eq_ok_iff {reader last : FdinfoReader} {visits : List Visit}
    {records : List GpuProcess} (haccepts : ∀ visit ∈ visits, reader.accepts visit.text = true) :
    reader.readAll visits = .ok (last, records) ↔
      reader.Fresh visits ∧ last = visits.foldl note reader ∧
        records = visits.map reader.recordAt := by
  induction visits generalizing reader last records with
  | nil =>
      constructor
      · intro h
        cases h
        exact ⟨⟨List.nodup_nil, by simp [clientKeys]⟩, rfl, rfl⟩
      · rintro ⟨-, rfl, rfl⟩
        rfl
  | cons visit visits ih =>
      have hothers : ∀ other ∈ visits, (reader.note visit).accepts other.text = true := by
        intro other hother
        rw [accepts, address_note]
        exact haccepts other (List.mem_cons_of_mem visit hother)
      rw [readAll_cons_eq_ok_iff (haccepts visit List.mem_cons_self)]
      simp only [ih hothers, List.foldl_cons, List.map_cons]
      constructor
      · rintro ⟨hnew, _, ⟨hfresh, hlast, rfl⟩, rfl⟩
        have hall := fresh_cons_iff.mpr ⟨hnew, hfresh⟩
        exact ⟨hall, hlast, by rw [hall.map_recordAt_note]⟩
      · rintro ⟨hall, hlast, rfl⟩
        obtain ⟨hnew, hfresh⟩ := fresh_cons_iff.mp hall
        exact ⟨hnew, _, ⟨hfresh, hlast, rfl⟩, by rw [hall.map_recordAt_note]⟩

/-- Readers of one device that remember the same readings. -/
structure Alike (a b : FdinfoReader) : Prop where
  address : a.address = b.address
  current : ∀ key, Generations.find? key a.clients.current =
    Generations.find? key b.clients.current
  previous : ∀ key, Generations.find? key a.clients.previous =
    Generations.find? key b.clients.previous

variable {a b : FdinfoReader}

theorem Alike.refl (reader : FdinfoReader) : reader.Alike reader :=
  ⟨rfl, fun _ => rfl, fun _ => rfl⟩

theorem Alike.symm (h : a.Alike b) : b.Alike a :=
  ⟨h.address.symm, fun key => (h.current key).symm, fun key => (h.previous key).symm⟩

theorem Alike.trans {c : FdinfoReader} (hab : a.Alike b) (hbc : b.Alike c) : a.Alike c where
  address := hab.address.trans hbc.address
  current key := (hab.current key).trans (hbc.current key)
  previous key := (hab.previous key).trans (hbc.previous key)

theorem Alike.rotate (h : a.Alike b) : a.rotate.Alike b.rotate :=
  ⟨h.address, fun _ => rfl, h.current⟩

theorem Alike.accepts_eq (h : a.Alike b) (text : List Char) : a.accepts text = b.accepts text := by
  rw [accepts, accepts, h.address]

theorem Alike.fresh (h : a.Alike b) {visits others : List Visit} (hperm : visits.Perm others)
    (hfresh : a.Fresh visits) : b.Fresh others := by
  have hkeys : (clientKeys visits).Perm (clientKeys others) := hperm.filterMap _
  refine ⟨hkeys.nodup_iff.mp hfresh.1, ?_⟩
  intro key hkey
  rw [← h.current]
  exact hfresh.2 key (hkeys.mem_iff.mpr hkey)

theorem Alike.recordAt_eq (h : a.Alike b) (visit : Visit) : a.recordAt visit = b.recordAt visit := by
  have hlast : a.lastReading? visit.pid visit.text = b.lastReading? visit.pid visit.text := by
    rw [lastReading?, lastReading?]
    congr 1
    funext key
    exact h.previous key
  rw [recordAt, recordAt, recordOf, recordOf]
  exact congrArg₂ _ hlast rfl

theorem Alike.note (h : a.Alike b) (visit : Visit) : (a.note visit).Alike (b.note visit) where
  address := by rw [address_note, address_note, h.address]
  current key := by rw [find?_note_current, find?_note_current, h.current]
  previous key := by rw [find?_note_previous, find?_note_previous, h.previous]

/-- Readings of different clients commute. -/
theorem Alike.note_note (h : a.Alike b) {visit other : Visit}
    (hkeys : (clientKeys [visit, other]).Nodup) :
    ((a.note visit).note other).Alike ((b.note other).note visit) := by
  have hne (key : ClientKey) (hvisit : visit.clientKey? = some key) :
      other.clientKey? ≠ some key := by
    intro hother
    rw [clientKeys_cons_of_some hvisit, clientKeys_cons_of_some hother] at hkeys
    simp at hkeys
  refine ⟨by simp [h.address], ?_, ?_⟩
  · intro key
    simp only [find?_note_current, h.current]
    by_cases hvisit : visit.clientKey? = some key
    · rw [if_neg (hne key hvisit), if_pos hvisit, if_pos hvisit]
    · rw [if_neg hvisit, if_neg hvisit]
  · intro key
    simp only [find?_note_previous, h.previous]
    split <;> split <;> rfl

theorem Alike.foldl_note (h : a.Alike b) (visits : List Visit) :
    (visits.foldl FdinfoReader.note a).Alike (visits.foldl FdinfoReader.note b) := by
  induction visits generalizing a b with
  | nil => exact h
  | cons visit visits ih => exact ih (h.note visit)

theorem Alike.foldl_note_perm (h : a.Alike b) {visits others : List Visit} (hperm : visits.Perm others)
    (hkeys : (clientKeys visits).Nodup) :
    (visits.foldl FdinfoReader.note a).Alike (others.foldl FdinfoReader.note b) := by
  -- along the permutation, only a swap needs that the clients are different
  induction hperm generalizing a b with
  | nil => exact h
  | cons visit _ ih =>
      exact ih (h.note visit) (hkeys.sublist ((List.sublist_cons_self visit _).filterMap _))
  | swap first second visits =>
      have hsub : [second, first].Sublist (second :: first :: visits) := by simp
      have hpair := h.note_note (hkeys.sublist (hsub.filterMap _))
      exact hpair.foldl_note visits
  | trans hfirst _ ihfirst ihsecond =>
      exact (ihfirst (.refl a) hkeys).trans (ihsecond h ((hfirst.filterMap _).nodup_iff.mp hkeys))

theorem Alike.readAll (h : a.Alike b) {visits others : List Visit} (hperm : visits.Perm others)
    (haccepts : ∀ visit ∈ visits, a.accepts visit.text = true) {last : FdinfoReader}
    {records : List GpuProcess} (hread : a.readAll visits = .ok (last, records)) :
    ∃ otherLast otherRecords, b.readAll others = .ok (otherLast, otherRecords) ∧
      last.Alike otherLast ∧ records.Perm otherRecords := by
  have hothers : ∀ visit ∈ others, b.accepts visit.text = true := by
    intro visit hvisit
    rw [← h.accepts_eq]
    exact haccepts visit (hperm.mem_iff.mpr hvisit)
  obtain ⟨hfresh, rfl, rfl⟩ := (readAll_eq_ok_iff haccepts).mp hread
  refine ⟨_, _, (readAll_eq_ok_iff hothers).mpr ⟨h.fresh hperm hfresh, rfl, rfl⟩,
    h.foldl_note_perm hperm hfresh.1, ?_⟩
  rw [List.map_congr_left fun visit _ => h.recordAt_eq visit]
  exact hperm.map _

end FdinfoReader

namespace Device

variable {β : Type}

/-- Devices that differ in the order of their processes and in the kinds of these at most. -/
structure Alike (a b : Device β) : Prop where
  processes : (a.processes.map GpuProcess.untyped).Perm (b.processes.map GpuProcess.untyped)
  fdinfo : Option.Rel FdinfoReader.Alike a.fdinfo b.fdinfo
  others : { a with processes := [], fdinfo := none } = { b with processes := [], fdinfo := none }

variable {a b : Device β}

theorem Alike.refl (device : Device β) : device.Alike device := by
  refine ⟨.refl _, ?_, rfl⟩
  cases device.fdinfo with
  | none => exact .none
  | some reader => exact .some (.refl reader)

theorem Alike.clearProcesses (h : a.Alike b) : a.clearProcesses.Alike b.clearProcesses :=
  ⟨.refl _, h.fdinfo, h.others⟩

theorem Alike.rotateFdinfo (h : a.Alike b) : a.rotateFdinfo.Alike b.rotateFdinfo := by
  refine ⟨h.processes, ?_, h.others⟩
  have hfdinfo := h.fdinfo
  simp only [Device.rotateFdinfo]
  generalize a.fdinfo = reader at hfdinfo
  generalize b.fdinfo = other at hfdinfo
  cases hfdinfo with
  | some halike => exact .some halike.rotate
  | none => exact .none

theorem Alike.accepts_eq (h : a.Alike b) (text : List Char) : a.accepts text = b.accepts text := by
  have hfdinfo := h.fdinfo
  simp only [accepts]
  generalize a.fdinfo = reader at hfdinfo
  generalize b.fdinfo = other at hfdinfo
  cases hfdinfo with
  | some halike => exact halike.accepts_eq text
  | none => rfl

theorem Alike.takeAll {after : Device β} {visits others : List Visit} (h : a.Alike b)
    (hempty : a.processes = []) (hperm : visits.Perm others)
    (hgrouped : Grouped (visits.map Visit.pid)) (hothers : Grouped (others.map Visit.pid))
    (haccepts : ∀ visit ∈ visits, a.accepts visit.text = true)
    (htake : Device.takeAll visits a = .ok after) :
    ∃ otherAfter, Device.takeAll others b = .ok otherAfter ∧ after.Alike otherAfter := by
  have hotherEmpty : b.processes = [] := by
    have hprocesses := h.processes
    rw [hempty] at hprocesses
    exact List.map_eq_nil_iff.mp hprocesses.nil_eq.symm
  have hfdinfo := h.fdinfo
  cases hreader : a.fdinfo with
  | none =>
      have hnone : visits = [] := by
        rw [List.eq_nil_iff_forall_not_mem]
        intro visit hvisit
        have := haccepts visit hvisit
        simp [accepts, hreader] at this
      subst hnone
      rw [← hperm.nil_eq]
      cases htake
      exact ⟨b, rfl, h⟩
  | some reader =>
      rw [hreader] at hfdinfo
      generalize hother : b.fdinfo = fdinfo at hfdinfo
      cases hfdinfo with
      | @some _ other halike =>
          obtain ⟨last, records, processes, hread, hmerge, rfl⟩ := (takeAll_eq_ok_iff hreader).mp htake
          simp only [accepts, hreader, Option.any_some] at haccepts
          obtain ⟨otherLast, otherRecords, hotherRead, hlast, hrecords⟩ :=
            halike.readAll hperm haccepts hread
          have hotherAccepts : ∀ visit ∈ others, other.accepts visit.text = true := by
            intro visit hvisit
            rw [← halike.accepts_eq]
            exact haccepts visit (hperm.mem_iff.mpr hvisit)
          obtain ⟨hpids, hbare⟩ := FdinfoReader.records_of_readAll haccepts hread
          obtain ⟨hotherPids, -⟩ := FdinfoReader.records_of_readAll hotherAccepts hotherRead
          rw [← hpids] at hgrouped
          rw [← hotherPids] at hothers
          rw [hempty] at hmerge
          obtain ⟨otherProcesses, hotherMerge, hprocesses⟩ :=
            GpuProcess.exists_mergeAll_of_perm hrecords hgrouped hothers hbare hmerge
          rw [← hotherEmpty] at hotherMerge
          exact ⟨_, (takeAll_eq_ok_iff hother).mpr ⟨_, _, _, hotherRead, hotherMerge, rfl⟩,
            hprocesses, .some hlast, h.others⟩

theorem dispatchAll_of_perm {devices others swept : List (Device β)} {visits otherVisits : List Visit}
    (halike : List.Forall₂ Alike devices others) (hempty : ∀ device ∈ devices, device.processes = [])
    (hperm : visits.Perm otherVisits) (hgrouped : Grouped (visits.map Visit.pid))
    (hothers : Grouped (otherVisits.map Visit.pid)) (h : dispatchAll visits devices = .ok swept) :
    ∃ otherSwept, dispatchAll otherVisits others = .ok otherSwept ∧
      List.Forall₂ Alike swept otherSwept := by
  induction halike generalizing visits otherVisits swept with
  | nil =>
      rw [dispatchAll_of_no_reader visits (by simp)] at h
      cases h
      exact ⟨[], dispatchAll_of_no_reader otherVisits (by simp), .nil⟩
  | @cons device other devices others hdevice _ ih =>
      obtain ⟨after, rest, rfl, htake, hrest⟩ := dispatchAll_cons_eq_ok_iff.mp h
      have hmine := hperm.filter fun visit => device.accepts visit.text
      have hleft := hperm.filter fun visit => !device.accepts visit.text
      have hsub (p : Visit → Bool) : Grouped ((visits.filter p).map Visit.pid) :=
        hgrouped.sublist (List.filter_sublist.map _)
      have hotherSub (p : Visit → Bool) : Grouped ((otherVisits.filter p).map Visit.pid) :=
        hothers.sublist (List.filter_sublist.map _)
      obtain ⟨otherAfter, hotherTake, hafter⟩ := hdevice.takeAll (hempty device List.mem_cons_self)
        hmine (hsub _) (hotherSub _) (fun visit hvisit => (List.mem_filter.mp hvisit).2) htake
      obtain ⟨otherRest, hotherRest, hrestAlike⟩ :=
        ih (fun next hnext => hempty next (List.mem_cons_of_mem device hnext)) hleft (hsub _)
          (hotherSub _) hrest
      simp only [hdevice.accepts_eq] at hotherTake hotherRest
      exact ⟨otherAfter :: otherRest,
        dispatchAll_cons_eq_ok_iff.mpr ⟨_, _, rfl, hotherTake, hotherRest⟩, .cons hafter hrestAlike⟩

end Device

end GpuTelemetry
