import GpuTelemetry.Proofs.Procfs.Visits

/-!
# The share of each device

Of the texts that are offered to a list of devices, each device gets those that
it is the first to accept. It reads them in their order and merges the records,
whatever the other devices do.
-/

namespace GpuTelemetry

open Procfs

theorem FdinfoReader.address_of_read {reader : FdinfoReader} {text : List Char}
    {process : GpuProcess} {now : Nat} {outcome : FdinfoReader.Outcome}
    (h : reader.read text process now = .ok outcome) :
    outcome.reader.address = reader.address := by
  cases htext : reader.accepts text with
  | true =>
      obtain ⟨-, rfl⟩ := (FdinfoReader.read_eq_ok_iff htext).mp h
      exact FdinfoReader.address_noting ..
  | false =>
      obtain ⟨left, hread⟩ := FdinfoReader.read_of_not_accepts htext process now
      rw [hread] at h
      cases h
      rfl

def FdinfoReader.readAll : FdinfoReader → List Visit → Except Fault (FdinfoReader × List GpuProcess)
  | reader, [] => .ok (reader, [])
  | reader, visit :: visits => do
    let outcome ← reader.read visit.text { pid := visit.pid } visit.now
    let (reader, records) ← readAll outcome.reader visits
    return (reader, outcome.process :: records)

/-- Accepted texts yield one record each, in which only the kind and the figures are filled. -/
theorem FdinfoReader.records_of_readAll {reader last : FdinfoReader} {visits : List Visit}
    {records : List GpuProcess} (haccepts : ∀ visit ∈ visits, reader.accepts visit.text = true)
    (h : reader.readAll visits = .ok (last, records)) :
    records.map GpuProcess.pid = visits.map Visit.pid ∧
      ∀ record ∈ records, record.bare = { pid := record.pid } := by
  induction visits generalizing reader records with
  | nil =>
      cases h
      exact ⟨rfl, by simp⟩
  | cons visit visits ih =>
      rw [readAll, Fault.bind_eq_ok_iff] at h
      obtain ⟨outcome, hread, h⟩ := h
      obtain ⟨⟨last', rest⟩, hrest, h⟩ := Fault.bind_eq_ok_iff.mp h
      cases h
      have haddress := address_of_read hread
      have hvisit := haccepts visit List.mem_cons_self
      obtain ⟨-, rfl⟩ := (read_eq_ok_iff hvisit).mp hread
      have hothers : ∀ other ∈ visits,
          (reader.noting visit.text { pid := visit.pid } visit.now).accepts other.text = true := by
        intro other hother
        rw [accepts, haddress]
        exact haccepts other (List.mem_cons_of_mem visit hother)
      obtain ⟨hpids, hbare⟩ := ih hothers hrest
      constructor
      · rw [List.map_cons, List.map_cons, hpids, pid_recordOf]
      · intro record hrecord
        rcases List.mem_cons.mp hrecord with rfl | hrecord
        · rw [bare_recordOf, pid_recordOf]
          rfl
        · exact hbare record hrecord

namespace Device

variable {β : Type}

def firstAccepting (devices : List (Device β)) (text : List Char) : Option Nat :=
  devices.findIdx? (accepts text)

/-- The visits whose texts a device is the first to accept. -/
def share (devices : List (Device β)) (visits : List Visit) (index : Nat) : List Visit :=
  visits.filter fun visit => firstAccepting devices visit.text = some index

def take (device : Device β) (visit : Visit) : Except Fault (Device β) :=
  match device.fdinfo with
  | none => .ok device
  | some reader => do
    let outcome ← reader.read visit.text { pid := visit.pid } visit.now
    let processes ← outcome.process.merge device.processes
    return { device with fdinfo := some outcome.reader, processes }

def takeAll (visits : List Visit) (device : Device β) : Except Fault (Device β) :=
  visits.foldlM take device

theorem takeAll_cons (visit : Visit) (visits : List Visit) (device : Device β) :
    takeAll (visit :: visits) device = device.take visit >>= takeAll visits :=
  List.foldlM_cons

theorem accepts_of_take {device after : Device β} {visit : Visit} (h : device.take visit = .ok after)
    (text : List Char) : after.accepts text = device.accepts text := by
  cases hreader : device.fdinfo with
  | none =>
      simp only [take, hreader] at h
      cases h
      rfl
  | some reader =>
      simp only [take, hreader] at h
      obtain ⟨outcome, hread, h⟩ := Fault.bind_eq_ok_iff.mp h
      obtain ⟨processes, -, h⟩ := Fault.bind_eq_ok_iff.mp h
      cases h
      simp [accepts, hreader, FdinfoReader.accepts, FdinfoReader.address_of_read hread]

theorem dispatch_cons_of_accepts {device : Device β} {text : List Char}
    (h : device.accepts text = true) (devices : List (Device β)) (pid : UInt32) (now : Nat) :
    dispatch pid text now (device :: devices) =
      (device.take ⟨pid, text, now⟩).map fun after => (after :: devices, true) := by
  cases hreader : device.fdinfo with
  | none => simp [accepts, hreader] at h
  | some reader =>
      simp only [accepts, hreader, Option.any_some] at h
      simp only [dispatch, readFdinfo, take, hreader]
      cases hread : reader.read text { pid } now with
      | error fault => rfl
      | ok outcome =>
          obtain ⟨-, rfl⟩ := (FdinfoReader.read_eq_ok_iff h).mp hread
          simp only [bind, Except.bind, pure, Except.pure, if_true]
          cases (reader.recordOf text { pid } now).merge device.processes <;> rfl

theorem dispatch_cons_of_not_accepts {device : Device β} {text : List Char}
    (h : device.accepts text = false) (devices : List (Device β)) (pid : UInt32) (now : Nat) :
    dispatch pid text now (device :: devices) =
      (dispatch pid text now devices).map fun rest => (device :: rest.1, rest.2) := by
  cases hreader : device.fdinfo with
  | none =>
      simp only [dispatch, readFdinfo, hreader]
      cases dispatch pid text now devices <;> rfl
  | some reader =>
      simp only [accepts, hreader, Option.any_some] at h
      obtain ⟨left, hread⟩ := FdinfoReader.read_of_not_accepts h { pid } now
      have hsame : { device with fdinfo := some reader } = device := by
        rw [← hreader]
      simp only [dispatch, readFdinfo, hreader, hread]
      simp only [bind, Except.bind, pure, Except.pure, Bool.false_eq_true, if_false, hsame]
      cases dispatch pid text now devices <;> rfl

/-- The first device and the others share the visits between them. -/
theorem dispatchAll_cons_eq_ok_iff {device : Device β} {devices swept : List (Device β)}
    {visits : List Visit} :
    dispatchAll visits (device :: devices) = .ok swept ↔
      ∃ after rest, swept = after :: rest ∧
        takeAll (visits.filter fun visit => device.accepts visit.text) device = .ok after ∧
        dispatchAll (visits.filter fun visit => !device.accepts visit.text) devices = .ok rest := by
  induction visits generalizing device devices with
  | nil =>
      constructor
      · intro h
        cases h
        exact ⟨device, devices, rfl, rfl, rfl⟩
      · rintro ⟨after, rest, rfl, hafter, hrest⟩
        cases hafter
        cases hrest
        rfl
  | cons visit visits ih =>
      rw [dispatchAll_cons, Fault.bind_eq_ok_iff]
      by_cases haccepts : device.accepts visit.text = true
      · have hmine : (visit :: visits).filter (fun v => device.accepts v.text) =
            visit :: visits.filter (fun v => device.accepts v.text) := by
          simp [haccepts]
        have hothers : (visit :: visits).filter (fun v => !device.accepts v.text) =
            visits.filter (fun v => !device.accepts v.text) := by
          simp [haccepts]
        rw [dispatch_cons_of_accepts haccepts, Fault.map_map, hmine, hothers]
        simp only [Fault.map_eq_ok_iff, takeAll_cons, Fault.bind_eq_ok_iff]
        constructor
        · rintro ⟨_, ⟨middle, hmiddle, rfl⟩, hswept⟩
          obtain ⟨after, rest, rfl, hafter, hrest⟩ := ih.mp hswept
          simp only [accepts_of_take hmiddle] at hafter hrest
          exact ⟨after, rest, rfl, ⟨middle, hmiddle, hafter⟩, hrest⟩
        · rintro ⟨after, rest, rfl, ⟨middle, hmiddle, hafter⟩, hrest⟩
          refine ⟨middle :: devices, ⟨middle, hmiddle, rfl⟩, ih.mpr ⟨after, rest, rfl, ?_⟩⟩
          simp only [accepts_of_take hmiddle]
          exact ⟨hafter, hrest⟩
      · have hrejects : device.accepts visit.text = false := Bool.eq_false_iff.mpr haccepts
        have hmine : (visit :: visits).filter (fun v => device.accepts v.text) =
            visits.filter (fun v => device.accepts v.text) := by
          simp [hrejects]
        have hothers : (visit :: visits).filter (fun v => !device.accepts v.text) =
            visit :: visits.filter (fun v => !device.accepts v.text) := by
          simp [hrejects]
        rw [dispatch_cons_of_not_accepts hrejects, Fault.map_map, ← Fault.map_map _ Prod.fst, hmine,
          hothers]
        simp only [Fault.map_eq_ok_iff, dispatchAll_cons, Fault.bind_eq_ok_iff]
        constructor
        · rintro ⟨_, ⟨middle, hmiddle, rfl⟩, hswept⟩
          obtain ⟨after, rest, rfl, hafter, hrest⟩ := ih.mp hswept
          exact ⟨after, rest, rfl, hafter, middle, hmiddle, hrest⟩
        · rintro ⟨after, rest, rfl, hafter, middle, hmiddle, hrest⟩
          exact ⟨device :: middle, ⟨middle, hmiddle, rfl⟩, ih.mpr ⟨after, rest, rfl, hafter, hrest⟩⟩

theorem share_cons_zero (device : Device β) (devices : List (Device β)) (visits : List Visit) :
    share (device :: devices) visits 0 = visits.filter fun visit => device.accepts visit.text := by
  apply List.filter_congr
  intro visit _
  cases haccepts : device.accepts visit.text with
  | true => simp [firstAccepting, List.findIdx?_cons, haccepts]
  | false => simp [firstAccepting, List.findIdx?_cons, haccepts]

theorem share_cons_succ (device : Device β) (devices : List (Device β)) (visits : List Visit)
    (index : Nat) :
    share (device :: devices) visits (index + 1) =
      share devices (visits.filter fun visit => !device.accepts visit.text) index := by
  rw [share, share, List.filter_filter]
  apply List.filter_congr
  intro visit _
  cases haccepts : device.accepts visit.text with
  | true => simp [firstAccepting, List.findIdx?_cons, haccepts]
  | false =>
      simp only [firstAccepting, List.findIdx?_cons, haccepts, Bool.false_eq_true, if_false,
        Option.map_eq_some_iff, Nat.add_right_cancel_iff, exists_eq_right, Bool.not_false,
        Bool.and_true]
      exact decide_eq_decide.mpr Iff.rfl

/-- Offering texts to devices comes to the end just when every device comes to the end with its
share, and leaves every device as its share leaves it. -/
theorem dispatchAll_eq_ok_iff {devices swept : List (Device β)} {visits : List Visit} :
    dispatchAll visits devices = .ok swept ↔
      swept.length = devices.length ∧
        ∀ index device, devices[index]? = some device → ∃ after, swept[index]? = some after ∧
          takeAll (share devices visits index) device = .ok after := by
  induction devices generalizing visits swept with
  | nil =>
      rw [dispatchAll_of_no_reader visits (by simp)]
      constructor
      · intro h
        cases h
        exact ⟨rfl, fun index device hdevice => by simp at hdevice⟩
      · rintro ⟨hlength, -⟩
        rw [List.eq_nil_of_length_eq_zero hlength]
  | cons device devices ih =>
      rw [dispatchAll_cons_eq_ok_iff]
      constructor
      · rintro ⟨after, rest, rfl, hafter, hrest⟩
        obtain ⟨hlength, hdevices⟩ := ih.mp hrest
        refine ⟨by simp [hlength], ?_⟩
        intro index other hother
        cases index with
        | zero =>
            cases hother
            exact ⟨after, rfl, share_cons_zero device devices visits ▸ hafter⟩
        | succ index =>
            obtain ⟨last, hlast, hshare⟩ := hdevices index other hother
            exact ⟨last, hlast, share_cons_succ device devices visits index ▸ hshare⟩
      · rintro ⟨hlength, hdevices⟩
        obtain ⟨after, hafter, hshare⟩ := hdevices 0 device rfl
        cases swept with
        | nil => cases hafter
        | cons first rest =>
            cases hafter
            rw [share_cons_zero] at hshare
            refine ⟨after, rest, rfl, hshare, ih.mpr ⟨Nat.succ.inj hlength, ?_⟩⟩
            intro index other hother
            obtain ⟨last, hlast, hlastShare⟩ := hdevices (index + 1) other hother
            rw [share_cons_succ] at hlastShare
            exact ⟨last, hlast, hlastShare⟩

theorem accepts_of_mem_share {devices : List (Device β)} {visits : List Visit} {index : Nat}
    {device : Device β} (hdevice : devices[index]? = some device) {visit : Visit}
    (hvisit : visit ∈ share devices visits index) : device.accepts visit.text = true := by
  have hfirst := of_decide_eq_true (List.mem_filter.mp hvisit).2
  obtain ⟨hlt, haccepts, -⟩ := List.findIdx?_eq_some_iff_getElem.mp hfirst
  rw [List.getElem?_eq_getElem hlt] at hdevice
  exact Option.some.inj hdevice ▸ haccepts

/-- A device reads its texts and merges the records in turns, which comes to the same as reading
all of them first. -/
theorem takeAll_eq_ok_iff {device after : Device β} {reader : FdinfoReader}
    (hreader : device.fdinfo = some reader) {visits : List Visit} :
    takeAll visits device = .ok after ↔
      ∃ last records processes, reader.readAll visits = .ok (last, records) ∧
        GpuProcess.mergeAll records device.processes = .ok processes ∧
        after = { device with fdinfo := some last, processes } := by
  induction visits generalizing device reader with
  | nil =>
      constructor
      · intro h
        cases h
        exact ⟨reader, [], after.processes, rfl, rfl, by rw [← hreader]⟩
      · rintro ⟨last, records, processes, hread, hmerge, rfl⟩
        cases hread
        cases hmerge
        rw [← hreader]
        rfl
  | cons visit visits ih =>
      simp only [takeAll_cons, Fault.bind_eq_ok_iff, take, hreader, FdinfoReader.readAll]
      constructor
      · rintro ⟨_, ⟨outcome, hread, processes, hmerge, hmiddle⟩, hrest⟩
        cases hmiddle
        obtain ⟨last, records, merged, hreadAll, hmergeAll, rfl⟩ := (ih rfl).mp hrest
        refine ⟨last, outcome.process :: records, merged,
          ⟨outcome, hread, (last, records), hreadAll, rfl⟩, ?_, rfl⟩
        exact Fault.bind_eq_ok_iff.mpr ⟨processes, hmerge, hmergeAll⟩
      · rintro ⟨last, records, merged, ⟨outcome, hread, ⟨reader', rest⟩, hreadAll, hrecords⟩,
          hmergeAll, rfl⟩
        cases hrecords
        obtain ⟨processes, hmerge, hmergeRest⟩ := Fault.bind_eq_ok_iff.mp hmergeAll
        refine ⟨_, ⟨outcome, hread, processes, hmerge, rfl⟩, (ih rfl).mpr ?_⟩
        exact ⟨_, rest, merged, hreadAll, hmergeRest, rfl⟩

end Device

end GpuTelemetry
