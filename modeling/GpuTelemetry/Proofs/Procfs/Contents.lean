import GpuTelemetry.Proofs.Device.Shares

/-!
# What a sweep finds

After a sweep over process directories with different pids, the list of a device
has one entry for each process that it had a text of, and this entry holds the
exact sums of the figures that its reader found in these texts.
-/

namespace GpuTelemetry

open Procfs

namespace Procfs

theorem grouped_append (pid : UInt32) {a b : List UInt32} (ha : ∀ other ∈ a, other = pid)
    (hpid : pid ∉ b) (hb : Grouped b) : Grouped (a ++ b) := by
  intro outer inner hsub
  obtain ⟨first, second, hsplit, hfirst, hsecond⟩ := List.sublist_append_iff.mp hsub
  cases first with
  | nil => exact hb outer inner (hsplit ▸ hsecond)
  | cons head first =>
      rw [List.cons_append, List.cons.injEq] at hsplit
      obtain ⟨rfl, htail⟩ := hsplit
      have houter : outer = pid := ha outer (hfirst.subset List.mem_cons_self)
      -- the second part is empty, since it would end with the process of the first
      rcases List.eq_nil_or_concat second with rfl | ⟨front, last, rfl⟩
      · have hinner : inner ∈ first := by
          rw [List.append_nil] at htail
          rw [← htail]
          exact List.mem_cons_self
        rw [houter]
        exact ha inner (hfirst.subset (List.mem_cons_of_mem _ hinner))
      · have hlast : outer = last := by
          have h := congrArg List.getLast? htail
          simpa using h
        refine (hpid ?_).elim
        rw [← houter, hlast]
        exact hsecond.subset (by simp)

theorem pid?_of_mem_visits {same : SameOpenFile} {entry : Entry} {visit : Visit}
    (h : visit ∈ entry.visits same) : entry.pid? = some visit.pid := by
  cases hpid : entry.pid? with
  | none => simp [Entry.visits, hpid] at h
  | some pid =>
      cases hfdinfo : entry.fdinfo with
      | none => simp [Entry.visits, hpid, hfdinfo] at h
      | some descriptors =>
          simp only [Entry.visits, hpid, hfdinfo, List.mem_filterMap, Descriptor.visit?,
            Option.map_eq_some_iff] at h
          obtain ⟨descriptor, -, text, -, rfl⟩ := h
          rfl

theorem grouped_visits (same : SameOpenFile) {entries : List Entry}
    (h : (entries.filterMap Entry.pid?).Nodup) :
    Grouped ((entries.flatMap (Entry.visits same)).map Visit.pid) := by
  induction entries with
  | nil =>
      intro outer inner hsub
      cases hsub
  | cons entry entries ih =>
      have hrest : (entries.filterMap Entry.pid?).Nodup :=
        h.sublist ((List.sublist_cons_self entry entries).filterMap _)
      rw [List.flatMap_cons, List.map_append]
      cases hpid : entry.pid? with
      | none =>
          have hnone : entry.visits same = [] := by
            simp [Entry.visits, hpid]
          rw [hnone]
          exact ih hrest
      | some pid =>
          refine grouped_append pid ?_ ?_ (ih hrest)
          · intro other hother
            obtain ⟨visit, hvisit, rfl⟩ := List.mem_map.mp hother
            have hself := pid?_of_mem_visits hvisit
            exact Option.some.inj (hself.symm.trans hpid)
          · intro hmem
            obtain ⟨visit, hvisit, rfl⟩ := List.mem_map.mp hmem
            obtain ⟨other, hother, hvisits⟩ := List.mem_flatMap.mp hvisit
            rw [List.filterMap_cons_some hpid, List.nodup_cons] at h
            exact h.1 (List.mem_filterMap.mpr ⟨other, hother, pid?_of_mem_visits hvisits⟩)

end Procfs

namespace Device

variable {β : Type}

/-- The records that the reader of a device makes of the texts of some visits, in turn. -/
def recordsOf (device : Device β) (visits : List Visit) : Except Fault (List GpuProcess) :=
  match device.fdinfo with
  | none => .ok []
  | some reader => (reader.readAll visits).map Prod.snd

theorem collects_of_takeAll {devices : List (Device β)} {visits : List Visit} {index : Nat}
    {device after : Device β} (hgrouped : Grouped (visits.map Visit.pid))
    (hempty : device.processes = []) (hdevice : devices[index]? = some device)
    (h : takeAll (share devices visits index) device = .ok after) :
    ∃ records, device.recordsOf (share devices visits index) = .ok records ∧
      records.map GpuProcess.pid = (share devices visits index).map Visit.pid ∧
      (∀ record ∈ records, record.bare = { pid := record.pid }) ∧
      GpuProcess.Collects records after.processes := by
  have haccepts : ∀ visit ∈ share devices visits index, device.accepts visit.text = true :=
    fun visit hvisit => accepts_of_mem_share hdevice hvisit
  cases hreader : device.fdinfo with
  | none =>
      have hnone : share devices visits index = [] := by
        rw [List.eq_nil_iff_forall_not_mem]
        intro visit hvisit
        have := haccepts visit hvisit
        simp [accepts, hreader] at this
      rw [hnone] at h ⊢
      cases h
      rw [hempty]
      exact ⟨[], by rw [recordsOf, hreader], rfl, by simp, GpuProcess.collects_nil⟩
  | some reader =>
      simp only [accepts, hreader, Option.any_some] at haccepts
      obtain ⟨last, records, processes, hread, hmerge, rfl⟩ := (takeAll_eq_ok_iff hreader).mp h
      obtain ⟨hpids, hbare⟩ := FdinfoReader.records_of_readAll haccepts hread
      have hrecords : Grouped (records.map GpuProcess.pid) := by
        rw [hpids]
        exact hgrouped.sublist (List.filter_sublist.map _)
      rw [hempty] at hmerge
      refine ⟨records, ?_, hpids, hbare, GpuProcess.collects_of_mergeAll hrecords hmerge⟩
      rw [recordsOf, hreader]
      exact Fault.map_eq_ok_iff.mpr ⟨(last, records), hread, rfl⟩

/-- The exact content of the process lists after a sweep. The texts that count for a device are
those of readable representatives that it is the first to accept. It has one entry for each process
with such a text, whose figures are the exact sums of those that the reader gave for these texts,
whose kind is that of the last of them, and which has nothing else. -/
theorem contents_of_sweep {same : SameOpenFile} {root : Root} {devices swept : List (Device β)}
    (hempty : ∀ device ∈ devices, device.processes = [])
    (hpids : (root.entries.filterMap Entry.pid?).Nodup)
    (hsweep : sweep same root devices = .ok swept) :
    swept.length = devices.length ∧
      ∀ index device, devices[index]? = some device → ∃ after, swept[index]? = some after ∧
        (after.processes.map GpuProcess.pid).Nodup ∧
        (∀ pid, pid ∈ after.processes.map GpuProcess.pid ↔
          ∃ visit ∈ root.visits same, visit.pid = pid ∧
            firstAccepting devices visit.text = some index) ∧
        ∃ records, device.recordsOf (share devices (root.visits same) index) = .ok records ∧
          records.map GpuProcess.pid =
            (share devices (root.visits same) index).map Visit.pid ∧
          ∀ entry ∈ after.processes,
            let ofProcess := records.filter fun record => record.pid = entry.pid
            (∀ figure : Figure, figure.value entry = exactSum (ofProcess.map figure.value)) ∧
            some entry.kind = (ofProcess.map GpuProcess.kind).getLast? ∧
            entry.bare = { pid := entry.pid } := by
  rw [sweep_eq_dispatchAll] at hsweep
  obtain ⟨hlength, hdevices⟩ := dispatchAll_eq_ok_iff.mp hsweep
  refine ⟨hlength, ?_⟩
  intro index device hdevice
  obtain ⟨after, hafter, htake⟩ := hdevices index device hdevice
  have hgrouped : Grouped ((root.visits same).map Visit.pid) := grouped_visits same hpids
  obtain ⟨records, hrecords, hrecordPids, hbare, hcollects⟩ :=
    collects_of_takeAll hgrouped (hempty device (List.mem_of_getElem? hdevice)) hdevice htake
  refine ⟨after, hafter, hcollects.nodup, ?_, records, hrecords, hrecordPids, ?_⟩
  · intro pid
    rw [hcollects.mem_pid, hrecordPids]
    simp only [share, List.mem_map, List.mem_filter, decide_eq_true_eq]
    constructor
    · rintro ⟨visit, ⟨hvisit, hfirst⟩, hpid⟩
      exact ⟨visit, hvisit, hpid, hfirst⟩
    · rintro ⟨visit, hvisit, hpid, hfirst⟩
      exact ⟨visit, ⟨hvisit, hfirst⟩, hpid⟩
  · intro entry hentry
    refine ⟨hcollects.isSum entry hentry, hcollects.kind entry hentry, ?_⟩
    obtain ⟨record, hrecord, hsame⟩ := hcollects.bare entry hentry
    have hmem : record ∈ records := (List.mem_filter.mp hrecord).1
    rw [hsame, hbare record hmem, GpuProcess.pid_eq_of_bare_eq hsame]

/-- Process 7 has two clients on the device, and a copy of the descriptor of the first one. -/
theorem contents_of_sweep_of_two_clients :
    let bytes (text : String) : List UInt8 := text.toList.map fun c => UInt8.ofNat c.toNat
    let descriptor (name text : String) : Descriptor :=
      { name, file := .characterDevice 0xe200, contents := some (bytes text), readAt := 0 }
    let descriptors := [descriptor "3" "pdev:a\ndrm-memory-vram:1 KiB",
      descriptor "4" "pdev:a\ndrm-memory-vram:2 KiB",
      descriptor "5" "pdev:a\ndrm-memory-vram:1 KiB"]
    let root : Root :=
      { path := "/proc", listing := .ok [{ name := "7", fdinfo := some descriptors }] }
    let same : SameOpenFile := fun _ number other => number = 5 && other = 3
    let device : Device Unit := { vendor := 0, fdinfo := some { address := ['a'] }, backend := () }
    ∃ swept after, sweep same root [device] = .ok swept ∧ swept[0]? = some after ∧
      7 ∈ after.processes.map GpuProcess.pid ∧
      ∀ entry ∈ after.processes, entry.pid = 7 → entry.memory.map UInt64.toNat = some 3072 := by
  intro bytes descriptor descriptors root same device
  obtain ⟨swept, hswept⟩ : ∃ swept, sweep same root [device] = .ok swept :=
    Fault.exists_of_isOk (by decide +kernel)
  have hempty : ∀ other ∈ [device], other.processes = [] := by
    intro other hother
    rw [List.mem_singleton.mp hother]
  obtain ⟨-, hcontents⟩ := contents_of_sweep hempty (by decide +kernel) hswept
  obtain ⟨after, hafter, -, hmem, records, hrecords, -, hentries⟩ := hcontents 0 device rfl
  have hvalues : records = [{ pid := 7, memory := some 1024 }, { pid := 7, memory := some 2048 }] := by
    have hoption : (device.recordsOf (share [device] (root.visits same) 0)).toOption =
        some [{ pid := 7, memory := some 1024 }, { pid := 7, memory := some 2048 }] := by
      decide +kernel
    rw [hrecords] at hoption
    exact Option.some.inj hoption
  refine ⟨swept, after, hswept, hafter, ?_, ?_⟩
  · rw [hmem]
    exact ⟨⟨7, "pdev:a\ndrm-memory-vram:1 KiB".toList, 0⟩, by decide +kernel, rfl, by decide +kernel⟩
  · intro entry hentry hpid
    have hmemory := (hentries entry hentry).1 .memory
    rw [hpid, hvalues] at hmemory
    exact hmemory

end Device

end GpuTelemetry
