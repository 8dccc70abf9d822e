import GpuTelemetry.Proofs.Device.Clients

/-!
# Totals that fit their figures

What a reader takes from one text always fits the figures of a record. The texts
of one process are added up, and the total of adversarial texts need not fit. A
sweep that meets no client twice comes to its end just when all totals fit.
-/

namespace GpuTelemetry.Device

open Procfs

variable {β : Type} {device : Device β} {devices : List (Device β)} {visits : List Visit}

/-- The total that the texts of a process come to, for a figure of its record on a device. -/
def total? (reader : FdinfoReader) (visits : List Visit) (pid : UInt32) (figure : Figure) :
    Option Nat :=
  exactSum ((visits.filter fun visit => visit.pid = pid).map fun visit =>
    figure.value (reader.recordAt visit))

/-- The total of every figure of every process fits. -/
def Fits (reader : FdinfoReader) (visits : List Visit) : Prop :=
  ∀ pid figure total, total? reader visits pid figure = some total → total < figure.size

theorem fits_iff {reader : FdinfoReader} :
    Fits reader visits ↔
      ∀ pid, ∃ sum : GpuProcess,
        sum.IsSum (GpuProcess.ofPid pid (visits.map reader.recordAt)) := by
  have hofPid (pid : UInt32) : GpuProcess.ofPid pid (visits.map reader.recordAt) =
      (visits.filter fun visit => visit.pid = pid).map reader.recordAt := by
    rw [GpuProcess.ofPid, List.filter_map]
    congr 1
    apply List.filter_congr
    intro visit _
    rw [Function.comp_apply, FdinfoReader.recordAt, FdinfoReader.pid_recordOf]
  simp only [Fits, total?, GpuProcess.exists_isSum_iff, hofPid, List.map_map, Function.comp_def]

/-- A device comes to the end of its share just when the totals fit. -/
theorem exists_takeAll_iff {index : Nat} (hdevice : devices[index]? = some device)
    (hempty : device.processes = []) (hgrouped : Grouped (visits.map Visit.pid))
    (hready : device.Ready visits) :
    (∃ after, takeAll (share devices visits index) device = .ok after) ↔
      ∀ reader, device.fdinfo = some reader → Fits reader (share devices visits index) := by
  have haccepts : ∀ visit ∈ share devices visits index, device.accepts visit.text = true :=
    fun visit hvisit => accepts_of_mem_share hdevice hvisit
  cases hreader : device.fdinfo with
  | none =>
      have hnone : share devices visits index = [] := by
        rw [List.eq_nil_iff_forall_not_mem]
        intro visit hvisit
        have haccept := haccepts visit hvisit
        rw [accepts, hreader] at haccept
        cases haccept
      rw [hnone]
      constructor
      · rintro - _ ⟨⟩
      · exact fun _ => ⟨device, rfl⟩
  | some reader =>
      simp only [accepts, hreader, Option.any_some] at haccepts
      have hsub : (share devices visits index).Sublist (about reader.address visits) := by
        have hall : (share devices visits index).filter
            (fun visit => Fdinfo.isAbout reader.address (Fdinfo.entries visit.text)) =
              share devices visits index := List.filter_eq_self.mpr haccepts
        rw [← hall]
        exact List.filter_sublist.filter _
      have hfresh : reader.Fresh (share devices visits index) :=
        (hready reader hreader).sublist hsub
      have hpids : ((share devices visits index).map reader.recordAt).map GpuProcess.pid =
          (share devices visits index).map Visit.pid := by
        rw [List.map_map]
        exact List.map_congr_left fun visit _ => FdinfoReader.pid_recordOf ..
      have hrecords :
          Grouped (((share devices visits index).map reader.recordAt).map GpuProcess.pid) := by
        rw [hpids]
        exact hgrouped.sublist (List.filter_sublist.map _)
      have hmerge : (∃ after, takeAll (share devices visits index) device = .ok after) ↔
          ∃ list, GpuProcess.mergeAll ((share devices visits index).map reader.recordAt) [] =
            .ok list := by
        simp only [takeAll_eq_ok_iff hreader, FdinfoReader.readAll_eq_ok_iff haccepts, hempty]
        constructor
        · rintro ⟨_, _, _, list, ⟨-, -, rfl⟩, hlist, -⟩
          exact ⟨list, hlist⟩
        · rintro ⟨list, hlist⟩
          exact ⟨_, _, _, list, ⟨hfresh, rfl, rfl⟩, hlist, rfl⟩
      rw [hmerge, GpuProcess.exists_mergeAll_iff hrecords, ← fits_iff]
      constructor
      · rintro hfits _ ⟨⟩
        exact hfits
      · intro hfits
        exact hfits reader rfl

theorem exists_dispatchAll_iff :
    (∃ swept, dispatchAll visits devices = .ok swept) ↔
      ∀ index device, devices[index]? = some device →
        ∃ after, takeAll (share devices visits index) device = .ok after := by
  constructor
  · rintro ⟨swept, hswept⟩ index device hdevice
    obtain ⟨after, -, htake⟩ := (dispatchAll_eq_ok_iff.mp hswept).2 index device hdevice
    exact ⟨after, htake⟩
  · intro htake
    have hindex (index : Fin devices.length) :
        ∃ after, takeAll (share devices visits index) devices[index] = .ok after :=
      htake index devices[index] (List.getElem?_eq_getElem index.isLt)
    choose after hafter using hindex
    refine ⟨List.ofFn after, dispatchAll_eq_ok_iff.mpr ⟨List.length_ofFn, ?_⟩⟩
    intro index device hdevice
    obtain ⟨hlt, rfl⟩ := List.getElem?_eq_some_iff.mp hdevice
    refine ⟨after ⟨index, hlt⟩, ?_, hafter ⟨index, hlt⟩⟩
    rw [List.getElem?_ofFn, dif_pos hlt]

/-- A sweep over devices that rest, where no client is met twice, comes to its end just when every
total of the figures of a process fits, and fails by an overflow otherwise. What single texts say
never matters: their values fit, since the reader drops or saturates those that do not. -/
theorem sweep_ends_iff {same : SameOpenFile} {root : Root}
    (hempty : ∀ device ∈ devices, device.processes = [])
    (hrests : ∀ device ∈ devices, device.Rests)
    (hroot : root.Separates same (devices.filterMap address?)) :
    ((∃ swept, sweep same root devices = .ok swept) ↔
      ∀ index device reader, devices[index]? = some device → device.fdinfo = some reader →
        Fits reader (share devices (root.visits same) index)) ∧
      ∀ fault, sweep same root devices = .error fault → fault = .additionOverflow := by
  refine ⟨?_, (sweep_of_separates hrests hroot).1⟩
  have hready : ∀ device ∈ devices, device.Ready (root.visits same) := by
    intro device hdevice
    apply (hrests device hdevice).ready
    intro address haddress
    exact hroot.nodup_clientKeys (List.mem_filterMap.mpr ⟨device, hdevice, haddress⟩)
  have hgrouped : Grouped ((root.visits same).map Visit.pid) := grouped_visits same hroot.pids
  rw [sweep_eq_dispatchAll, exists_dispatchAll_iff]
  constructor
  · intro htake index device reader hdevice hreader
    have hmem := List.mem_of_getElem? hdevice
    exact (exists_takeAll_iff hdevice (hempty device hmem) hgrouped (hready device hmem)).mp
      (htake index device hdevice) reader hreader
  · intro hfits index device hdevice
    have hmem := List.mem_of_getElem? hdevice
    exact (exists_takeAll_iff hdevice (hempty device hmem) hgrouped (hready device hmem)).mpr
      fun reader => hfits index device reader hdevice

/-- A tree with process 7, which has two clients with these gfx times on device `a`. -/
def treeOfTwoClients (first second : String) : Root :=
  let descriptor (name client time : String) : Descriptor :=
    { name
      file := .characterDevice 0xe200
      contents := some <| ("drm-pdev:a\ndrm-client-id:" ++ client ++ "\ndrm-engine-gfx:" ++ time ++
        " ns").toList.map fun c => UInt8.ofNat c.toNat
      readAt := 0 }
  let descriptors := [descriptor "3" "1" first, descriptor "4" "2" second]
  { path := "/proc", listing := .ok [{ name := "7", fdinfo := some descriptors }] }

theorem pid?_of_seven (fdinfo : Option (List Descriptor)) :
    Entry.pid? { name := "7", fdinfo } = some 7 := by
  have hname : (Word.read? "7".toList : Option UInt32) = some 7 := by decide +kernel
  rw [Entry.pid?, hname]
  rfl

theorem separates_of_one_process {same : SameOpenFile} {path : String}
    {descriptors : List Descriptor} (h : OneFilePerClient same 7 ['a'] descriptors) :
    Root.Separates same [['a']]
      { path, listing := .ok [{ name := "7", fdinfo := some descriptors }] } := by
  constructor
  · change List.Nodup ([_].filterMap Entry.pid?)
    rw [List.filterMap_cons_some (pid?_of_seven _)]
    exact List.nodup_singleton 7
  · intro entry hentry pid others hpid hfdinfo address haddress
    cases List.mem_singleton.mp hentry
    cases List.mem_singleton.mp haddress
    cases (pid?_of_seven _).symm.trans hpid
    cases hfdinfo
    exact h

/-- Two clients of one process report the largest time and one nanosecond. -/
theorem sweep_faults_of_two_clients :
    let same : SameOpenFile := fun _ _ _ => false
    let root := treeOfTwoClients "18446744073709551615" "1"
    let device : Device Unit := { vendor := 0, fdinfo := some { address := ['a'] }, backend := () }
    device.processes = [] ∧ device.Rests ∧ root.Separates same [['a']] ∧
      sweep same root [device] = .error .additionOverflow := by
  intro same root device
  have hrests : device.Rests := by
    rintro _ ⟨⟩
    rfl
  have hroot : root.Separates same [['a']] := by
    apply separates_of_one_process
    unfold OneFilePerClient
    decide +kernel
  refine ⟨rfl, hrests, hroot, ?_⟩
  have hfault : (sweep same root [device]).isOk = false := by decide +kernel
  have hready : ∀ other ∈ [device], other.Rests := List.forall_mem_singleton.mpr hrests
  cases hsweep : sweep same root [device] with
  | ok swept =>
      rw [hsweep] at hfault
      cases hfault
  | error fault => rw [(sweep_of_separates hready hroot).1 fault hsweep]

/-- The same clients with one nanosecond less, which is the largest total that fits. -/
theorem sweep_ends_of_two_clients :
    let same : SameOpenFile := fun _ _ _ => false
    let root := treeOfTwoClients "18446744073709551614" "1"
    let reader : FdinfoReader := { address := ['a'] }
    let device : Device Unit := { vendor := 0, fdinfo := some reader, backend := () }
    device.processes = [] ∧ device.Rests ∧ root.Separates same [['a']] ∧
      (∃ swept, sweep same root [device] = .ok swept) ∧
      Fits reader (share [device] (root.visits same) 0) := by
  intro same root reader device
  have hrests : device.Rests := by
    rintro _ ⟨⟩
    rfl
  have hroot : root.Separates same [['a']] := by
    apply separates_of_one_process
    unfold OneFilePerClient
    decide +kernel
  have hends : ∃ swept, sweep same root [device] = .ok swept :=
    Fault.exists_of_isOk (by decide +kernel)
  refine ⟨rfl, hrests, hroot, hends, ?_⟩
  have hempty : ∀ other ∈ [device], other.processes = [] := List.forall_mem_singleton.mpr rfl
  have hready : ∀ other ∈ [device], other.Rests := List.forall_mem_singleton.mpr hrests
  exact (sweep_ends_iff hempty hready hroot).1.mp hends 0 device reader rfl rfl

end GpuTelemetry.Device
