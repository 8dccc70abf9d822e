import GpuTelemetry.Proofs.Nvidia.Enumeration
import GpuTelemetry.Proofs.Nvidia.Processes
import Mathlib.Order.Bounds.Basic

/-!
# The samples that NVIDIA devices ask for

A device asks for the samples since a time stamp, which is the latest one that it
has been told of so far. Whatever the library answers, in whatever order, the time
stamp only moves forward, and only to one that the library reported. Queries that
fail and other devices leave it where it is.
-/

namespace GpuTelemetry.Nvidia

open Nvml

/-! ## One device -/

namespace Device

theorem le_max (t other : UInt64) : t ≤ max t other ∧ other ≤ max t other := by
  change t ≤ (if t ≤ other then other else t) ∧ other ≤ (if t ≤ other then other else t)
  split
  next hle => exact ⟨hle, UInt64.le_refl other⟩
  next hgt => exact ⟨UInt64.le_refl t, UInt64.le_of_lt (UInt64.not_le.mp hgt)⟩

theorem max_eq_or (t other : UInt64) : max t other = t ∨ max t other = other := by
  change (if t ≤ other then other else t) = t ∨ (if t ≤ other then other else t) = other
  split
  next => exact .inr rfl
  next => exact .inl rfl

theorem le_latest (start : UInt64) (samples : List UtilizationSample) :
    start ≤ latest start samples ∧ ∀ sample ∈ samples, sample.timestamp ≤ latest start samples := by
  induction samples generalizing start with
  | nil => exact ⟨UInt64.le_refl start, by simp⟩
  | cons first samples ih =>
      obtain ⟨hstart, hsamples⟩ := ih (max start first.timestamp)
      obtain ⟨hleft, hright⟩ := le_max start first.timestamp
      refine ⟨UInt64.le_trans hleft hstart, ?_⟩
      intro sample hsample
      rcases List.mem_cons.mp hsample with rfl | hmem
      · exact UInt64.le_trans hright hstart
      · exact hsamples sample hmem

theorem latest_mem (start : UInt64) (samples : List UtilizationSample) :
    latest start samples = start ∨
      latest start samples ∈ samples.map UtilizationSample.timestamp := by
  induction samples generalizing start with
  | nil => exact .inl rfl
  | cons first samples ih =>
      have hcons : latest start (first :: samples) =
          latest (max start first.timestamp) samples := rfl
      rw [hcons, List.map_cons, List.mem_cons]
      rcases ih (max start first.timestamp) with hsame | hmem
      · rw [hsame]
        rcases max_eq_or start first.timestamp with hold | hnew
        · exact .inl hold
        · exact .inr (.inl hnew)
      · exact .inr (.inr hmem)

theorem isGreatest_latest {times : Set UInt64} {start : UInt64} (h : IsGreatest times start)
    (samples : List UtilizationSample) :
    IsGreatest (times ∪ {time | time ∈ samples.map UtilizationSample.timestamp})
      (latest start samples) := by
  obtain ⟨hstart, hsamples⟩ := le_latest start samples
  constructor
  · rcases latest_mem start samples with hsame | hmem
    · rw [hsame]
      exact .inl h.1
    · exact .inr hmem
  · rintro time (hold | hnew)
    · exact UInt64.le_trans (h.2 hold) hstart
    · obtain ⟨sample, hsample, rfl⟩ := List.mem_map.mp hnew
      exact hsamples sample hsample

end Device

/-! ## Runs -/

/-- A refresh of one of some devices: its place among them, the list that it adds to, and what the
library answers. -/
structure Refresh where
  place : Nat
  processes : List GpuProcess := []
  answers : Except Nvml.Failure ProcessAnswers

/-- A query for samples: the place of the device, the time stamp that it passes, and the answer. -/
structure SampleQuery where
  place : Nat
  since : UInt64
  answer : Except Nvml.Failure (List UtilizationSample)

/-- The time stamps in the answer to a query; a query that fails reports none. -/
def SampleQuery.timestamps (query : SampleQuery) : List UInt64 :=
  (query.answer.toOption.getD []).map UtilizationSample.timestamp

namespace Refresh

def perform (refresh : Refresh) (devices : List Device) : List Device :=
  devices.modify refresh.place fun device =>
    (device.addAnswered refresh.answers refresh.processes).2

/-- The query that a refresh puts. There is none if the library does not find the device. -/
def query? (refresh : Refresh) (devices : List Device) : Option SampleQuery := do
  let device ← devices[refresh.place]?
  let answers ← refresh.answers.toOption
  return {
    place := refresh.place
    since := device.lastSample
    answer := device.newSamples answers }

end Refresh

/-- The queries for samples in the course of some refreshes. -/
def queries : List Device → List Refresh → List SampleQuery
  | _, [] => []
  | devices, refresh :: refreshes =>
    (refresh.query? devices).toList ++ queries (refresh.perform devices) refreshes

/-- The time stamps that the device at a place has been told of. -/
def reported (place : Nat) (log : List SampleQuery) : Set UInt64 :=
  {time | ∃ query ∈ log, query.place = place ∧ time ∈ query.timestamps}

theorem reported_append (place : Nat) (log more : List SampleQuery) :
    reported place (log ++ more) = reported place log ∪ reported place more := by
  ext time
  simp [reported, or_and_right, exists_or]

theorem reported_subset {place : Nat} {log more : List SampleQuery} :
    reported place log ⊆ reported place (log ++ more) := by
  rw [reported_append]
  exact Set.subset_union_left

theorem reported_nil (place : Nat) : reported place [] = ∅ := by
  ext time
  simp [reported]

/-- What a refresh of some device lets the device at a place know. -/
theorem reported_query? (refresh : Refresh) {devices : List Device} {place : Nat} {device : Device}
    (hdevice : devices[place]? = some device) :
    reported place (refresh.query? devices).toList =
      if refresh.place = place then
        {time | time ∈ (answered refresh.answers device.newSamples).map UtilizationSample.timestamp}
      else ∅ := by
  ext time
  by_cases hplace : refresh.place = place
  · rw [if_pos hplace, reported, Refresh.query?, hplace, hdevice]
    cases refresh.answers with
    | error failure => simp [answered, Except.toOption, Except.bind]
    | ok answers => simp [answered, Except.toOption, Except.bind, SampleQuery.timestamps]
  · rw [if_neg hplace, reported, Refresh.query?]
    cases devices[refresh.place]? with
    | none => simp
    | some other =>
        cases refresh.answers with
        | error failure => simp [Except.toOption]
        | ok answers => simp [Except.toOption, hplace]

theorem since_of_query? {refresh : Refresh} {devices : List Device} {query : SampleQuery}
    (h : refresh.query? devices = some query) :
    ∃ device, devices[query.place]? = some device ∧ query.since = device.lastSample := by
  obtain ⟨device, hdevice, hrest⟩ := Option.bind_eq_some_iff.mp h
  obtain ⟨answers, -, hquery⟩ := Option.bind_eq_some_iff.mp hrest
  cases hquery
  exact ⟨device, hdevice, rfl⟩

/-- Whether a query got what the library answers in a refresh for the time stamp that it passes. -/
def SampleQuery.AskedBy (query : SampleQuery) (refresh : Refresh) : Prop :=
  refresh.place = query.place ∧
    ∃ answers, refresh.answers = .ok answers ∧ query.answer = answers.samplesSince query.since

theorem askedBy_of_query? {refresh : Refresh} {devices : List Device} {query : SampleQuery}
    (h : refresh.query? devices = some query) : query.AskedBy refresh := by
  obtain ⟨device, -, hrest⟩ := Option.bind_eq_some_iff.mp h
  obtain ⟨answers, hanswers, hquery⟩ := Option.bind_eq_some_iff.mp hrest
  cases hquery
  refine ⟨rfl, answers, ?_, rfl⟩
  cases hresult : refresh.answers with
  | error failure =>
      rw [hresult] at hanswers
      cases hanswers
  | ok other =>
      rw [hresult] at hanswers
      cases hanswers
      rfl

theorem exists_askedBy_of_mem_queries {devices : List Device} {refreshes : List Refresh}
    {query : SampleQuery} (h : query ∈ queries devices refreshes) :
    ∃ refresh ∈ refreshes, query.AskedBy refresh := by
  induction refreshes generalizing devices with
  | nil => cases h
  | cons refresh refreshes ih =>
      rw [queries, List.mem_append, Option.mem_toList] at h
      rcases h with hfirst | hlater
      · exact ⟨refresh, List.mem_cons_self, askedBy_of_query? hfirst⟩
      · obtain ⟨later, hmem, hasked⟩ := ih hlater
        exact ⟨later, List.mem_cons_of_mem refresh hmem, hasked⟩

/-- Whether every device asks for the samples since the latest time stamp that it was told of. -/
def UpToDate (devices : List Device) (log : List SampleQuery) : Prop :=
  ∀ place device, devices[place]? = some device →
    IsGreatest (insert 0 (reported place log)) device.lastSample

theorem upToDate_of_unsampled {devices : List Device}
    (h : ∀ device ∈ devices, device.lastSample = 0) : UpToDate devices [] := by
  intro place device hdevice
  rw [h device (List.mem_of_getElem? hdevice), reported_nil]
  constructor
  · exact Set.mem_insert 0 ∅
  · rintro time (rfl | hmem)
    · exact UInt64.le_refl 0
    · exact hmem.elim

theorem UpToDate.perform {devices : List Device} {log : List SampleQuery}
    (h : UpToDate devices log) (refresh : Refresh) :
    UpToDate (refresh.perform devices) (log ++ (refresh.query? devices).toList) := by
  intro place device hdevice
  rw [Refresh.perform, List.getElem?_modify] at hdevice
  obtain ⟨before, hbefore, hafter⟩ := Option.map_eq_some_iff.mp hdevice
  have hold := h place before hbefore
  rw [reported_append, reported_query? refresh hbefore, ← hafter, ← Set.insert_union]
  by_cases hplace : refresh.place = place
  · rw [if_pos hplace, if_pos hplace, addAnswered_eq]
    exact Device.isGreatest_latest hold _
  · rw [if_neg hplace, if_neg hplace, Set.union_empty]
    exact hold

/-- Every query of a run asks for the samples since the latest time stamp in the log so far. -/
theorem UpToDate.isGreatest_since {devices : List Device} {refreshes : List Refresh}
    {log before after : List SampleQuery} {query : SampleQuery} (h : UpToDate devices log)
    (hqueries : queries devices refreshes = before ++ query :: after) :
    IsGreatest (insert 0 (reported query.place (log ++ before))) query.since := by
  induction refreshes generalizing devices log before with
  | nil => cases before <;> cases hqueries
  | cons refresh refreshes ih =>
      rw [queries] at hqueries
      have hnext := h.perform refresh
      cases hquery : refresh.query? devices with
      | none =>
          rw [hquery] at hqueries hnext
          rw [Option.toList_none, List.append_nil] at hnext
          exact ih hnext hqueries
      | some first =>
          rw [hquery] at hqueries hnext
          rw [Option.toList_some, List.singleton_append] at hqueries
          cases before with
          | nil =>
              obtain ⟨rfl, -⟩ := List.cons.inj hqueries
              obtain ⟨device, hdevice, hsince⟩ := since_of_query? hquery
              rw [List.append_nil, hsince]
              exact h first.place device hdevice
          | cons other before =>
              obtain ⟨rfl, hrest⟩ := List.cons.inj hqueries
              have hlater := ih hnext hrest
              rw [Option.toList_some, List.append_assoc, List.singleton_append] at hlater
              exact hlater

theorem Library.unsampled_of_mem_offers {library : Library} {driver : Driver}
    {offers : List (Option Device)} {device : Device} (h : library.offers driver = some offers)
    (hmem : some device ∈ offers) : device.lastSample = 0 := by
  obtain ⟨count, -, rfl⟩ := Option.map_eq_some_iff.mp h
  obtain ⟨index, -, hopened⟩ := List.mem_map.mp hmem
  obtain ⟨listed, -, rfl⟩ := Option.map_eq_some_iff.mp hopened
  rfl

/-- Devices that were found have not asked for samples yet. -/
theorem Vendor.ensures_enumerate_unsampled (vendor : Vendor) (driver : Driver) (mask : DeviceMask) :
    Traced.Ensures (vendor.enumerate driver mask) fun outcome =>
      ∀ devices, outcome.1 = .ok devices → ∀ device ∈ devices, device.lastSample = 0 := by
  cases hlibrary : vendor.library with
  | none =>
      rw [enumerate, hlibrary]
      apply Traced.ensures_pure
      rintro devices ⟨⟩
  | some library =>
      refine Traced.Ensures.mono (ensures_enumerate hlibrary mask) ?_
      intro outcome houtcome devices hdevices device hdevice
      cases hoffers : library.offers driver with
      | none =>
          rw [hoffers] at houtcome
          rw [hdevices] at houtcome
          cases houtcome.1
      | some offers =>
          rw [hoffers] at houtcome
          rw [houtcome] at hdevices
          cases hdevices
          obtain ⟨_, hoffer, rfl⟩ := List.mem_filterMap.mp hdevice
          exact Library.unsampled_of_mem_offers hoffers (DeviceMask.mem_of_mem_select hoffer)

/-- In any run of refreshes of the devices that were found, a query asks for the samples since the
greatest of zero and the time stamps in the answers to the earlier queries of its device. So it never
asks further back than before, it asks since the same time stamp as long as the queries of the device
fail, and the time stamp is one that the library reported, if it is not zero. -/
theorem since_of_queries {vendor : Vendor} {driver : Driver} {mask : DeviceMask}
    {trace : List Event} {devices : List Device} {refreshes : List Refresh}
    {before after : List SampleQuery} {query : SampleQuery}
    (hfound : (StateT.run (vendor.enumerate driver mask) trace).1.1 = .ok devices)
    (hqueries : queries devices refreshes = before ++ query :: after) :
    (∃ refresh ∈ refreshes, query.AskedBy refresh) ∧
      IsGreatest (insert 0 (reported query.place before)) query.since ∧
      (∀ earlier ∈ before, earlier.place = query.place → earlier.since ≤ query.since) ∧
      (∀ first last between, before = first ++ last :: between → last.place = query.place →
        (∀ other ∈ last :: between, other.place = query.place → other.answer.toOption = none) →
          query.since = last.since) ∧
      (query.since = 0 ∨
        ∃ earlier ∈ before, earlier.place = query.place ∧ query.since ∈ earlier.timestamps) := by
  have hstart : UpToDate devices [] :=
    upToDate_of_unsampled (vendor.ensures_enumerate_unsampled driver mask trace devices hfound)
  have hgreatest : IsGreatest (insert 0 (reported query.place before)) query.since :=
    hstart.isGreatest_since hqueries
  have hearlier (first between : List SampleQuery) (last : SampleQuery)
      (hbefore : before = first ++ last :: between) (hplace : last.place = query.place) :
      IsGreatest (insert 0 (reported query.place first)) last.since := by
    rw [hbefore, List.append_assoc, List.cons_append] at hqueries
    rw [← hplace]
    exact hstart.isGreatest_since hqueries
  have hadvance (first between : List SampleQuery) (last : SampleQuery)
      (hbefore : before = first ++ last :: between) (hplace : last.place = query.place) :
      last.since ≤ query.since := by
    apply hgreatest.2
    rw [hbefore]
    exact Set.insert_subset_insert reported_subset (hearlier first between last hbefore hplace).1
  have hasked : query ∈ queries devices refreshes := by
    rw [hqueries]
    exact List.mem_append_right before List.mem_cons_self
  refine ⟨exists_askedBy_of_mem_queries hasked, hgreatest, ?_, ?_, ?_⟩
  · intro earlier hmem hplace
    obtain ⟨first, between, hbefore⟩ := List.mem_iff_append.mp hmem
    exact hadvance first between earlier hbefore hplace
  · intro first last between hbefore hplace hfailed
    have hnothing : reported query.place (last :: between) = ∅ := by
      rw [Set.eq_empty_iff_forall_notMem]
      rintro time ⟨other, hother, hsame, htime⟩
      rw [SampleQuery.timestamps, hfailed other hother hsame] at htime
      cases htime
    have hsame : reported query.place before = reported query.place first := by
      rw [hbefore, reported_append, hnothing, Set.union_empty]
    apply UInt64.le_antisymm
    · exact (hearlier first between last hbefore hplace).2 (hsame ▸ hgreatest.1)
    · exact hadvance first between last hbefore hplace
  · rcases hgreatest.1 with hzero | ⟨earlier, hmem, hplace, htime⟩
    · exact .inl hzero
    · exact .inr ⟨earlier, hmem, hplace, htime⟩

/-- Two devices. The first one is told of time stamps out of order and of a process that is not
listed, and then its query fails once. -/
theorem since_of_queries_after_failure :
    let library : Library :=
      { directory := { path := "/lib" }, file := { name := libraryName }, load := 0 }
    let driver : Driver := { count := .ok 2, devices := [{}, {}] }
    let vendor : Vendor := { library := some library }
    let devices : List Device := [{ library, index := 0 }, { library, index := 1 }]
    let refresh (place : Nat) (samples : Except Nvml.Failure (List UtilizationSample)) : Refresh :=
      { place
        answers := .ok { compute := .ok [], graphics := .ok [], samplesSince := fun _ => samples } }
    let sample (timestamp : UInt64) : UtilizationSample := ⟨7, timestamp, 0, 0, 0⟩
    let refreshes :=
      [refresh 0 (.ok [sample 5, sample 3]), refresh 1 (.ok [sample 9]),
        refresh 0 (.error (.status 999)), refresh 0 (.ok [])]
    let before : List SampleQuery :=
      [⟨0, 0, .ok [sample 5, sample 3]⟩, ⟨1, 0, .ok [sample 9]⟩, ⟨0, 5, .error (.status 999)⟩]
    (StateT.run (vendor.enumerate driver DeviceMask.all) []).1.1 = .ok devices ∧
      queries devices refreshes = before ++ ⟨0, 5, .ok []⟩ :: [] ∧
      IsGreatest (insert 0 (reported 0 before)) 5 := by
  intro library driver vendor devices refresh sample refreshes before
  have hfound : (StateT.run (vendor.enumerate driver DeviceMask.all) []).1.1 = .ok devices := rfl
  have hqueries : queries devices refreshes = before ++ ⟨0, 5, .ok []⟩ :: [] := rfl
  obtain ⟨-, hgreatest, -⟩ := since_of_queries hfound hqueries
  exact ⟨hfound, hqueries, hgreatest⟩

end GpuTelemetry.Nvidia
