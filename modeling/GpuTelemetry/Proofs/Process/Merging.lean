import GpuTelemetry.Proofs.Process.Figures
import Mathlib.Data.List.Induction
import Mathlib.Data.List.Nodup

/-!
# Merging records into a process list

A record is added to the last entry of a list if that belongs to its process, and
becomes a new entry otherwise. Where the records of each process stand together,
the list ends with one entry for each process, which is the exact sum of its
records, and a fault means that one of these sums cannot be held by any record.
-/

namespace GpuTelemetry

/-- The processes in a list stand together: between two records of one there is no other. -/
def Grouped (pids : List UInt32) : Prop :=
  ∀ outer inner, [outer, inner, outer].Sublist pids → inner = outer

theorem Grouped.sublist {a b : List UInt32} (h : Grouped b) (hab : a.Sublist b) : Grouped a :=
  fun outer inner hsub => h outer inner (hsub.trans hab)

/-- A process that comes again is the one that came last. -/
theorem Grouped.getLast?_eq {pids : List UInt32} {pid : UInt32} (h : Grouped (pids ++ [pid]))
    (hmem : pid ∈ pids) : pids.getLast? = some pid := by
  rcases List.eq_nil_or_concat pids with rfl | ⟨front, last, rfl⟩
  · cases hmem
  · rw [List.concat_eq_append] at h hmem ⊢
    rw [List.getLast?_append_of_ne_nil _ (by simp), List.getLast?_singleton]
    rcases List.mem_append.mp hmem with hfront | hlast
    · have hsub : [pid, last, pid].Sublist (front ++ [last] ++ [pid]) := by
        rw [List.append_assoc]
        exact (List.singleton_sublist.mpr hfront).append (List.Sublist.refl [last, pid])
      rw [h pid last hsub]
    · rw [List.mem_singleton.mp hlast]

namespace GpuProcess

def ofPid (pid : UInt32) (records : List GpuProcess) : List GpuProcess :=
  records.filter fun record => record.pid = pid

@[simp] theorem ofPid_append (pid : UInt32) (a b : List GpuProcess) :
    ofPid pid (a ++ b) = ofPid pid a ++ ofPid pid b :=
  List.filter_append a b

theorem ofPid_singleton (pid : UInt32) (record : GpuProcess) :
    ofPid pid [record] = if record.pid = pid then [record] else [] := by
  by_cases h : record.pid = pid <;> simp [ofPid, h]

theorem ofPid_eq_nil {pid : UInt32} {records : List GpuProcess}
    (h : pid ∉ records.map GpuProcess.pid) : ofPid pid records = [] := by
  rw [ofPid, List.filter_eq_nil_iff]
  intro record hmem hpid
  exact h (List.mem_map.mpr ⟨record, hmem, of_decide_eq_true hpid⟩)

def mergeAll (records list : List GpuProcess) : Except Fault (List GpuProcess) :=
  records.foldlM (fun list record => record.merge list) list

theorem merge_append_singleton (record last : GpuProcess) (front : List GpuProcess) :
    record.merge (front ++ [last]) =
      if last.pid = record.pid then (last.accumulate record).map fun sum => front ++ [sum]
      else .ok (front ++ [last, record]) := by
  induction front with
  | nil => rfl
  | cons first front ih =>
      have hmerge : record.merge (first :: (front ++ [last])) =
          (record.merge (front ++ [last])).map (first :: ·) := by
        cases front <;> rfl
      rw [List.cons_append, hmerge, ih]
      split
      next => cases last.accumulate record <;> rfl
      next => rfl

/-- What a list is after a record has joined it. The last entry takes the record in if it is about
the same process: each of its figures becomes the exact sum, its kind that of the record, and the
rest of it stays. Otherwise the record is a new last entry. The entries before the last one never
change. -/
def Joins (record : GpuProcess) (list joined : List GpuProcess) : Prop :=
  (∃ front last sum, list = front ++ [last] ∧ last.pid = record.pid ∧ joined = front ++ [sum] ∧
    sum.kind = record.kind ∧ sum.bare = last.bare ∧ sum.IsSum [last, record]) ∨
  (list.getLast?.map pid ≠ some record.pid ∧ joined = list ++ [record])

theorem merge_eq_ok_iff {record : GpuProcess} {list joined : List GpuProcess} :
    record.merge list = .ok joined ↔ record.Joins list joined := by
  rcases List.eq_nil_or_concat list with rfl | ⟨front, last, rfl⟩
  · constructor
    · rintro ⟨⟩
      exact .inr ⟨nofun, rfl⟩
    · rintro (⟨_, _, _, hlist, -⟩ | ⟨-, rfl⟩)
      · simp at hlist
      · rfl
  · have hpair (sum : GpuProcess) : sum.IsSum [last, record] ↔ ∀ figure : Figure,
        figure.value sum = Option.merge (· + ·) (figure.value last) (figure.value record) := by
      simp only [IsSum, List.map_cons, List.map_nil, exactSum_cons, exactSum_nil,
        Option.merge_none_right]
    rw [List.concat_eq_append, merge_append_singleton, Joins, List.getLast?_concat]
    by_cases hpid : last.pid = record.pid
    · rw [if_pos hpid, Fault.map_eq_ok_iff]
      constructor
      · rintro ⟨sum, hsum, rfl⟩
        obtain ⟨hkind, hbare, hfigures⟩ := accumulate_eq_ok_iff.mp hsum
        exact .inl ⟨front, last, sum, rfl, hpid, rfl, hkind, hbare, (hpair sum).mpr hfigures⟩
      · rintro (⟨_, _, sum, hlist, -, rfl, hkind, hbare, hsum⟩ | ⟨hne, -⟩)
        · obtain ⟨rfl, hlast⟩ := List.append_inj' hlist rfl
          cases hlast
          exact ⟨sum, accumulate_eq_ok_iff.mpr ⟨hkind, hbare, (hpair sum).mp hsum⟩, rfl⟩
        · exact absurd (congrArg some hpid) hne
    · rw [if_neg hpid]
      constructor
      · rintro ⟨⟩
        exact .inr ⟨by simpa using hpid, by simp⟩
      · rintro (⟨_, _, _, hlist, hsame, -⟩ | ⟨-, rfl⟩)
        · obtain ⟨rfl, hlast⟩ := List.append_inj' hlist rfl
          cases hlast
          exact absurd hsame hpid
        · simp

theorem fault_of_merge {record : GpuProcess} {processes : List GpuProcess}
    {fault : Fault} (h : record.merge processes = .error fault) : fault = .additionOverflow := by
  induction processes with
  | nil => cases h
  | cons first rest ih =>
      cases rest with
      | nil =>
          rw [merge] at h
          split at h
          · exact fault_of_accumulate (Fault.map_eq_error_iff.mp h)
          · cases h
      | cons second rest => exact ih (Fault.map_eq_error_iff.mp h)

/-- A process list is what records add up to. -/
structure Collects (records list : List GpuProcess) : Prop where
  nodup : (list.map pid).Nodup
  mem_pid : ∀ pid, pid ∈ list.map GpuProcess.pid ↔ pid ∈ records.map GpuProcess.pid
  last : list.getLast?.map pid = records.getLast?.map pid
  isSum : ∀ entry ∈ list, entry.IsSum (ofPid entry.pid records)
  kind : ∀ entry ∈ list, some entry.kind = ((ofPid entry.pid records).map kind).getLast?
  bare : ∀ entry ∈ list, ∃ record ∈ ofPid entry.pid records, entry.bare = record.bare

theorem collects_nil : Collects [] [] :=
  ⟨List.nodup_nil, fun _ => Iff.rfl, rfl, by simp, by simp, by simp⟩

/-- A record of a process that has not come before makes an entry of its own. -/
theorem Collects.push {records list : List GpuProcess} (h : Collects records list)
    {record : GpuProcess} (hnew : record.pid ∉ records.map pid) :
    Collects (records ++ [record]) (list ++ [record]) := by
  have hfresh : record.pid ∉ list.map pid := fun hmem => hnew ((h.mem_pid _).mp hmem)
  have hold (entry : GpuProcess) (hentry : entry ∈ list) :
      ofPid entry.pid (records ++ [record]) = ofPid entry.pid records := by
    have hne : record.pid ≠ entry.pid := fun heq =>
      hfresh (List.mem_map.mpr ⟨entry, hentry, heq.symm⟩)
    rw [ofPid_append, ofPid_singleton, if_neg hne, List.append_nil]
  have hself : ofPid record.pid (records ++ [record]) = [record] := by
    rw [ofPid_append, ofPid_eq_nil hnew, ofPid_singleton, if_pos rfl, List.nil_append]
  refine ⟨?_, ?_, by simp, ?_, ?_, ?_⟩
  · rw [List.map_append, List.map_singleton]
    refine List.nodup_append.mpr ⟨h.nodup, List.nodup_singleton _, ?_⟩
    rintro pid hpid _ hself rfl
    exact hfresh (List.mem_singleton.mp hself ▸ hpid)
  · intro pid
    rw [List.map_append, List.map_append, List.mem_append, List.mem_append, h.mem_pid]
  · intro entry hentry
    rcases List.mem_append.mp hentry with hentry | hentry
    · rw [hold entry hentry]
      exact h.isSum entry hentry
    · rw [List.mem_singleton.mp hentry, hself, isSum_singleton]
      exact fun _ => rfl
  · intro entry hentry
    rcases List.mem_append.mp hentry with hentry | hentry
    · rw [hold entry hentry]
      exact h.kind entry hentry
    · rw [List.mem_singleton.mp hentry, hself]
      rfl
  · intro entry hentry
    rcases List.mem_append.mp hentry with hentry | hentry
    · rw [hold entry hentry]
      exact h.bare entry hentry
    · rw [List.mem_singleton.mp hentry, hself]
      exact ⟨record, List.mem_singleton_self record, rfl⟩

/-- A record of the process that came last is added to the last entry. -/
theorem Collects.add {records front : List GpuProcess} {last record sum : GpuProcess}
    (h : Collects records (front ++ [last])) (hpid : last.pid = record.pid)
    (hsum : last.accumulate record = .ok sum) :
    Collects (records ++ [record]) (front ++ [sum]) := by
  obtain ⟨hkind, hbare, hfigures⟩ := accumulate_eq_ok_iff.mp hsum
  have hsumPid : sum.pid = last.pid := pid_eq_of_bare_eq hbare
  have hpids : (front ++ [sum]).map pid = (front ++ [last]).map pid := by
    rw [List.map_append, List.map_append, List.map_singleton, List.map_singleton, hsumPid]
  have hlast : last ∈ front ++ [last] := List.mem_append_right front (List.mem_singleton_self last)
  have hrecord : record.pid ∈ records.map pid := by
    rw [← hpid, ← h.mem_pid]
    exact List.mem_map_of_mem hlast
  have hself : ofPid sum.pid (records ++ [record]) = ofPid last.pid records ++ [record] := by
    rw [hsumPid, ofPid_append, ofPid_singleton, if_pos hpid.symm]
  have hold (entry : GpuProcess) (hentry : entry ∈ front) :
      ofPid entry.pid (records ++ [record]) = ofPid entry.pid records := by
    have hne : record.pid ≠ entry.pid := by
      intro heq
      have hnodup := h.nodup
      rw [List.map_append, List.nodup_append] at hnodup
      refine hnodup.2.2 entry.pid (List.mem_map_of_mem hentry) last.pid (by simp) ?_
      rw [hpid, heq]
    rw [ofPid_append, ofPid_singleton, if_neg hne, List.append_nil]
  refine ⟨hpids ▸ h.nodup, ?_, by simp [hsumPid, hpid], ?_, ?_, ?_⟩
  · intro pid
    rw [hpids, h.mem_pid, List.map_append, List.mem_append, List.map_singleton,
      List.mem_singleton]
    constructor
    · intro hmem
      exact .inl hmem
    · rintro (hmem | rfl)
      · exact hmem
      · exact hrecord
  · intro entry hentry
    rcases List.mem_append.mp hentry with hentry | hentry
    · rw [hold entry hentry]
      exact h.isSum entry (List.mem_append_left _ hentry)
    · rw [List.mem_singleton.mp hentry, hself]
      intro figure
      rw [hfigures, h.isSum last hlast figure, List.map_append, exactSum_append, List.map_singleton,
        exactSum_singleton]
  · intro entry hentry
    rcases List.mem_append.mp hentry with hentry | hentry
    · rw [hold entry hentry]
      exact h.kind entry (List.mem_append_left _ hentry)
    · rw [List.mem_singleton.mp hentry, hself, hkind]
      simp
  · intro entry hentry
    rcases List.mem_append.mp hentry with hentry | hentry
    · rw [hold entry hentry]
      exact h.bare entry (List.mem_append_left _ hentry)
    · obtain ⟨other, hother, hotherBare⟩ := h.bare last hlast
      rw [List.mem_singleton.mp hentry, hself, hbare]
      exact ⟨other, List.mem_append_left _ hother, hotherBare⟩

theorem Collects.merge {records list merged : List GpuProcess} (h : Collects records list)
    {record : GpuProcess} (hgrouped : Grouped ((records ++ [record]).map pid))
    (hmerge : record.merge list = .ok merged) : Collects (records ++ [record]) merged := by
  rw [List.map_append, List.map_singleton] at hgrouped
  rcases List.eq_nil_or_concat list with rfl | ⟨front, last, rfl⟩
  · cases hmerge
    refine h.push ?_
    rw [← h.mem_pid]
    exact List.not_mem_nil
  · rw [List.concat_eq_append] at h hmerge
    rw [merge_append_singleton] at hmerge
    split at hmerge
    next hpid =>
      obtain ⟨sum, hsum, rfl⟩ := Fault.map_eq_ok_iff.mp hmerge
      exact h.add hpid hsum
    next hpid =>
      cases hmerge
      have hnew : record.pid ∉ records.map pid := by
        intro hmem
        have hlast := hgrouped.getLast?_eq hmem
        rw [List.getLast?_map, ← h.last] at hlast
        exact hpid (by simpa using hlast)
      simpa using h.push hnew

theorem collects_of_mergeAll {records list : List GpuProcess}
    (hgrouped : Grouped (records.map pid)) (h : mergeAll records [] = .ok list) :
    Collects records list := by
  induction records using List.reverseRecOn generalizing list with
  | nil =>
      cases h
      exact collects_nil
  | append_singleton records record ih =>
      rw [mergeAll, List.foldlM_append, Fault.bind_eq_ok_iff] at h
      obtain ⟨middle, hmiddle, hlast⟩ := h
      rw [List.foldlM_cons, Fault.bind_eq_ok_iff] at hlast
      obtain ⟨merged, hmerged, hdone⟩ := hlast
      cases hdone
      have hbefore : Grouped (records.map pid) :=
        hgrouped.sublist ((List.sublist_append_left records [record]).map pid)
      exact (ih hbefore hmiddle).merge hgrouped hmerged

end GpuProcess

end GpuTelemetry
