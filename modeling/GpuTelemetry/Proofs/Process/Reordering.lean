import GpuTelemetry.Proofs.Process.Merging
import Mathlib.Data.List.Perm.Basic

/-!
# Merging records in another order

Whether records can be merged depends on the sums of each process only, and so
does the list that they make, apart from the order of its entries and from their
kinds: the kind of an entry is that of the record that came last.
-/

namespace GpuTelemetry.GpuProcess

def untyped (process : GpuProcess) : GpuProcess :=
  { process with kind := .graphical }

theorem untyped_eq_of_isSum {a b : GpuProcess} {records others : List GpuProcess}
    (hrecords : records.Perm others) (ha : a.IsSum records) (hb : b.IsSum others)
    (hbare : a.bare = b.bare) : a.untyped = b.untyped := by
  have hfigures (figure : Figure) : figure.value a.untyped = figure.value b.untyped := by
    have hvalue (process : GpuProcess) : figure.value process.untyped = figure.value process := by
      cases figure <;> rfl
    rw [hvalue, hvalue, ha.perm hrecords, hb]
  exact ext_figures rfl hbare hfigures

/-- Where records can be added up, the first few of them can. -/
theorem IsSum.exists_of_append {sum : GpuProcess} {a b : List GpuProcess} (h : sum.IsSum (a ++ b)) :
    ∃ part : GpuProcess, part.IsSum a := by
  cases a with
  | nil =>
      refine ⟨{ pid := 0 }, ?_⟩
      intro figure
      cases figure with
      | busyTime engine => cases engine <;> rfl
      | _ => rfl
  | cons first others =>
      -- a record with the sums and with the identity of the first one and the kind of the last
      obtain ⟨kind, hkind⟩ : ∃ kind,
          some kind = ((first :: (others ++ b)).map GpuProcess.kind).getLast? := by
        rw [List.getLast?_eq_getLast_of_ne_nil (by simp)]
        exact ⟨_, rfl⟩
      let total : GpuProcess :=
        { first with
          kind
          memory := sum.memory
          gpuUsage := sum.gpuUsage
          encodeUsage := sum.encodeUsage
          decodeUsage := sum.decodeUsage
          engines := sum.engines }
      have htotal : total.IsSum (first :: (others ++ b)) := by
        intro figure
        rw [← List.cons_append, ← h figure]
        cases figure <;> rfl
      have hfold : (others ++ b).foldlM accumulate first = .ok total :=
        foldlM_accumulate_eq_ok_iff.mpr ⟨hkind, rfl, htotal⟩
      rw [List.foldlM_append, Fault.bind_eq_ok_iff] at hfold
      obtain ⟨part, hpart, -⟩ := hfold
      exact ⟨part, (foldlM_accumulate_eq_ok_iff.mp hpart).2.2⟩

theorem mergeAll_append_singleton (records list : List GpuProcess) (record : GpuProcess) :
    mergeAll (records ++ [record]) list = mergeAll records list >>= record.merge := by
  rw [mergeAll, mergeAll, List.foldlM_append]
  congr 1
  funext middle
  exact bind_pure _

theorem Collects.exists_merge {records list : List GpuProcess} (h : Collects records list)
    {record sum : GpuProcess} (hsum : sum.IsSum (ofPid record.pid (records ++ [record]))) :
    ∃ merged, record.merge list = .ok merged := by
  rcases List.eq_nil_or_concat list with rfl | ⟨front, last, rfl⟩
  · exact ⟨[record], rfl⟩
  · rw [List.concat_eq_append] at h ⊢
    rw [merge_append_singleton]
    by_cases hpid : last.pid = record.pid
    · have hlast := h.isSum last (List.mem_append_right front (List.mem_singleton_self last))
      have htotal (figure : Figure) : figure.value sum = Option.merge (· + ·)
          (Option.merge (· + ·) (figure.value last) (figure.value record)) none := by
        rw [hsum, ofPid_append, ofPid_singleton, if_pos rfl, List.map_append, exactSum_append,
          List.map_singleton, exactSum_singleton, ← hpid, hlast, Option.merge_none_right]
      obtain ⟨added, hadded⟩ := exists_accumulate_eq_ok htotal
      rw [if_pos hpid, hadded]
      exact ⟨front ++ [added], rfl⟩
    · rw [if_neg hpid]
      exact ⟨front ++ [last, record], rfl⟩

/-- Records can be merged just when the figures of each process have sums that a record can hold. -/
theorem exists_mergeAll_iff {records : List GpuProcess} (hgrouped : Grouped (records.map pid)) :
    (∃ list, mergeAll records [] = .ok list) ↔
      ∀ pid, ∃ sum : GpuProcess, sum.IsSum (ofPid pid records) := by
  constructor
  · rintro ⟨list, hlist⟩ pid
    have hcollects := collects_of_mergeAll hgrouped hlist
    by_cases hmem : pid ∈ list.map GpuProcess.pid
    · obtain ⟨entry, hentry, rfl⟩ := List.mem_map.mp hmem
      exact ⟨entry, hcollects.isSum entry hentry⟩
    · rw [hcollects.mem_pid] at hmem
      have hsum : GpuProcess.IsSum { pid } [{ pid }] := isSum_singleton.mpr fun _ => rfl
      rw [ofPid_eq_nil hmem]
      exact hsum.exists_of_append (a := [])
  · intro hsums
    induction records using List.reverseRecOn with
    | nil => exact ⟨[], rfl⟩
    | append_singleton records record ih =>
        have hbefore : Grouped (records.map pid) :=
          hgrouped.sublist ((List.sublist_append_left records [record]).map pid)
        -- the sums of fewer records are parts of the sums of all of them
        have hparts (pid : UInt32) : ∃ sum : GpuProcess, sum.IsSum (ofPid pid records) := by
          obtain ⟨sum, hsum⟩ := hsums pid
          rw [ofPid_append] at hsum
          exact hsum.exists_of_append
        obtain ⟨list, hlist⟩ := ih hbefore hparts
        obtain ⟨sum, hsum⟩ := hsums record.pid
        obtain ⟨merged, hmerged⟩ := (collects_of_mergeAll hbefore hlist).exists_merge hsum
        refine ⟨merged, ?_⟩
        rw [mergeAll_append_singleton, hlist]
        exact hmerged

theorem Collects.perm {records others list otherList : List GpuProcess}
    (h : Collects records list) (hothers : Collects others otherList) (hperm : records.Perm others)
    (hbare : ∀ record ∈ records, record.bare = { pid := record.pid }) :
    (list.map untyped).Perm (otherList.map untyped) := by
  have hnodup {processes : List GpuProcess} (hpids : (processes.map pid).Nodup) :
      (processes.map untyped).Nodup := by
    refine List.Nodup.of_map pid ?_
    rw [List.map_map]
    exact hpids
  have hofPid (pid : UInt32) : (ofPid pid records).Perm (ofPid pid others) := hperm.filter _
  have hentryBare {rs ls : List GpuProcess} (hcollects : Collects rs ls)
      (hsame : ∀ record ∈ rs, record.bare = { pid := record.pid }) :
      ∀ entry ∈ ls, entry.bare = { pid := entry.pid } := by
    intro entry hentry
    obtain ⟨record, hrecord, heq⟩ := hcollects.bare entry hentry
    rw [heq, hsame record (List.mem_filter.mp hrecord).1, pid_eq_of_bare_eq heq]
  have hotherBare : ∀ record ∈ others, record.bare = { pid := record.pid } :=
    fun record hrecord => hbare record (hperm.mem_iff.mpr hrecord)
  have hsame {entry other : GpuProcess} (hentry : entry ∈ list) (hother : other ∈ otherList)
      (hpid : entry.pid = other.pid) : entry.untyped = other.untyped := by
    refine untyped_eq_of_isSum (hofPid entry.pid) (h.isSum entry hentry) ?_ ?_
    · rw [hpid]
      exact hothers.isSum other hother
    · rw [hentryBare h hbare entry hentry, hentryBare hothers hotherBare other hother, hpid]
  have hpids (pid : UInt32) :
      pid ∈ list.map GpuProcess.pid ↔ pid ∈ otherList.map GpuProcess.pid := by
    rw [h.mem_pid, hothers.mem_pid, (hperm.map GpuProcess.pid).mem_iff]
  refine (List.perm_ext_iff_of_nodup (hnodup h.nodup) (hnodup hothers.nodup)).mpr ?_
  intro process
  rw [List.mem_map, List.mem_map]
  constructor
  · rintro ⟨entry, hentry, rfl⟩
    obtain ⟨other, hother, hpid⟩ :=
      List.mem_map.mp ((hpids entry.pid).mp (List.mem_map_of_mem hentry))
    exact ⟨other, hother, (hsame hentry hother hpid.symm).symm⟩
  · rintro ⟨other, hother, rfl⟩
    obtain ⟨entry, hentry, hpid⟩ :=
      List.mem_map.mp ((hpids other.pid).mpr (List.mem_map_of_mem hother))
    exact ⟨entry, hentry, hsame hentry hother hpid⟩

/-- Merging records in another order fails only if merging them in the first order does, and makes
the same entries. -/
theorem exists_mergeAll_of_perm {records others list : List GpuProcess} (hperm : records.Perm others)
    (hgrouped : Grouped (records.map pid)) (hothers : Grouped (others.map pid))
    (hbare : ∀ record ∈ records, record.bare = { pid := record.pid })
    (h : mergeAll records [] = .ok list) :
    ∃ otherList, mergeAll others [] = .ok otherList ∧
      (list.map untyped).Perm (otherList.map untyped) := by
  have hsums (pid : UInt32) : ∃ sum : GpuProcess, sum.IsSum (ofPid pid others) := by
    obtain ⟨sum, hsum⟩ := (exists_mergeAll_iff hgrouped).mp ⟨list, h⟩ pid
    exact ⟨sum, hsum.perm (hperm.filter _)⟩
  obtain ⟨otherList, hother⟩ := (exists_mergeAll_iff hothers).mpr hsums
  have hcollects := collects_of_mergeAll hgrouped h
  have hotherCollects := collects_of_mergeAll hothers hother
  exact ⟨otherList, hother, hcollects.perm hotherCollects hperm hbare⟩

end GpuTelemetry.GpuProcess
