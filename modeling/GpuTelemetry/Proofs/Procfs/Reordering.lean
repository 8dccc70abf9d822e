import GpuTelemetry.Proofs.Procfs.Contents
import Mathlib.Data.List.Forall2
import Mathlib.Data.List.Perm.Basic

/-!
# Trees listed in another order

The order in which a directory is listed decides which descriptor of an open file
comes first and is its representative. Where the descriptors of one open file
have the same text, this makes no difference to the texts that are visited.
-/

namespace GpuTelemetry.Procfs

/-- Whether two descriptors of a process are one open file of the graphics driver. -/
def Descriptor.SameFile (same : SameOpenFile) (pid : UInt32) (a b : Descriptor) : Prop :=
  ∃ number other, a.drmNumber? = some number ∧ b.drmNumber? = some other ∧
    same pid number other = true

instance (same : SameOpenFile) (pid : UInt32) (a b : Descriptor) :
    Decidable (a.SameFile same pid b) :=
  decidable_of_iff
    (((a.drmNumber?.bind fun number => b.drmNumber?.map (same pid number)).getD false) = true) <| by
      cases ha : a.drmNumber? <;> cases hb : b.drmNumber? <;> simp [Descriptor.SameFile, ha, hb]

theorem isRepresentative_iff {same : SameOpenFile} {pid : UInt32} {earlier : List Descriptor}
    {descriptor : Descriptor} :
    isRepresentative same pid earlier descriptor = true ↔
      descriptor.drmNumber?.isSome = true ∧
        ∀ other ∈ earlier, ¬descriptor.SameFile same pid other := by
  cases hnumber : descriptor.drmNumber? with
  | none => simp [isRepresentative, hnumber]
  | some number =>
      simp only [isRepresentative, hnumber, Bool.not_eq_true', Option.isSome_some, true_and,
        List.any_eq_false, List.mem_filterMap]
      constructor
      · rintro h other hother ⟨_, otherNumber, hself, hotherNumber, hsame⟩
        cases hnumber.symm.trans hself
        exact h otherNumber ⟨other, hother, hotherNumber⟩ hsame
      · rintro h otherNumber ⟨other, hother, hotherNumber⟩ hsame
        exact h other hother ⟨number, otherNumber, hnumber, hotherNumber, hsame⟩

/-- A choice of one descriptor for each open file of the graphics driver. -/
structure Represents (same : SameOpenFile) (pid : UInt32) (descriptors chosen : List Descriptor) :
    Prop where
  subset : ∀ descriptor ∈ chosen, descriptor ∈ descriptors
  isDrm : ∀ descriptor ∈ chosen, descriptor.drmNumber?.isSome = true
  different : chosen.Pairwise fun earlier later => ¬later.SameFile same pid earlier
  covers : ∀ descriptor ∈ descriptors, descriptor.drmNumber?.isSome = true →
    ∃ other ∈ chosen, descriptor.SameFile same pid other

/-- What a listing of a directory of descriptors has to be like for its order not to matter. -/
structure Uniform (same : SameOpenFile) (now : Nat) (pid : UInt32) (descriptors : List Descriptor) :
    Prop where
  refl : ∀ a ∈ descriptors, a.drmNumber?.isSome = true → a.SameFile same pid a
  symm : ∀ a ∈ descriptors, ∀ b ∈ descriptors, a.SameFile same pid b → b.SameFile same pid a
  trans : ∀ a ∈ descriptors, ∀ b ∈ descriptors, ∀ c ∈ descriptors,
    a.SameFile same pid b → b.SameFile same pid c → a.SameFile same pid c
  text : ∀ a ∈ descriptors, ∀ b ∈ descriptors, a.SameFile same pid b → a.text? = b.text?
  readAt : ∀ a ∈ descriptors, a.readAt = now

theorem Uniform.perm {same : SameOpenFile} {now : Nat} {pid : UInt32}
    {descriptors others : List Descriptor} (h : Uniform same now pid descriptors)
    (hperm : descriptors.Perm others) : Uniform same now pid others := by
  obtain ⟨hrefl, hsymm, htrans, htext, hreadAt⟩ := h
  simp only [hperm.mem_iff] at hrefl hsymm htrans htext hreadAt
  exact ⟨hrefl, hsymm, htrans, htext, hreadAt⟩

/-- A descriptor of another open file is chosen as well. -/
theorem Represents.push {same : SameOpenFile} {pid : UInt32} {descriptors chosen : List Descriptor}
    (h : Represents same pid descriptors chosen) {descriptor : Descriptor}
    (hdrm : descriptor.drmNumber?.isSome = true) (hself : descriptor.SameFile same pid descriptor)
    (hdifferent : ∀ other ∈ chosen, ¬descriptor.SameFile same pid other) :
    Represents same pid (descriptors ++ [descriptor]) (chosen ++ [descriptor]) := by
  have hlast : descriptor ∈ chosen ++ [descriptor] :=
    List.mem_append_right chosen (List.mem_singleton_self descriptor)
  refine ⟨?_, ?_, ?_, ?_⟩
  · intro a ha
    rcases List.mem_append.mp ha with ha | ha
    · exact List.mem_append_left _ (h.subset a ha)
    · exact List.mem_append_right _ ha
  · intro a ha
    rcases List.mem_append.mp ha with ha | ha
    · exact h.isDrm a ha
    · rw [List.mem_singleton.mp ha]
      exact hdrm
  · refine List.pairwise_append.mpr ⟨h.different, List.pairwise_singleton _ _, ?_⟩
    intro a ha b hb
    rw [List.mem_singleton.mp hb]
    exact hdifferent a ha
  · intro a ha hadrm
    rcases List.mem_append.mp ha with ha | ha
    · obtain ⟨other, hother, hsame⟩ := h.covers a ha hadrm
      exact ⟨other, List.mem_append_left _ hother, hsame⟩
    · rw [List.mem_singleton.mp ha]
      exact ⟨descriptor, hlast, hself⟩

/-- Any other descriptor has its representative already. -/
theorem Represents.skip {same : SameOpenFile} {pid : UInt32} {descriptors chosen : List Descriptor}
    (h : Represents same pid descriptors chosen) {descriptor : Descriptor}
    (hknown : descriptor.drmNumber?.isSome = true →
      ∃ other ∈ chosen, descriptor.SameFile same pid other) :
    Represents same pid (descriptors ++ [descriptor]) chosen := by
  refine ⟨fun a ha => List.mem_append_left _ (h.subset a ha), h.isDrm, h.different, ?_⟩
  intro a ha
  rcases List.mem_append.mp ha with ha | ha
  · exact h.covers a ha
  · rw [List.mem_singleton.mp ha]
    exact hknown

theorem represents_representatives {same : SameOpenFile} {pid : UInt32}
    {descriptors : List Descriptor}
    (hrefl : ∀ a ∈ descriptors, a.drmNumber?.isSome = true → a.SameFile same pid a) :
    Represents same pid descriptors (representatives same pid descriptors) := by
  induction descriptors using List.reverseRecOn with
  | nil => exact ⟨by simp [representatives], by simp [representatives], .nil, by simp⟩
  | append_singleton descriptors descriptor ih =>
      have h := ih fun a ha => hrefl a (List.mem_append_left _ ha)
      rw [representatives_append_singleton, addRepresentative]
      split
      next hnew =>
        obtain ⟨hdrm, hdifferent⟩ := isRepresentative_iff.mp hnew
        exact h.push hdrm (hrefl descriptor (by simp) hdrm) hdifferent
      next hold =>
        apply h.skip
        intro hdrm
        rw [isRepresentative_iff] at hold
        by_contra hnone
        apply hold
        refine ⟨hdrm, ?_⟩
        intro other hother hsame
        exact hnone ⟨other, hother, hsame⟩

section

variable {same : SameOpenFile} {now : Nat} {pid : UInt32} {descriptors : List Descriptor}
  {chosen others : List Descriptor}

theorem Represents.eq_of_sameFile (huniform : Uniform same now pid descriptors)
    (h : Represents same pid descriptors chosen) {a b : Descriptor} (ha : a ∈ chosen)
    (hb : b ∈ chosen) (hsame : a.SameFile same pid b) : a = b := by
  let Equal (a b : Descriptor) : Prop := a.SameFile same pid b → a = b
  have hforward : chosen.Pairwise Equal := by
    apply h.different.imp_of_mem
    intro a b ha hb hdifferent hab
    exact (hdifferent (huniform.symm a (h.subset a ha) b (h.subset b hb) hab)).elim
  have hbackward : chosen.Pairwise (flip Equal) :=
    h.different.imp fun hdifferent hba => (hdifferent hba).elim
  exact hforward.forall_of_forall_of_flip (fun _ _ _ => rfl) hbackward ha hb hsame

theorem Represents.nodup (huniform : Uniform same now pid descriptors)
    (h : Represents same pid descriptors chosen) : chosen.Nodup := by
  apply h.different.imp_of_mem
  rintro a b ha - hdifferent rfl
  exact hdifferent (huniform.refl a (h.subset a ha) (h.isDrm a ha))

theorem Uniform.visit?_eq (h : Uniform same now pid descriptors) {a b : Descriptor}
    (ha : a ∈ descriptors) (hb : b ∈ descriptors) (hsame : a.SameFile same pid b) :
    a.visit? pid = b.visit? pid := by
  rw [Descriptor.visit?, Descriptor.visit?, h.text a ha b hb hsame, h.readAt a ha, h.readAt b hb]

/-- Two choices lead to the same texts. -/
theorem Represents.perm_visits (huniform : Uniform same now pid descriptors)
    (h : Represents same pid descriptors chosen) (hothers : Represents same pid descriptors others) :
    (chosen.filterMap (Descriptor.visit? pid)).Perm (others.filterMap (Descriptor.visit? pid)) := by
  have hcounterpart (a : Descriptor) (ha : a ∈ chosen) : ∃ b ∈ others, a.SameFile same pid b :=
    hothers.covers a (h.subset a ha) (h.isDrm a ha)
  choose! counterpart hmem hsame using hcounterpart
  -- the counterparts have the same texts, and each of the others is one just once
  have hvisits : chosen.filterMap (Descriptor.visit? pid) =
      (chosen.map counterpart).filterMap (Descriptor.visit? pid) := by
    rw [List.filterMap_map]
    apply List.filterMap_congr
    intro a ha
    exact huniform.visit?_eq (h.subset a ha) (hothers.subset _ (hmem a ha)) (hsame a ha)
  have hnodup : (chosen.map counterpart).Nodup := by
    apply (h.nodup huniform).map_on
    intro a ha b hb heq
    have hac := h.subset a ha
    have hbc := h.subset b hb
    have hcc := hothers.subset _ (hmem b hb)
    apply h.eq_of_sameFile huniform ha hb
    apply huniform.trans a hac _ hcc b hbc
    · rw [← heq]
      exact hsame a ha
    · exact huniform.symm b hbc _ hcc (hsame b hb)
  rw [hvisits]
  apply List.Perm.filterMap
  apply (List.perm_ext_iff_of_nodup hnodup (hothers.nodup huniform)).mpr
  intro b
  rw [List.mem_map]
  constructor
  · rintro ⟨a, ha, rfl⟩
    exact hmem a ha
  · intro hb
    have hbc := hothers.subset b hb
    obtain ⟨a, ha, hba⟩ := h.covers b hbc (hothers.isDrm b hb)
    have hac := h.subset a ha
    refine ⟨a, ha, ?_⟩
    apply hothers.eq_of_sameFile huniform (hmem a ha) hb
    apply huniform.trans _ (hothers.subset _ (hmem a ha)) a hac b hbc
    · exact huniform.symm a hac _ (hothers.subset _ (hmem a ha)) (hsame a ha)
    · exact huniform.symm b hbc a hac hba

end

theorem perm_visits_of_perm {same : SameOpenFile} {now : Nat} {pid : UInt32}
    {descriptors others : List Descriptor} (huniform : Uniform same now pid descriptors)
    (hperm : descriptors.Perm others) :
    ((representatives same pid descriptors).filterMap (Descriptor.visit? pid)).Perm
      ((representatives same pid others).filterMap (Descriptor.visit? pid)) := by
  have hothers := represents_representatives (huniform.perm hperm).refl
  have hmoved : Represents same pid descriptors (representatives same pid others) := by
    obtain ⟨hsubset, hdrm, hdifferent, hcovers⟩ := hothers
    simp only [← hperm.mem_iff] at hsubset hcovers
    exact ⟨hsubset, hdrm, hdifferent, hcovers⟩
  exact (represents_representatives huniform.refl).perm_visits huniform hmoved

structure Entry.Reordered (a b : Entry) : Prop where
  name : a.name = b.name
  isDirectory : a.isDirectory = b.isDirectory
  fdinfo : Option.Rel List.Perm a.fdinfo b.fdinfo

/-- Two listings of one tree: the directories of the processes stand in another order, and so do the
entries in each of them. -/
inductive Root.Reordered (a b : Root) : Prop
  | listed {entries middle others : List Entry} (left : a.listing = .ok entries)
      (right : b.listing = .ok others) (processes : entries.Perm middle)
      (descriptors : List.Forall₂ Entry.Reordered middle others)
  | unlisted {reason : String} (left : a.listing = .error reason)
      (right : b.listing = .error reason)

/-- A tree whose listing order does not matter: its processes are different, and the descriptors of
each of them form open files with one text. -/
structure Root.Uniform (same : SameOpenFile) (now : Nat) (root : Root) : Prop where
  pids : (root.entries.filterMap Entry.pid?).Nodup
  descriptors : ∀ entry ∈ root.entries, ∀ pid descriptors, entry.pid? = some pid →
    entry.fdinfo = some descriptors → Procfs.Uniform same now pid descriptors

theorem Entry.Reordered.pid?_eq {a b : Entry} (h : a.Reordered b) : a.pid? = b.pid? := by
  rw [Entry.pid?, Entry.pid?, h.name, h.isDirectory]

theorem Entry.Reordered.perm_visits {same : SameOpenFile} {now : Nat} {a b : Entry}
    (h : a.Reordered b)
    (huniform : ∀ pid descriptors, a.pid? = some pid → a.fdinfo = some descriptors →
      Procfs.Uniform same now pid descriptors) :
    (a.visits same).Perm (b.visits same) := by
  have hfdinfo := h.fdinfo
  rw [Entry.visits, Entry.visits, ← h.pid?_eq]
  cases hpid : a.pid? with
  | none => exact .refl _
  | some pid =>
      cases hdescriptors : a.fdinfo with
      | none =>
          rw [hdescriptors] at hfdinfo
          generalize b.fdinfo = others at hfdinfo
          cases hfdinfo
          exact .refl _
      | some descriptors =>
          rw [hdescriptors] at hfdinfo
          generalize b.fdinfo = others at hfdinfo
          cases hfdinfo with
          | some hperm => exact perm_visits_of_perm (huniform pid descriptors hpid hdescriptors) hperm

theorem Root.Reordered.entries {a b : Root} (h : a.Reordered b) :
    ∃ middle, a.entries.Perm middle ∧ List.Forall₂ Entry.Reordered middle b.entries := by
  cases h with
  | listed left right processes descriptors =>
      simp only [Root.entries, left, right]
      exact ⟨_, processes, descriptors⟩
  | unlisted left right =>
      simp only [Root.entries, left, right]
      exact ⟨[], .refl [], .nil⟩

theorem pids_eq_of_reordered {entries others : List Entry}
    (h : List.Forall₂ Entry.Reordered entries others) :
    entries.filterMap Entry.pid? = others.filterMap Entry.pid? := by
  induction h with
  | nil => rfl
  | cons hentry _ ih => simp only [List.filterMap_cons, hentry.pid?_eq, ih]

theorem perm_visits_of_reordered {same : SameOpenFile} {now : Nat} {entries others : List Entry}
    (h : List.Forall₂ Entry.Reordered entries others)
    (huniform : ∀ entry ∈ entries, ∀ pid descriptors, entry.pid? = some pid →
      entry.fdinfo = some descriptors → Procfs.Uniform same now pid descriptors) :
    (entries.flatMap (Entry.visits same)).Perm (others.flatMap (Entry.visits same)) := by
  induction h with
  | nil => exact .refl _
  | @cons entry other entries others hentry _ ih =>
      rw [List.flatMap_cons, List.flatMap_cons]
      apply List.Perm.append
      · exact hentry.perm_visits (huniform entry List.mem_cons_self)
      · exact ih fun next hnext => huniform next (List.mem_cons_of_mem entry hnext)

theorem Root.Reordered.nodup_pids {a b : Root} (h : a.Reordered b)
    (hpids : (a.entries.filterMap Entry.pid?).Nodup) :
    (b.entries.filterMap Entry.pid?).Nodup := by
  obtain ⟨middle, hperm, hentries⟩ := h.entries
  rw [← pids_eq_of_reordered hentries]
  exact (hperm.filterMap _).nodup_iff.mp hpids

theorem Root.Reordered.perm_visits {same : SameOpenFile} {now : Nat} {a b : Root}
    (h : a.Reordered b) (huniform : a.Uniform same now) :
    (a.visits same).Perm (b.visits same) := by
  obtain ⟨middle, hperm, hentries⟩ := h.entries
  apply (hperm.flatMap_right (Entry.visits same)).trans
  apply perm_visits_of_reordered hentries
  intro entry hentry
  exact huniform.descriptors entry (hperm.mem_iff.mpr hentry)

end GpuTelemetry.Procfs
