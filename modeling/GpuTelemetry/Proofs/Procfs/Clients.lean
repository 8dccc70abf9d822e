import GpuTelemetry.Proofs.Device.Reordering
import GpuTelemetry.Proofs.Procfs.Reordering

/-!
# Clients in a tree

The descriptors of a process that show one client to a device are one open file,
as long as the kernel can tell. Then no client is visited twice: among the
representatives of a process each client has one descriptor at most, and
different processes have different clients.
-/

namespace GpuTelemetry.Procfs

/-- The client that a descriptor shows to the device at an address, if that accepts its text. -/
def Descriptor.clientAt? (address : List Char) (descriptor : Descriptor) : Option UInt64 :=
  descriptor.text?.bind fun text =>
    if Fdinfo.isAbout address (Fdinfo.entries text) then
      Fdinfo.clientId? (Fdinfo.entries text)
    else none

/-- The descriptors of the graphics driver that show one client to a device are one open file. -/
def OneFilePerClient (same : SameOpenFile) (pid : UInt32) (address : List Char)
    (descriptors : List Descriptor) : Prop :=
  descriptors.Pairwise fun earlier later =>
    earlier.drmNumber?.isSome = true → later.drmNumber?.isSome = true →
      (earlier.clientAt? address).isSome = true →
        later.clientAt? address = earlier.clientAt? address → later.SameFile same pid earlier

/-- No process is listed twice, and all descriptors of a client are one open file. -/
structure Root.Separates (same : SameOpenFile) (addresses : List (List Char)) (root : Root) :
    Prop where
  pids : (root.entries.filterMap Entry.pid?).Nodup
  clients : ∀ entry ∈ root.entries, ∀ pid descriptors, entry.pid? = some pid →
    entry.fdinfo = some descriptors → ∀ address ∈ addresses,
      OneFilePerClient same pid address descriptors

/-- The visits that the device at an address accepts. -/
def about (address : List Char) (visits : List Visit) : List Visit :=
  visits.filter fun visit => Fdinfo.isAbout address (Fdinfo.entries visit.text)

theorem sublist_representatives (same : SameOpenFile) (pid : UInt32)
    (descriptors : List Descriptor) :
    (representatives same pid descriptors).Sublist descriptors := by
  induction descriptors using List.reverseRecOn with
  | nil => exact .refl []
  | append_singleton descriptors descriptor ih =>
      rw [representatives_append_singleton, addRepresentative]
      split
      · exact ih.append (.refl [descriptor])
      · exact ih.trans (List.sublist_append_left _ _)

theorem isDrm_of_mem_representatives {same : SameOpenFile} {pid : UInt32}
    {descriptors : List Descriptor} :
    ∀ descriptor ∈ representatives same pid descriptors, descriptor.drmNumber?.isSome = true := by
  induction descriptors using List.reverseRecOn with
  | nil =>
      intro descriptor hmem
      cases hmem
  | append_singleton descriptors last ih =>
      rw [representatives_append_singleton, addRepresentative]
      split
      next hnew =>
        intro descriptor hmem
        rcases List.mem_append.mp hmem with hmem | hmem
        · exact ih descriptor hmem
        · rw [List.mem_singleton.mp hmem]
          exact (isRepresentative_iff.mp hnew).1
      next => exact ih

theorem pairwise_representatives (same : SameOpenFile) (pid : UInt32)
    (descriptors : List Descriptor) :
    (representatives same pid descriptors).Pairwise fun earlier later =>
      ¬later.SameFile same pid earlier := by
  induction descriptors using List.reverseRecOn with
  | nil => exact .nil
  | append_singleton descriptors last ih =>
      rw [representatives_append_singleton, addRepresentative]
      split
      next hnew =>
        refine List.pairwise_append.mpr ⟨ih, List.pairwise_singleton _ _, ?_⟩
        intro earlier hearlier later hlater
        rw [List.mem_singleton.mp hlater]
        exact (isRepresentative_iff.mp hnew).2 earlier hearlier
      next => exact ih

variable {same : SameOpenFile} {address : List Char}

/-- The client of a visit to a descriptor is the one that the descriptor shows. -/
theorem clientKeys_about_filterMap (pid : UInt32) (descriptors : List Descriptor) :
    clientKeys (about address (descriptors.filterMap (Descriptor.visit? pid))) =
      descriptors.filterMap fun descriptor =>
        (descriptor.clientAt? address).map fun clientId => { clientId, pid } := by
  induction descriptors with
  | nil => rfl
  | cons descriptor descriptors ih =>
      cases htext : descriptor.text? with
      | none =>
          have hvisit : descriptor.visit? pid = none := by
            rw [Descriptor.visit?, htext, Option.map_none]
          have hclient : descriptor.clientAt? address = none := by
            rw [Descriptor.clientAt?, htext, Option.bind_none]
          rw [List.filterMap_cons_none hvisit, ih, List.filterMap_cons, hclient]
          rfl
      | some text =>
          have hvisit : descriptor.visit? pid = some ⟨pid, text, descriptor.readAt⟩ := by
            rw [Descriptor.visit?, htext, Option.map_some]
          rw [List.filterMap_cons_some hvisit, about, List.filter_cons, ← about, List.filterMap_cons,
            ← ih, Descriptor.clientAt?, htext, Option.bind_some]
          by_cases habout : Fdinfo.isAbout address (Fdinfo.entries text) = true
          · rw [if_pos habout, if_pos habout, clientKeys, List.filterMap_cons, ← clientKeys]
            rfl
          · rw [if_neg habout, if_neg habout]
            rfl

/-- Two representatives that show one client would be one open file. -/
theorem nodup_clientKeys_representatives {pid : UInt32} {descriptors : List Descriptor}
    (h : OneFilePerClient same pid address descriptors) :
    (clientKeys (about address
      ((representatives same pid descriptors).filterMap (Descriptor.visit? pid)))).Nodup := by
  rw [clientKeys_about_filterMap, List.Nodup, List.pairwise_filterMap]
  have hclients := List.Pairwise.sublist (sublist_representatives same pid descriptors) h
  refine (hclients.and (pairwise_representatives same pid descriptors)).imp_of_mem ?_
  rintro earlier later hearlier hlater ⟨hfile, hdifferent⟩ key hkey other hother rfl
  obtain ⟨id, hid, rfl⟩ := Option.map_eq_some_iff.mp hkey
  obtain ⟨otherId, hotherId, hsame⟩ := Option.map_eq_some_iff.mp hother
  cases hsame
  have hsome : (earlier.clientAt? address).isSome = true := by rw [hid, Option.isSome_some]
  exact hdifferent (hfile (isDrm_of_mem_representatives earlier hearlier)
    (isDrm_of_mem_representatives later hlater) hsome (hotherId.trans hid.symm))

theorem pid_of_mem_clientKeys {entry : Entry} {key : ClientKey}
    (h : key ∈ clientKeys (about address (entry.visits same))) : entry.pid? = some key.pid := by
  obtain ⟨visit, hvisit, hkey⟩ := List.mem_filterMap.mp h
  obtain ⟨id, -, rfl⟩ := Option.map_eq_some_iff.mp hkey
  exact pid?_of_mem_visits (List.mem_filter.mp hvisit).1

theorem nodup_clientKeys_entries {entries : List Entry}
    (hpids : (entries.filterMap Entry.pid?).Nodup)
    (hclients : ∀ entry ∈ entries, ∀ pid descriptors, entry.pid? = some pid →
      entry.fdinfo = some descriptors → OneFilePerClient same pid address descriptors) :
    (clientKeys (about address (entries.flatMap (Entry.visits same)))).Nodup := by
  induction entries with
  | nil => exact List.nodup_nil
  | cons entry entries ih =>
      have hothers : (clientKeys (about address (entries.flatMap (Entry.visits same)))).Nodup := by
        apply ih
        · exact hpids.sublist ((List.sublist_cons_self entry entries).filterMap _)
        · exact fun other hother => hclients other (List.mem_cons_of_mem entry hother)
      have hentry : (clientKeys (about address (entry.visits same))).Nodup := by
        rw [Entry.visits]
        split
        next pid descriptors hpid hfdinfo =>
          exact nodup_clientKeys_representatives
            (hclients entry List.mem_cons_self pid descriptors hpid hfdinfo)
        next => exact List.nodup_nil
      rw [List.flatMap_cons, about, List.filter_append, clientKeys, List.filterMap_append]
      refine List.nodup_append.mpr ⟨hentry, hothers, ?_⟩
      rintro key hkey _ hother rfl
      -- the key tells the process, which is listed only once
      have hpid := pid_of_mem_clientKeys hkey
      rw [List.filterMap_cons_some hpid, List.nodup_cons] at hpids
      obtain ⟨visit, hvisit, hsame⟩ := List.mem_filterMap.mp hother
      obtain ⟨id, -, rfl⟩ := Option.map_eq_some_iff.mp hsame
      obtain ⟨found, hfound, hvisits⟩ := List.mem_flatMap.mp (List.mem_filter.mp hvisit).1
      exact hpids.1 (List.mem_filterMap.mpr ⟨found, hfound, pid?_of_mem_visits hvisits⟩)

/-- No client is visited twice in one sweep. -/
theorem Root.Separates.nodup_clientKeys {root : Root} {addresses : List (List Char)}
    (h : root.Separates same addresses) (haddress : address ∈ addresses) :
    (clientKeys (about address (root.visits same))).Nodup := by
  apply nodup_clientKeys_entries h.pids
  intro entry hentry pid descriptors hpid hfdinfo
  exact h.clients entry hentry pid descriptors hpid hfdinfo address haddress

end GpuTelemetry.Procfs
