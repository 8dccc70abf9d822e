import GpuTelemetry.Proofs.Device.Shares
import Mathlib.Data.List.Forall2

/-!
# The same tree, read later

A tree that is walked again has the same descriptors and texts, and only the
times at which they are read are new. The walk makes the same visits in the same
order, and so does the share of every device.
-/

namespace GpuTelemetry

namespace Procfs

def Descriptor.untimed (descriptor : Descriptor) : Descriptor :=
  { descriptor with readAt := 0 }

def Entry.untimed (entry : Entry) : Entry :=
  { entry with fdinfo := entry.fdinfo.map (List.map Descriptor.untimed) }

/-- A tree without the times at which its texts are read. -/
def Root.untimed (root : Root) : Root :=
  { root with listing := root.listing.map (List.map Entry.untimed) }

def Visit.untimed (visit : Visit) : Visit :=
  { visit with now := 0 }

/-- The same text of the same process at a later time. -/
structure Visit.Later (visit later : Visit) : Prop where
  pid : later.pid = visit.pid
  text : later.text = visit.text
  now : visit.now < later.now

variable (same : SameOpenFile)

theorem representatives_untimed (pid : UInt32) (descriptors : List Descriptor) :
    representatives same pid (descriptors.map Descriptor.untimed) =
      (representatives same pid descriptors).map Descriptor.untimed := by
  induction descriptors using List.reverseRecOn with
  | nil => rfl
  | append_singleton descriptors descriptor ih =>
      have hsame (earlier : List Descriptor) :
          isRepresentative same pid (earlier.map Descriptor.untimed) descriptor.untimed =
            isRepresentative same pid earlier descriptor := by
        rw [isRepresentative, isRepresentative, List.filterMap_map]
        rfl
      rw [List.map_append, List.map_singleton, representatives_append_singleton,
        representatives_append_singleton, ih, addRepresentative, addRepresentative, hsame]
      split
      · rw [List.map_append, List.map_singleton]
      · rfl

theorem Entry.visits_untimed (entry : Entry) :
    entry.untimed.visits same = (entry.visits same).map Visit.untimed := by
  have hpid : entry.untimed.pid? = entry.pid? := rfl
  rw [visits, visits, hpid]
  cases entry.pid? with
  | none => rfl
  | some pid =>
      cases hfdinfo : entry.fdinfo with
      | none => simp [untimed, hfdinfo]
      | some descriptors =>
          have huntimed : entry.untimed.fdinfo = some (descriptors.map Descriptor.untimed) := by
            simp [untimed, hfdinfo]
          simp only [huntimed, representatives_untimed, List.filterMap_map, List.map_filterMap]
          apply List.filterMap_congr
          intro descriptor _
          simp only [Function.comp_apply, Descriptor.visit?, Option.map_map]
          rfl

theorem Root.visits_untimed (root : Root) :
    root.untimed.visits same = (root.visits same).map Visit.untimed := by
  have hentries : root.untimed.entries = root.entries.map Entry.untimed := by
    rw [entries, entries, untimed]
    cases root.listing <;> rfl
  rw [visits, visits, hentries, List.flatMap_map, List.map_flatMap]
  congr 1
  funext entry
  exact Entry.visits_untimed same entry

variable {visits others : List Visit}

theorem forall₂_later (huntimed : others.map Visit.untimed = visits.map Visit.untimed)
    (hlater : List.Forall₂ (fun visit later => visit.now < later.now) visits others) :
    List.Forall₂ Visit.Later visits others := by
  induction hlater with
  | nil => exact .nil
  | @cons visit later visits others hnow _ ih =>
      rw [List.map_cons, List.map_cons, List.cons.injEq] at huntimed
      obtain ⟨hvisit, hrest⟩ := huntimed
      simp only [Visit.untimed, Visit.mk.injEq, and_true] at hvisit
      exact .cons ⟨hvisit.1, hvisit.2, hnow⟩ (ih hrest)

end Procfs

namespace Device

open Procfs

variable {β : Type}

/-- Times have no part in which visits belong to a device. -/
theorem share_map_untimed (devices : List (Device β)) (visits : List Visit) (index : Nat) :
    share devices (visits.map Visit.untimed) index =
      (share devices visits index).map Visit.untimed := by
  rw [share, share, List.filter_map]
  rfl

end Device

end GpuTelemetry
