import GpuTelemetry.Proofs.Device.Reordering
import GpuTelemetry.Proofs.Procfs.Reordering

/-!
# Cycles over trees listed in another order

A cycle clears the process lists, sweeps a tree and rotates the readers. However
the trees of a run are listed, the devices find the same records after every
cycle and go on from the same readings.
-/

namespace GpuTelemetry

open Procfs

namespace Procfs

structure Surroundings where
  same : SameOpenFile
  root : Root

namespace Surroundings

def visits (surroundings : Surroundings) : List Visit :=
  surroundings.root.visits surroundings.same

/-- Two listings of one tree, under one kernel. -/
structure Reordered (a b : Surroundings) : Prop where
  same : a.same = b.same
  root : a.root.Reordered b.root

/-- Whether all descriptors are read at one time and the order of the listing does not matter. -/
def Uniform (surroundings : Surroundings) : Prop :=
  ∃ now, surroundings.root.Uniform surroundings.same now

/-- The same texts in another order, those of each process together. -/
structure Shuffled (a b : Surroundings) : Prop where
  perm : a.visits.Perm b.visits
  left : Grouped (a.visits.map Visit.pid)
  right : Grouped (b.visits.map Visit.pid)

theorem Shuffled.symm {a b : Surroundings} (h : a.Shuffled b) : b.Shuffled a :=
  ⟨h.perm.symm, h.right, h.left⟩

theorem Reordered.shuffled {a b : Surroundings} (h : a.Reordered b) (huniform : a.Uniform) :
    a.Shuffled b := by
  obtain ⟨now, huniform⟩ := huniform
  refine ⟨?_, grouped_visits a.same huniform.pids,
    grouped_visits b.same (h.root.nodup_pids huniform.pids)⟩
  rw [visits, visits, ← h.same]
  exact h.root.perm_visits huniform

end Surroundings

end Procfs

namespace Device

variable {β : Type}

/-- One cycle: the lists are cleared, the tree is swept, and the readers are rotated. -/
def cycle (surroundings : Surroundings) (devices : List (Device β)) :
    Except Fault (List (Device β)) :=
  (sweep surroundings.same surroundings.root (devices.map clearProcesses)).map
    (List.map rotateFdinfo)

def cycles : List Surroundings → List (Device β) → Except Fault (List (List (Device β)))
  | [], _ => .ok []
  | surroundings :: rest, devices => do
    let devices ← cycle surroundings devices
    let later ← cycles rest devices
    return devices :: later

theorem cycle_of_shuffled {a b : Surroundings} (h : a.Shuffled b)
    {devices others after : List (Device β)} (halike : List.Forall₂ Alike devices others)
    (hcycle : cycle a devices = .ok after) :
    ∃ otherAfter, cycle b others = .ok otherAfter ∧ List.Forall₂ Alike after otherAfter := by
  obtain ⟨swept, hswept, rfl⟩ := Fault.map_eq_ok_iff.mp hcycle
  have hcleared : List.Forall₂ Alike (devices.map clearProcesses) (others.map clearProcesses) := by
    rw [List.forall₂_map_left_iff, List.forall₂_map_right_iff]
    exact halike.imp fun _ _ => Alike.clearProcesses
  have hempty : ∀ device ∈ devices.map clearProcesses, device.processes = [] := by
    intro device hdevice
    obtain ⟨_, -, rfl⟩ := List.mem_map.mp hdevice
    rfl
  rw [sweep_eq_dispatchAll] at hswept
  obtain ⟨otherSwept, hotherSwept, hsweptAlike⟩ :=
    dispatchAll_of_perm hcleared hempty h.perm h.left h.right hswept
  refine ⟨otherSwept.map rotateFdinfo, ?_, ?_⟩
  · rw [cycle, sweep_eq_dispatchAll]
    exact Fault.map_eq_ok_iff.mpr ⟨otherSwept, hotherSwept, rfl⟩
  · rw [List.forall₂_map_left_iff, List.forall₂_map_right_iff]
    exact hsweptAlike.imp fun _ _ => Alike.rotateFdinfo

theorem cycles_of_shuffled {run otherRun : List Surroundings}
    (h : List.Forall₂ Surroundings.Shuffled run otherRun) {devices others : List (Device β)}
    (halike : List.Forall₂ Alike devices others) {states : List (List (Device β))}
    (hrun : cycles run devices = .ok states) :
    ∃ otherStates, cycles otherRun others = .ok otherStates ∧
      List.Forall₂ (List.Forall₂ Alike) states otherStates := by
  induction h generalizing devices others states with
  | nil =>
      cases hrun
      exact ⟨[], rfl, .nil⟩
  | cons hfirst _ ih =>
      obtain ⟨after, hafter, hrest⟩ := Fault.bind_eq_ok_iff.mp hrun
      obtain ⟨later, hlater, hstates⟩ := Fault.bind_eq_ok_iff.mp hrest
      cases hstates
      obtain ⟨otherAfter, hotherAfter, hafterAlike⟩ := cycle_of_shuffled hfirst halike hafter
      obtain ⟨otherLater, hotherLater, hlaterAlike⟩ := ih hafterAlike hlater
      refine ⟨otherAfter :: otherLater, ?_, .cons hafterAlike hlaterAlike⟩
      exact Fault.bind_eq_ok_iff.mpr ⟨otherAfter, hotherAfter,
        Fault.bind_eq_ok_iff.mpr ⟨otherLater, hotherLater, rfl⟩⟩

/-- Two runs over the same trees, however these are listed. One meets a fault just when the other
does, and if they meet none, the devices hold the same records after every cycle, up to the order
and the kinds of these, and remember the same readings of the same clients. -/
theorem cycles_of_reordered {run otherRun : List Surroundings}
    (hreordered : List.Forall₂ Surroundings.Reordered run otherRun)
    (huniform : ∀ surroundings ∈ run, surroundings.Uniform) (devices : List (Device β)) :
    ((∃ states, cycles run devices = .ok states) ↔
      ∃ states, cycles otherRun devices = .ok states) ∧
      ∀ states otherStates, cycles run devices = .ok states →
        cycles otherRun devices = .ok otherStates →
        List.Forall₂ (List.Forall₂ Alike) states otherStates := by
  have hshuffled : List.Forall₂ Surroundings.Shuffled run otherRun := by
    induction hreordered with
    | nil => exact .nil
    | cons hfirst _ ih =>
        constructor
        · exact hfirst.shuffled (huniform _ List.mem_cons_self)
        · exact ih fun surroundings hmem => huniform surroundings (List.mem_cons_of_mem _ hmem)
  have hback : List.Forall₂ Surroundings.Shuffled otherRun run :=
    hshuffled.flip.imp fun _ _ => Surroundings.Shuffled.symm
  have halike : List.Forall₂ Alike devices devices := List.forall₂_same.mpr fun device _ => .refl device
  refine ⟨⟨?_, ?_⟩, ?_⟩
  · rintro ⟨states, hstates⟩
    obtain ⟨otherStates, hother, -⟩ := cycles_of_shuffled hshuffled halike hstates
    exact ⟨otherStates, hother⟩
  · rintro ⟨states, hstates⟩
    obtain ⟨otherStates, hother, -⟩ := cycles_of_shuffled hback halike hstates
    exact ⟨otherStates, hother⟩
  · intro states otherStates hstates hother
    obtain ⟨found, hfound, hfoundAlike⟩ := cycles_of_shuffled hshuffled halike hstates
    cases hfound.symm.trans hother
    exact hfoundAlike

/-- Two processes, the first of which has three descriptors of two open files. -/
theorem cycles_of_reversed_listing :
    let bytes (text : String) : List UInt8 := text.toList.map fun c => UInt8.ofNat c.toNat
    let descriptor (name text : String) : Descriptor :=
      { name, file := .characterDevice 0xe200, contents := some (bytes text), readAt := 0 }
    let first := [descriptor "3" "pdev:a\ndrm-client-id:1\ndrm-engine-gfx:2 ns",
      descriptor "4" "pdev:a\ndrm-client-id:1\ndrm-engine-gfx:2 ns",
      descriptor "5" "pdev:a\ndrm-memory-vram:2 KiB"]
    let second := [descriptor "3" "pdev:a\ndrm-client-id:2\ngfx0:7%"]
    let same : SameOpenFile := fun _ number other => (number = 5) = (other = 5)
    let root (entries : List Entry) : Root := { path := "/proc", listing := .ok entries }
    let listed := root [{ name := "7", fdinfo := some first }, { name := "9", fdinfo := some second }]
    let reversed :=
      root [{ name := "9", fdinfo := some second }, { name := "7", fdinfo := some first.reverse }]
    let devices : List (Device Unit) :=
      [{ vendor := 0, fdinfo := some { address := ['a'] }, backend := () }]
    ∃ states otherStates, cycles [⟨same, listed⟩, ⟨same, listed⟩] devices = .ok states ∧
      cycles [⟨same, reversed⟩, ⟨same, reversed⟩] devices = .ok otherStates ∧
      List.Forall₂ (List.Forall₂ Alike) states otherStates := by
  intro bytes descriptor first second same root listed reversed devices
  have hreordered : Surroundings.Reordered ⟨same, listed⟩ ⟨same, reversed⟩ := by
    refine ⟨rfl, .listed rfl rfl (List.Perm.swap _ _ []) ?_⟩
    exact .cons ⟨rfl, rfl, .some (.refl second)⟩
      (.cons ⟨rfl, rfl, .some (List.reverse_perm first).symm⟩ .nil)
  have hfirst : Uniform same 0 7 first := by
    constructor <;> decide +kernel
  have hsecond : Uniform same 0 9 second := by
    constructor <;> decide +kernel
  have huniform : listed.Uniform same 0 := by
    refine ⟨by decide +kernel, ?_⟩
    intro entry hentry pid descriptors hpid hfdinfo
    rcases List.mem_cons.mp hentry with rfl | hentry
    · have hseven : Entry.pid? { name := "7", fdinfo := some first } = some 7 := by decide +kernel
      cases hseven.symm.trans hpid
      cases hfdinfo
      exact hfirst
    · cases List.mem_singleton.mp hentry
      have hnine : Entry.pid? { name := "9", fdinfo := some second } = some 9 := by decide +kernel
      cases hnine.symm.trans hpid
      cases hfdinfo
      exact hsecond
  have huniformRun : ∀ surroundings ∈ [⟨same, listed⟩, ⟨same, listed⟩],
      Surroundings.Uniform surroundings := by
    intro surroundings hsurroundings
    refine ⟨0, ?_⟩
    rcases List.mem_cons.mp hsurroundings with rfl | hsurroundings
    · exact huniform
    · cases List.mem_singleton.mp hsurroundings
      exact huniform
  obtain ⟨hfaults, halike⟩ :=
    cycles_of_reordered (.cons hreordered (.cons hreordered .nil)) huniformRun devices
  obtain ⟨states, hstates⟩ : ∃ states, cycles [⟨same, listed⟩, ⟨same, listed⟩] devices = .ok states :=
    Fault.exists_of_isOk (by decide +kernel)
  obtain ⟨otherStates, hother⟩ := hfaults.mp ⟨states, hstates⟩
  exact ⟨states, otherStates, hstates, hother, halike states otherStates hstates hother⟩

end Device

end GpuTelemetry
