import GpuTelemetry.Procfs.Sweep
import GpuTelemetry.Proofs.Fdinfo.Reading
import GpuTelemetry.Proofs.Process.Merging

/-!
# What a sweep visits

A sweep is the same as offering a list of texts to the devices one after the
other: those of the readable representatives of every process. A text ends up
with the first device that accepts it, and each device deals with its texts on
its own, so a sweep of many devices falls apart into one run for each of them.
-/

namespace GpuTelemetry

namespace Procfs

/-- A text that a sweep offers to the devices. -/
structure Visit where
  pid : UInt32
  text : List Char
  now : Nat
deriving DecidableEq

/-- Whether a descriptor stands for an open file of the graphics driver that none of the earlier
representatives stands for. -/
def isRepresentative (same : SameOpenFile) (pid : UInt32) (earlier : List Descriptor)
    (descriptor : Descriptor) : Bool :=
  match descriptor.drmNumber? with
  | none => false
  | some number =>
    !(earlier.filterMap Descriptor.drmNumber?).any fun other => same pid number other

def addRepresentative (same : SameOpenFile) (pid : UInt32) (earlier : List Descriptor)
    (descriptor : Descriptor) : List Descriptor :=
  if isRepresentative same pid earlier descriptor then earlier ++ [descriptor] else earlier

def representatives (same : SameOpenFile) (pid : UInt32) (descriptors : List Descriptor) :
    List Descriptor :=
  descriptors.foldl (addRepresentative same pid) []

theorem representatives_append_singleton (same : SameOpenFile) (pid : UInt32)
    (descriptors : List Descriptor) (descriptor : Descriptor) :
    representatives same pid (descriptors ++ [descriptor]) =
      addRepresentative same pid (representatives same pid descriptors) descriptor := by
  rw [representatives, representatives, List.foldl_append, List.foldl_cons, List.foldl_nil]

def Descriptor.visit? (pid : UInt32) (descriptor : Descriptor) : Option Visit :=
  descriptor.text?.map fun text => { pid, text, now := descriptor.readAt }

/-- The texts of the readable representatives of one directory. -/
def Entry.visits (same : SameOpenFile) (entry : Entry) : List Visit :=
  match entry.pid?, entry.fdinfo with
  | some pid, some descriptors =>
    (representatives same pid descriptors).filterMap (Descriptor.visit? pid)
  | _, _ => []

def Root.entries (root : Root) : List Entry :=
  match root.listing with
  | .ok entries => entries
  | .error _ => []

def Root.visits (same : SameOpenFile) (root : Root) : List Visit :=
  root.entries.flatMap (Entry.visits same)

end Procfs

namespace Device

open Procfs

variable {β : Type}

def accepts (text : List Char) (device : Device β) : Bool :=
  device.fdinfo.any fun reader => reader.accepts text

def dispatchAll (visits : List Visit) (devices : List (Device β)) :
    Except Fault (List (Device β)) :=
  visits.foldlM
    (fun devices visit => (dispatch visit.pid visit.text visit.now devices).map Prod.fst) devices

theorem dispatchAll_append (a b : List Visit) (devices : List (Device β)) :
    dispatchAll (a ++ b) devices = dispatchAll a devices >>= dispatchAll b :=
  List.foldlM_append

theorem dispatchAll_cons (visit : Visit) (visits : List Visit) (devices : List (Device β)) :
    dispatchAll (visit :: visits) devices =
      (dispatch visit.pid visit.text visit.now devices).map Prod.fst >>= dispatchAll visits :=
  List.foldlM_cons

theorem dispatch_of_no_reader (pid : UInt32) (text : List Char) (now : Nat)
    {devices : List (Device β)} (h : ∀ device ∈ devices, device.fdinfo = none) :
    dispatch pid text now devices = .ok (devices, false) := by
  induction devices with
  | nil => rfl
  | cons device devices ih =>
      have hdevice : device.fdinfo = none := h device List.mem_cons_self
      have hdevices := ih fun other hother => h other (List.mem_cons_of_mem device hother)
      simp only [dispatch, readFdinfo, hdevice, hdevices]
      rfl

theorem dispatchAll_of_no_reader (visits : List Visit) {devices : List (Device β)}
    (h : ∀ device ∈ devices, device.fdinfo = none) : dispatchAll visits devices = .ok devices := by
  induction visits with
  | nil => rfl
  | cons visit visits ih =>
      rw [dispatchAll_cons, dispatch_of_no_reader _ _ _ h]
      exact ih

end Device

namespace Procfs

open Device

variable {β : Type}

/-- The walk over the rest of the descriptors of a process goes on as the representatives do. -/
theorem dispatchAll_bind_sweepDescriptors (same : SameOpenFile) (pid : UInt32)
    (earlier rest : List Descriptor) (devices : List (Device β)) :
    (dispatchAll (earlier.filterMap (Descriptor.visit? pid)) devices >>=
        sweepDescriptors same pid (earlier.filterMap Descriptor.drmNumber?) rest) =
      dispatchAll ((rest.foldl (addRepresentative same pid) earlier).filterMap
        (Descriptor.visit? pid)) devices := by
  induction rest generalizing earlier with
  | nil => exact bind_pure _
  | cons descriptor rest ih =>
      rw [List.foldl_cons, ← ih]
      cases hnumber : descriptor.drmNumber? with
      | none =>
          have hold : addRepresentative same pid earlier descriptor = earlier := by
            simp [addRepresentative, isRepresentative, hnumber]
          simp only [hold, sweepDescriptors, hnumber]
      | some number =>
          by_cases hseen : ((earlier.filterMap Descriptor.drmNumber?).any
              fun other => same pid number other) = true
          · have hold : addRepresentative same pid earlier descriptor = earlier := by
              simp only [addRepresentative, isRepresentative, hnumber, hseen]
              rfl
            simp only [hold, sweepDescriptors, hnumber, hseen, if_true]
          · have hnew : addRepresentative same pid earlier descriptor = earlier ++ [descriptor] := by
              simp only [addRepresentative, isRepresentative, hnumber, hseen]
              rfl
            rw [hnew, List.filterMap_append, List.filterMap_append, dispatchAll_append, bind_assoc]
            congr 1
            funext middle
            have hfresh : ((earlier.filterMap Descriptor.drmNumber?).any
                fun other => same pid number other) = false := Bool.eq_false_iff.mpr hseen
            cases htext : descriptor.text? with
            | none =>
                have hvisit : descriptor.visit? pid = none := by
                  simp [Descriptor.visit?, htext]
                simp only [sweepDescriptors, hnumber, hfresh, htext, hvisit, List.filterMap_cons,
                  List.filterMap_nil]
                rfl
            | some text =>
                have hvisit : descriptor.visit? pid = some ⟨pid, text, descriptor.readAt⟩ := by
                  simp [Descriptor.visit?, htext]
                simp only [sweepDescriptors, hnumber, hfresh, htext, hvisit, List.filterMap_cons,
                  List.filterMap_nil, dispatchAll_cons]
                cases dispatch pid text descriptor.readAt middle <;> rfl

theorem sweepEntry_eq (same : SameOpenFile) (entry : Entry) (devices : List (Device β)) :
    sweepEntry same entry devices = dispatchAll (entry.visits same) devices := by
  cases hpid : entry.pid? with
  | none =>
      simp only [sweepEntry, Entry.visits, hpid]
      rfl
  | some pid =>
      cases hfdinfo : entry.fdinfo with
      | none =>
          simp only [sweepEntry, Entry.visits, hpid, hfdinfo]
          rfl
      | some descriptors =>
          simp only [sweepEntry, Entry.visits, hpid, hfdinfo]
          exact dispatchAll_bind_sweepDescriptors same pid [] descriptors devices

theorem sweepEntries_eq (same : SameOpenFile) (entries : List Entry) (devices : List (Device β)) :
    sweepEntries same entries devices =
      dispatchAll (entries.flatMap (Entry.visits same)) devices := by
  induction entries generalizing devices with
  | nil => rfl
  | cons entry entries ih =>
      rw [sweepEntries, List.foldlM_cons, sweepEntry_eq, List.flatMap_cons, dispatchAll_append]
      congr 1
      funext middle
      exact ih middle

/-- A sweep offers the texts of the readable representatives to the devices, in order. -/
theorem sweep_eq_dispatchAll (same : SameOpenFile) (root : Root) (devices : List (Device β)) :
    sweep same root devices = dispatchAll (root.visits same) devices := by
  by_cases hreader : (devices.any fun device => device.fdinfo.isSome) = true
  · rw [sweep, if_pos hreader]
    cases hlisting : root.listing with
    | error reason =>
        simp only [Root.visits, Root.entries, hlisting]
        rfl
    | ok entries =>
        simp only [Root.visits, Root.entries, hlisting]
        exact sweepEntries_eq same entries devices
  · rw [sweep, if_neg hreader]
    refine (dispatchAll_of_no_reader _ ?_).symm
    intro device hdevice
    rw [← Option.not_isSome_iff_eq_none]
    intro hsome
    exact hreader (List.any_eq_true.mpr ⟨device, hdevice, hsome⟩)

end Procfs

end GpuTelemetry
