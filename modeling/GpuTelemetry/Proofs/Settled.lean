import GpuTelemetry.Proofs.Drm.Library

/-!
# Results that are settled

A computation is settled if it ends the same whatever came before it. Loading the
library of the graphics driver is settled: the directory alone decides whether it
fails, and how.
-/

namespace GpuTelemetry

variable {α β : Type}

def Traced.Settled (body : Traced α) : Prop :=
  ∃ a, body.Ensures (· = a)

namespace Traced

theorem settled_pure (a : α) : Settled (pure a) :=
  ⟨a, ensures_pure rfl⟩

theorem Settled.bind {body : Traced α} {next : α → Traced β} (h : body.Settled)
    (hnext : ∀ a, (next a).Settled) : (body >>= next).Settled := by
  obtain ⟨a, ha⟩ := h
  obtain ⟨b, hb⟩ := hnext a
  refine ⟨b, ha.bind ?_⟩
  rintro _ rfl
  exact hb

theorem settled_unit_bind {body : Traced Unit} {next : Unit → Traced β}
    (hnext : (next ()).Settled) : (body >>= next).Settled := by
  obtain ⟨b, hb⟩ := hnext
  exact ⟨b, ensures_unit_bind hb⟩

end Traced

namespace Drm

open Platform

section

variable (directory : LibraryDirectory) (library : SharedLibrary) (label : String)

theorem settled_loadFirst (failure : Failure) (names : List String) :
    (loadFirst directory failure names).Settled := by
  induction names generalizing failure with
  | nil => exact Traced.settled_pure _
  | cons name names ih =>
      rw [loadFirst]
      cases directory.load name with
      | ok library => exact Traced.settled_unit_bind (Traced.settled_pure _)
      | error text => exact ih (.libraryLoad text)

theorem settled_resolve (name : String) : (resolve directory library label name).Settled := by
  rw [resolve]
  cases directory.symbol library name with
  | ok _ => exact Traced.settled_pure _
  | error text => exact Traced.settled_unit_bind (Traced.settled_pure _)

theorem settled_resolveAll (symbols : List String) :
    (resolveAll directory library label symbols).Settled := by
  induction symbols with
  | nil => exact Traced.settled_pure _
  | cons name names ih =>
      rw [resolveAll]
      refine (settled_resolve directory library label name).bind ?_
      intro result
      cases result with
      | ok _ => exact ih
      | error failure => exact Traced.settled_pure _

theorem settled_resolveListing : (resolveListing directory library).Settled := by
  rw [resolveListing]
  refine (settled_resolve directory library _ _).bind ?_
  intro result
  cases result with
  | ok _ => exact Traced.settled_pure _
  | error failure =>
      refine (settled_resolve directory library _ _).bind ?_
      intro former
      cases former with
      | ok _ => exact Traced.settled_pure _
      | error other => exact Traced.settled_pure _

end

theorem Library.settled_load (directory : LibraryDirectory) :
    (Library.load directory).Settled := by
  rw [Library.load]
  refine (settled_loadFirst directory _ _).bind ?_
  intro found
  cases found with
  | error failure => exact Traced.settled_pure _
  | ok library =>
      apply Traced.settled_unit_bind
      refine (settled_resolveListing directory library).bind ?_
      intro listing
      cases listing with
      | error failure => exact Traced.settled_unit_bind (Traced.settled_pure _)
      | ok modernListing =>
          refine (settled_resolveAll directory library _ _).bind ?_
          intro others
          cases others with
          | error failure => exact Traced.settled_unit_bind (Traced.settled_pure _)
          | ok _ => exact Traced.settled_pure _

end Drm

end GpuTelemetry
