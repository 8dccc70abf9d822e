import GpuTelemetry.Proofs.Collector.Cycle

/-!
# A collector has no output

A start, a cycle and a shutdown log and call what they need to, but print nothing
and complain of nothing. A cycle leaves no lifecycle events either.
-/

namespace GpuTelemetry

/-- A computation that neither prints nor complains, even if it faults. -/
abbrev Run.Quiet {α : Type} (body : Run α) : Prop :=
  Run.Keeps Event.isOutput body

namespace Collector

theorem quiet_start (host : Host) (settings : Settings) (registry : Registry) :
    Run.Quiet (start host settings registry) := by
  refine Run.Keeps.bind ?_ fun _ => Run.keeps_pure _
  exact Registry.keeps_start isNotable_of_isOutput (fun _ => rfl) (fun _ _ _ => rfl) host
    settings.mask

theorem quiet_shutdown (collector : Collector) : Run.Quiet collector.shutdown := by
  refine Run.Keeps.bind ?_ fun _ => Run.keeps_pure _
  exact Registry.keeps_shutdown isNotable_of_isOutput (fun _ => rfl) (fun _ _ _ => rfl)
    collector.devices

theorem silent_refresh (host : Host) (collector : Collector) :
    Run.Silent (collector.refresh host) := by
  refine (silent_step host collector .refreshDynamic).bind fun dynamic => ?_
  exact (silent_step host dynamic .refreshProcesses).bind fun _ => Run.keeps_pure _

/-! ## What a cycle leaves as it is -/

variable {host : Host} {collector after : Collector} {devices : List GpuDevice}
  {count number : Nat}

theorem Stands.refresh (h : collector.Stands devices count number) (host : Host) :
    Run.Leaves (collector.refresh host) fun last events =>
      last.Stands devices count number ∧ events = [] := by
  refine Run.Leaves.bind (h.step host .refreshDynamic) ?_
  rintro dynamic _ ⟨hdynamic, rfl⟩
  refine Run.Leaves.bind (hdynamic.step host .refreshProcesses) ?_
  rintro processed _ ⟨hprocessed, rfl⟩
  exact hprocessed.step host .backfill

/-- What holds of all that a cycle returns holds of what it makes of a collector. -/
theorem of_refreshed {P : Collector → Prop} (h : Run.ReturnsOnly (collector.refresh host) P)
    (hafter : collector.refreshed host = .ok after) : P after :=
  h [] after ((ensures_refresh host collector []).trans hafter)

theorem Stands.refreshed (h : collector.Stands devices count number)
    (hafter : collector.refreshed host = .ok after) : after.Stands devices count number := by
  refine of_refreshed ?_ hafter
  intro trace last hlast
  obtain ⟨_, -, hstands, -⟩ := h.refresh host trace last _ (Prod.ext hlast rfl)
  exact hstands

theorem Releasable.refreshed (h : collector.Releasable)
    (hafter : collector.refreshed host = .ok after) : after.Releasable := by
  refine of_refreshed ?_ hafter
  refine Run.ReturnsOnly.bind (h.step host .refreshDynamic) fun dynamic hdynamic => ?_
  refine Run.ReturnsOnly.bind (hdynamic.step host .refreshProcesses) fun processed hprocessed => ?_
  exact hprocessed.step host .backfill

end Collector

end GpuTelemetry
