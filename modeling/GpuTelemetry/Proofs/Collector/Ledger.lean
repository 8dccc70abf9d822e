import GpuTelemetry.Proofs.Collector.Lifecycle
import GpuTelemetry.Proofs.Vendor.Ledger

/-!
# What a collector holds

A collector can be started again, polled and shut down, its devices can be given up
one by one or all at once, and its registry can be dropped before them. A fault ends
what it happens in, but not the collector. Whatever is done, what its vendors and
devices hold is still held afterwards, and no other context is.
-/

namespace GpuTelemetry

open Ledger

variable {driver : Drm.Driver} {given rest : Ledger}

theorem holdings_of_map_holding {devices after : List GpuDevice}
    (h : after.map Device.holding = devices.map Device.holding) :
    holdings after = holdings devices := by
  have hledger : ∀ devices : List GpuDevice, devices.map Device.ledger =
      (devices.map Device.holding).map fun held => held.2.givesBack := by
    intro devices
    rw [List.map_map]
    exact List.map_congr_left fun device _ => device.backend.givesBack_release.symm
  rw [holdings, hledger, h, ← hledger, ← holdings]

theorem holdings_eraseIdx {devices : List GpuDevice} {position : Nat} {device : GpuDevice}
    (h : devices[position]? = some device) :
    holdings devices = device.ledger + holdings (devices.eraseIdx position) := by
  obtain ⟨hposition, rfl⟩ := List.getElem?_eq_some_iff.mp h
  rw [← holdings_cons]
  exact ((List.getElem_cons_eraseIdx_perm hposition).map Device.ledger).sum_eq.symm

/-! ## Giving up devices -/

/-- Gives up some devices, whichever of them fault, and tells whether none did. -/
def releaseEach : List GpuDevice → Traced Bool
  | [] => return true
  | device :: devices => do
    let result ← device.release.run
    let others ← releaseEach devices
    return result.isOk && others

theorem accounts_releaseEach (devices : List GpuDevice) (hrest : rest.Backed) :
    Traced.Accounts driver (releaseEach devices) (holdings devices + rest)
      fun _ left => left = rest := by
  induction devices with
  | nil => exact Traced.accounts_pure (zero_add rest)
  | cons device devices ih =>
      rw [releaseEach, holdings_cons, add_assoc]
      refine Traced.Accounts.bind
        (device.accounts_release ((backed_holdings devices).add hrest)) ?_
      rintro result _ ⟨rfl, -⟩
      refine ih.bind ?_
      rintro others _ rfl
      exact Traced.accounts_pure rfl

/-- Devices that are given up one after the other without a fault are given up each. -/
theorem releaseEach_of_releaseDevices {devices : List GpuDevice} {trace after : List Event}
    (h : StateT.run (ExceptT.run (releaseDevices devices)) trace = (.ok (), after)) :
    StateT.run (releaseEach devices) trace = (true, after) := by
  induction devices generalizing trace with
  | nil =>
      cases h
      rfl
  | cons device devices ih =>
      change StateT.run (ExceptT.run (device.release >>= fun _ => releaseDevices devices)) trace = _
        at h
      rw [Run.run_bind] at h
      split at h
      next a middle hdevice =>
        have hothers := ih h
        rw [releaseEach, Traced.run_bind, hdevice, Traced.run_bind, hothers]
        rfl
      next => cases h

/-! ## Dropping a registry -/

/-- Gives back a resource as often as it is held and no device holds it. -/
def returnUnused (devices : List GpuDevice) (resource : Resource) : Traced Unit := do
  let trace ← get
  let unused := held trace resource - (holdings devices).count (.resource resource)
  (List.replicate unused resource).forM fun r => emit (.released r)

theorem accounts_releaseReplicate (count : Nat) (resource : Resource) :
    Traced.Accounts driver
      ((List.replicate count resource).forM fun r => emit (.released r))
      (Multiset.replicate count (.resource resource) + rest) fun _ left => left = rest := by
  induction count with
  | zero => exact Traced.accounts_pure (zero_add rest)
  | succ count ih =>
      rw [Multiset.replicate_succ, Multiset.cons_add]
      refine (Traced.accounts_released resource).bind ?_
      rintro _ _ rfl
      exact ih

theorem accounts_returnUnused (devices : List GpuDevice) (resource : Resource)
    (hrest : rest.Contextless) :
    Traced.Accounts driver (returnUnused devices resource) (rest + holdings devices)
      fun _ left => Lost (holdings devices) left := by
  rw [returnUnused]
  refine Traced.accounts_get_bind fun trace htrace => ?_
  -- the trace tells how often the resource is held, and the devices how often by them
  have hunused : held trace resource - (holdings devices).count (.resource resource) =
      rest.count (.resource resource) := by
    rw [htrace.held, Multiset.count_add, Nat.add_sub_cancel]
  obtain ⟨others, hothers⟩ := Multiset.le_iff_exists_add.mp
    (Multiset.le_count_iff_replicate_le.mp (le_refl (rest.count (.resource resource))))
  have hcontextless : Contextless others := by
    intro index hmem
    refine hrest index ?_
    rw [hothers]
    exact Multiset.mem_add.mpr (.inr hmem)
  have hgiven : rest + holdings devices =
      Multiset.replicate (rest.count (.resource resource)) (.resource resource) +
        (others + holdings devices) := by
    rw [← add_assoc, ← hothers]
  rw [hunused, hgiven]
  refine (accounts_releaseReplicate _ resource).mono ?_
  rintro _ _ rfl
  exact hcontextless.lost

/-- A vendor as it is registered. The loads of the library of NVIDIA are numbered from some number
on. -/
inductive Newcomer
  | amd
  | nvidia (loads : Nat)
  | simulated (vendor : Simulated.Vendor)

def Newcomer.vendor : Newcomer → Vendor
  | amd => .amd {}
  | nvidia loads => .nvidia { loads }
  | simulated vendor => .simulated vendor

theorem Newcomer.ledger_vendor (newcomer : Newcomer) : newcomer.vendor.ledger = 0 := by
  cases newcomer <;> rfl

theorem Registry.accounts_register (registry : Registry) (newcomer : Newcomer) :
    Traced.Accounts driver (registry.register newcomer.vendor) given fun result left =>
      left = given ∧ result.1.ledger = registry.ledger := by
  rw [register]
  split
  · exact (Traced.neutral_log _ _ _).bind fun _ => Traced.accounts_pure ⟨rfl, rfl⟩
  · refine Traced.accounts_pure ⟨rfl, ?_⟩
    rw [ledger, List.map_append, List.sum_append, List.map_singleton, List.sum_singleton,
      newcomer.ledger_vendor, add_zero, ← ledger]

namespace Collector

/-- What the vendors and the devices of a collector hold. -/
def ledger (collector : Collector) : Ledger :=
  collector.registry.ledger + holdings collector.devices

/-- Drops the registry. Its vendors give back the libraries of the graphics driver. -/
def dropRegistry (collector : Collector) : Traced Collector := do
  returnUnused collector.devices .drmLibrary
  returnUnused collector.devices .amdgpuLibrary
  return { collector with registry := {} }

/-- Shuts down the vendors. A fault leaves the registry to be dropped. -/
def shutdownVendors (collector : Collector) : Traced Collector := do
  match ← (collector.registry.shutdown []).run with
  | .ok registry => return { collector with registry, cache := collector.cache.clear }
  | .error _ => collector.dropRegistry

/-- What is done to a collector, its registry or its devices. -/
inductive Deed
  | register (newcomer : Newcomer)
  /-- Starts every vendor, also if there are devices from before. -/
  | start (mask : DeviceMask)
  | poll (step : Step)
  /-- Gives up the device at a position. -/
  | release (position : Nat)
  /-- Gives up the first ones of the devices and then shuts down the vendors, even if there are
  devices left. -/
  | shutdown (count : Nat)
  | dropDevices
  | dropRegistry

/-- What is left after something is done, whether or not it faults. A start or a shutdown that
faults takes the registry with it. -/
def undergo (host : Host) (collector : Collector) : Deed → Traced Collector
  | .register newcomer => do
    let (registry, _) ← collector.registry.register newcomer.vendor
    return { collector with registry }
  | .start mask => do
    match ← (collector.registry.start host mask).run with
    | .ok (registry, found) =>
      return { collector with registry, devices := collector.devices ++ found }
    | .error _ => collector.dropRegistry
  | .poll step => do
    match ← (collector.step host step).run with
    | .ok after => return after
    | .error _ => return collector
  | .release position => do
    let _ ← releaseEach collector.devices[position]?.toList
    return { collector with devices := collector.devices.eraseIdx position }
  | .shutdown count => do
    let left := { collector with devices := collector.devices.drop count }
    if ← releaseEach (collector.devices.take count) then left.shutdownVendors else return left
  | .dropDevices => do
    let _ ← releaseEach collector.devices
    return { collector with devices := [] }
  | .dropRegistry => collector.dropRegistry

/-- The devices that a start finds are added to those that are there. -/
theorem run_undergo_start {collector : Collector} {host : Host} {mask : DeviceMask}
    {registry : Registry} {found : List GpuDevice} {trace : List Event}
    (h : (StateT.run (ExceptT.run (collector.registry.start host mask)) trace).1 =
      .ok (registry, found)) :
    (StateT.run (collector.undergo host (.start mask)) trace).1 =
      { collector with registry, devices := collector.devices ++ found } := by
  rw [undergo, Traced.run_bind, h]
  rfl

/-- A shutdown of the vendors leaves the devices that it is not given. -/
theorem ensures_undergo_shutdown (collector : Collector) (host : Host) (count : Nat) :
    Traced.Ensures (collector.undergo host (.shutdown count)) fun after =>
      after.devices = collector.devices.drop count := by
  have hdrop : ∀ collector : Collector, Traced.Ensures collector.dropRegistry fun after =>
      after.devices = collector.devices := by
    intro collector
    rw [dropRegistry]
    exact Traced.ensures_unit_bind (Traced.ensures_unit_bind (Traced.ensures_pure rfl))
  rw [undergo]
  refine Traced.Ensures.bind (P := fun _ => True) (fun _ => trivial) ?_
  intro quiet _
  split
  · rw [shutdownVendors]
    refine Traced.Ensures.bind (P := fun _ => True) (fun _ => trivial) ?_
    intro outcome _
    cases outcome with
    | ok registry => exact Traced.ensures_pure rfl
    | error fault => exact hdrop _
  · exact Traced.ensures_pure rfl

/-- A shutdown of the collector that does not fault is that of all its devices and vendors. -/
theorem run_undergo_shutdown {collector after : Collector} {trace last : List Event} (host : Host)
    (h : StateT.run (ExceptT.run collector.shutdown) trace = (.ok after, last)) :
    StateT.run (collector.undergo host (.shutdown collector.devices.length)) trace =
      (after, last) := by
  rw [Collector.shutdown, Run.run_bind] at h
  split at h
  next registry middle hregistry =>
    cases h
    rw [Registry.shutdown, Run.run_bind] at hregistry
    split at hregistry
    next released hreleased =>
      have hvendors : StateT.run (ExceptT.run (collector.registry.shutdown [])) released =
          (.ok registry, last) := hregistry
      rw [undergo, List.take_length, List.drop_length, Traced.run_bind,
        releaseEach_of_releaseDevices hreleased, if_pos rfl, shutdownVendors, Traced.run_bind,
        hvendors]
      rfl
    next => cases hregistry
  next => cases h

/-! ## One step of a course -/

theorem neutral_step (host : Host) (collector : Collector) (step : Step) :
    Run.Neutral driver (collector.step host step) := by
  cases step with
  | populateStatic => exact fun _ => Run.accounts_pure rfl
  | refreshDynamic => exact Run.neutral_ofExcept _
  | backfill => exact fun _ => Run.accounts_pure rfl
  | refreshProcesses =>
      have hsweep : ∀ root devices, Run.Neutral driver (sweep host root devices) := by
        intro root devices
        have hwalk : Run.Neutral driver
            (monadLift (Procfs.sweep host.sameOpenFile root devices)) := Run.neutral_ofExcept _
        intro given
        rw [sweep]
        split
        · cases root.listing with
          | error reason =>
              exact Run.neutral_lift_bind (Traced.neutral_log _ _ _) fun _ => hwalk given
          | ok entries => exact hwalk given
        · exact hwalk given
      have hquestions : ∀ cache count, Traced.Neutral driver (emitQuestions cache count) :=
        fun _ _ => Traced.neutral_forM fun _ => Traced.neutral_emit rfl rfl rfl
      have hcycle : ∀ cache, Traced.Neutral driver (endProcessCycle cache) := by
        intro cache
        rw [endProcessCycle]
        split
        · exact (Traced.neutral_log _ _ _).bind_neutral fun _ => Traced.neutral_pure _
        · exact Traced.neutral_pure _
      intro given
      change Run.Accounts driver (collector.refreshProcesses host) given _
      rw [refreshProcesses]
      dsimp only
      split
      · exact Run.accounts_pure rfl
      · refine (hsweep _ _).bind (fun devices => ?_) fun _ => rfl
        refine Run.neutral_lift_bind (hquestions _ _) fun _ => ?_
        exact Run.neutral_lift_bind (hcycle _) fun _ => Run.accounts_pure rfl

theorem accounts_dropRegistry (collector : Collector) (hrest : rest.Contextless) :
    Traced.Accounts driver collector.dropRegistry (rest + holdings collector.devices)
      fun after left => Lost after.ledger left := by
  rw [dropRegistry]
  refine (accounts_returnUnused collector.devices .drmLibrary hrest).bind ?_
  rintro _ _ ⟨lost, hlost, rfl⟩
  refine (accounts_returnUnused collector.devices .amdgpuLibrary hlost).bind ?_
  rintro _ _ hleft
  refine Traced.accounts_pure ?_
  change Lost (0 + holdings collector.devices) _
  rwa [zero_add]

theorem accounts_shutdownVendors (collector : Collector) (hrest : rest.Contextless) :
    Traced.Accounts driver collector.shutdownVendors (rest + collector.ledger)
      fun after left => Lost after.ledger left := by
  have hgiven : rest + collector.ledger =
      collector.registry.ledger + (rest + holdings collector.devices) := by
    rw [ledger]
    abel
  rw [shutdownVendors, hgiven]
  refine Traced.Accounts.bind collector.registry.accounts_shutdown ?_
  rintro (fault | registry) _ hleft
  · obtain ⟨lost, hlost, rfl⟩ := hleft
    rw [← add_assoc]
    exact collector.accounts_dropRegistry (hlost.add hrest)
  · cases hleft
    refine Traced.accounts_pure ⟨rest, hrest, ?_⟩
    change _ = rest + (registry.ledger + holdings collector.devices)
    abel

/-- Giving up some of the devices leaves the others, with the vendors. -/
theorem accounts_releaseEach_of_split (collector : Collector) {gone kept : List GpuDevice}
    (hdevices : holdings collector.devices = holdings gone + holdings kept)
    (hrest : rest.Contextless) :
    Traced.Accounts driver (releaseEach gone) (rest + collector.ledger)
      fun _ left => left = rest + ledger { collector with devices := kept } := by
  have hvendors : Contextless collector.registry.ledger := Registry.contextless_sum_vendors _
  have hkept : Ledger.Backed (rest + ledger { collector with devices := kept }) :=
    hrest.backed.add (hvendors.backed.add (backed_holdings kept))
  have hgiven : rest + collector.ledger =
      holdings gone + (rest + ledger { collector with devices := kept }) := by
    rw [ledger, ledger, hdevices]
    abel
  rw [hgiven]
  exact accounts_releaseEach gone hkept

/-- A deed leaves what is held by the vendors and devices that are left, and apart from that no
context. -/
theorem accounts_undergo (host : Host) (collector : Collector) (deed : Deed)
    (hrest : rest.Contextless) :
    Traced.Accounts host.drm (collector.undergo host deed) (rest + collector.ledger)
      fun after left => Lost after.ledger left := by
  have hgiven : rest + collector.ledger =
      collector.registry.ledger + (rest + holdings collector.devices) := by
    rw [ledger]
    abel
  cases deed with
  | register newcomer =>
      refine (collector.registry.accounts_register newcomer).bind ?_
      rintro ⟨registry, index⟩ _ ⟨rfl, hledger⟩
      refine Traced.accounts_pure ⟨rest, hrest, ?_⟩
      exact congrArg (fun held => rest + (held + holdings collector.devices)) hledger.symm
  | start mask =>
      have hdevices : Ledger.Backed (rest + holdings collector.devices) :=
        hrest.backed.add (backed_holdings _)
      rw [undergo, hgiven]
      refine Traced.Accounts.bind (Registry.accounts_start host _ mask hdevices) ?_
      rintro (fault | ⟨registry, found⟩) left hleft
      · obtain ⟨lost, hlost, rfl⟩ := hleft
        rw [← add_assoc]
        exact collector.accounts_dropRegistry (hlost.add hrest)
      · cases hleft
        refine Traced.accounts_pure ⟨rest, hrest, ?_⟩
        rw [ledger, holdings_append]
        dsimp only
        abel
  | poll step =>
      refine Traced.Accounts.bind
        ((neutral_step host collector step _).and (ensures_step host collector step)) ?_
      rintro (fault | after) _ ⟨rfl, hafter⟩
      · exact Traced.accounts_pure hrest.lost
      · obtain ⟨hregistry, hholding, -⟩ := hafter after rfl
        refine Traced.accounts_pure ⟨rest, hrest, ?_⟩
        rw [ledger, ledger, hregistry, holdings_of_map_holding hholding]
  | release position =>
      have hdevices : holdings collector.devices =
          holdings collector.devices[position]?.toList +
            holdings (collector.devices.eraseIdx position) := by
        cases h : collector.devices[position]? with
        | none =>
            rw [List.eraseIdx_of_length_le (List.getElem?_eq_none_iff.mp h)]
            exact (zero_add _).symm
        | some device =>
            rw [holdings_eraseIdx h, Option.toList_some, holdings_cons]
            exact congrArg (· + _) (add_zero device.ledger).symm
      refine (collector.accounts_releaseEach_of_split hdevices hrest).bind ?_
      rintro _ _ rfl
      exact Traced.accounts_pure hrest.lost
  | shutdown count =>
      have hdevices : holdings collector.devices =
          holdings (collector.devices.take count) + holdings (collector.devices.drop count) := by
        rw [← holdings_append, List.take_append_drop]
      refine (collector.accounts_releaseEach_of_split hdevices hrest).bind ?_
      rintro (_ | _) _ rfl
      · exact Traced.accounts_pure hrest.lost
      · exact accounts_shutdownVendors _ hrest
  | dropDevices =>
      have hdevices : holdings collector.devices = holdings collector.devices + holdings [] :=
        (add_zero _).symm
      refine (collector.accounts_releaseEach_of_split hdevices hrest).bind ?_
      rintro _ _ rfl
      exact Traced.accounts_pure hrest.lost
  | dropRegistry =>
      have hvendors : Contextless (rest + collector.registry.ledger) :=
        hrest.add (Registry.contextless_sum_vendors _)
      rw [ledger, ← add_assoc]
      exact collector.accounts_dropRegistry hvendors

end Collector

end GpuTelemetry
