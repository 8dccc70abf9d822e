import GpuTelemetry.Proofs.Amd.Ledger
import GpuTelemetry.Vendor.Registry

/-!
# What vendors and devices hold

Whatever becomes of a start or a shutdown, the devices that were there before
hold what they held. A start that returns leaves the vendors and devices it
returns with what they hold; one that faults leaves no context of its own behind,
as the devices that it has found are given up while their vendors still hold the
libraries.
-/

namespace GpuTelemetry

variable {driver : Drm.Driver} {given rest : Ledger}

namespace Ledger

/-- Something that is no context may be left behind. -/
def Lost (rest left : Ledger) : Prop :=
  ∃ lost : Ledger, lost.Contextless ∧ left = lost + rest

theorem lost_self (rest : Ledger) : Lost rest rest :=
  ⟨0, contextless_zero, (zero_add rest).symm⟩

theorem Contextless.lost {lost : Ledger} (h : lost.Contextless) : Lost rest (lost + rest) :=
  ⟨lost, h, rfl⟩

theorem Lost.add {first left : Ledger} (hfirst : first.Contextless)
    (h : Lost (first + rest) left) : Lost rest left := by
  obtain ⟨lost, hlost, rfl⟩ := h
  exact ⟨lost + first, hlost.add hfirst, (add_assoc lost first rest).symm⟩

/-- What is left is what the result holds beside the rest, or after a fault the rest. -/
def Beside {α : Type} (rest : Ledger) (own : α → Ledger) : Except Fault α → Ledger → Prop
  | .ok a, left => left = own a + rest
  | .error _, left => Lost rest left

end Ledger

open Ledger

/-- A resource that is still held by others is not closed. -/
theorem accounts_giveBack (resource : Resource) :
    Run.Accounts driver (giveBack resource) (.resource resource ::ₘ rest) fun result left =>
      left = rest ∧ (.resource resource ∈ rest → result = .ok ()) := by
  rw [giveBack]
  refine Run.accounts_lift_bind (Traced.accounts_released _) ?_
  rintro _ _ rfl
  refine Run.accounts_get_bind fun trace htrace => ?_
  split
  next hheld =>
    refine (Run.neutral_ofExcept _ _).mono ?_
    rintro result _ rfl
    refine ⟨rfl, fun hmem => ?_⟩
    rw [htrace.held, Multiset.count_eq_zero] at hheld
    exact absurd hmem hheld
  next => exact Run.accounts_pure ⟨rfl, fun _ => rfl⟩

namespace Nvidia

theorem accounts_openSelected (library : Library) (nvml : Nvml.Driver) (count index : Nat)
    (mask : DeviceMask) :
    Traced.Accounts driver (openSelected library nvml count index mask) given fun result left =>
      left = (result.1.map fun device => {.resource device.library.resource}).sum + given ∧
        ∀ device ∈ result.1, device.library = library := by
  induction count generalizing index mask given with
  | zero => exact Traced.accounts_pure ⟨(zero_add given).symm, List.forall_mem_nil _⟩
  | succ count ih =>
      rw [openSelected]
      split
      · exact (Traced.neutral_log _ _ _).bind fun _ => ih _ _
      split
      · refine (Traced.accounts_acquired _).bind ?_
        rintro _ _ rfl
        refine (ih _ _).bind ?_
        rintro ⟨devices, left⟩ _ ⟨rfl, hlibrary⟩
        refine Traced.accounts_pure ⟨?_, List.forall_mem_cons.mpr ⟨rfl, hlibrary⟩⟩
        rw [List.map_cons, List.sum_cons, ← Multiset.singleton_add]
        abel
      · exact (Traced.neutral_log _ _ _).bind fun _ => ih _ _

namespace Vendor

/-- What a vendor holds. -/
def ledger (vendor : Vendor) : Ledger :=
  (vendor.library.map fun library => {.resource library.resource}).getD 0

theorem contextless_ledger (vendor : Vendor) : vendor.ledger.Contextless := by
  rw [ledger]
  cases vendor.library with
  | none => exact contextless_zero
  | some library => exact contextless_resource _

theorem accounts_giveBackLibrary (vendor : Vendor) :
    Run.Accounts driver vendor.giveBackLibrary (vendor.ledger + rest)
      fun _ left => left = rest := by
  rw [giveBackLibrary, ledger]
  cases vendor.library with
  | none => exact Run.accounts_pure (zero_add rest)
  | some library =>
      change Run.Accounts driver (giveBack library.resource) ({.resource library.resource} + rest) _
      rw [Multiset.singleton_add]
      exact (accounts_giveBack _).mono fun _ _ hleft => hleft.1

theorem accounts_init (directory : Platform.LibraryDirectory) (nvml : Nvml.Driver)
    (vendor : Vendor) :
    Run.Accounts driver (vendor.init directory nvml) (vendor.ledger + rest)
      (Beside rest fun (_, after) => after.ledger) := by
  rw [init]
  split
  · exact Run.accounts_pure rfl
  next library _ =>
    refine Run.accounts_lift_bind (Traced.accounts_acquired _) ?_
    rintro _ _ rfl
    have hledger : .resource library.resource ::ₘ (vendor.ledger + rest) =
        vendor.ledger + ({.resource library.resource} + rest) := by
      rw [← Multiset.singleton_add]
      abel
    rw [hledger]
    refine vendor.accounts_giveBackLibrary.bind ?_ ?_
    · rintro _ _ rfl
      exact Run.accounts_pure rfl
    · rintro fault _ rfl
      exact (contextless_resource _).lost

theorem accounts_shutdown (vendor : Vendor) :
    Run.Accounts driver vendor.shutdown (vendor.ledger + rest) (Beside rest ledger) := by
  rw [shutdown]
  refine vendor.accounts_giveBackLibrary.bind ?_ ?_
  · rintro _ _ rfl
    split
    next => exact Run.accounts_pure (zero_add _).symm
    next hlibrary =>
      apply Run.accounts_pure
      rw [Bool.not_eq_true, Option.isSome_eq_false_iff, Option.isNone_iff_eq_none] at hlibrary
      change _ = vendor.ledger + _
      rw [ledger, hlibrary]
      exact (zero_add _).symm
  · rintro fault _ rfl
    exact lost_self _

theorem accounts_enumerate (nvml : Nvml.Driver) (vendor : Vendor) (mask : DeviceMask) :
    Traced.Accounts driver (vendor.enumerate nvml mask) given fun result left =>
      let devices := result.1.toOption.getD []
      left = (devices.map fun device => {.resource device.library.resource}).sum + given ∧
        (∀ device ∈ devices, .resource device.library.resource ∈ result.2.2.ledger) ∧
        result.2.2.ledger = vendor.ledger := by
  rw [enumerate]
  split
  · exact Traced.accounts_pure ⟨(zero_add given).symm, List.forall_mem_nil _, rfl⟩
  next library hlibrary =>
    split
    · exact Traced.accounts_pure ⟨(zero_add given).symm, List.forall_mem_nil _, rfl⟩
    · refine (accounts_openSelected library nvml _ 0 mask).bind ?_
      rintro ⟨devices, left⟩ _ ⟨rfl, hdevices⟩
      refine Traced.accounts_pure ⟨rfl, ?_, rfl⟩
      intro device hdevice
      change _ ∈ vendor.ledger
      rw [ledger, hlibrary, hdevices device hdevice]
      exact Multiset.mem_singleton_self _

end Vendor

end Nvidia

/-! ## Devices -/

/-- What a computation gives back when it is run by itself. -/
def Run.givesBack (body : Run Unit) : Ledger :=
  ((StateT.run (ExceptT.run body) []).2.filterMap Event.loss? : List Asset)

theorem givesBack_giveBack (resource : Resource) :
    (giveBack resource).givesBack = {.resource resource} := by
  have hclose : ∀ trace, (StateT.run (ExceptT.run (do
      let trace ← get
      if held trace resource = 0 then resource.close : Run Unit)) trace).2 = trace := by
    intro trace
    change (StateT.run (ExceptT.run
      (if held trace resource = 0 then monadLift resource.close else pure () : Run Unit)) trace).2 =
        trace
    split
    · cases resource.close <;> rfl
    · rfl
  rw [Run.givesBack, giveBack, Run.run_lift_bind, hclose]
  rfl

namespace Backend

/-- What an open device holds. -/
def ledger : Backend → Ledger
  | amd _ device => device.ledger
  | nvidia device => {.resource device.library.resource}
  | simulated _ => 0

theorem givesBack_release (backend : Backend) : backend.release.givesBack = backend.ledger := by
  cases backend with
  | amd address device => rfl
  | nvidia device => exact givesBack_giveBack device.library.resource
  | simulated device => rfl

theorem backed_ledger (backend : Backend) : backend.ledger.Backed := by
  cases backend with
  | amd address device => exact device.backed_ledger
  | nvidia device =>
      exact (contextless_resource device.library.resource).backed
  | simulated device => exact contextless_zero.backed

end Backend

namespace Device

def ledger (device : GpuDevice) : Ledger :=
  device.backend.ledger

/-- The library of the device is not closed as the device is given up, as there is another hold of
it. -/
def Anchored (device : GpuDevice) (others : Ledger) : Prop :=
  ∀ own, device.backend = .nvidia own → .resource own.library.resource ∈ others

theorem Anchored.add {device : GpuDevice} {others : Ledger} (h : device.Anchored others)
    (rest : Ledger) : device.Anchored (rest + others) :=
  fun own hown => Multiset.mem_add.mpr (.inr (h own hown))

theorem accounts_release (device : GpuDevice) (hrest : rest.Backed) :
    Run.Accounts driver device.release (device.ledger + rest) fun result left =>
      left = rest ∧ (device.Anchored rest → result = .ok ()) := by
  rw [release, ledger]
  refine Run.neutral_lift_bind (Traced.neutral_emit rfl rfl rfl) fun _ => ?_
  cases hbackend : device.backend with
  | amd address own =>
      refine Run.accounts_lift ((own.accounts_release hrest).mono ?_)
      rintro _ _ rfl
      exact ⟨rfl, fun _ => rfl⟩
  | nvidia own =>
      change Run.Accounts driver (giveBack own.library.resource)
        ({.resource own.library.resource} + rest) _
      rw [Multiset.singleton_add]
      refine (accounts_giveBack _).mono ?_
      rintro result _ ⟨rfl, hok⟩
      exact ⟨rfl, fun hanchored => hok (hanchored own hbackend)⟩
  | simulated own => exact Run.accounts_pure ⟨zero_add rest, fun _ => rfl⟩

end Device

/-- What some devices hold. -/
def holdings (devices : List GpuDevice) : Ledger :=
  (devices.map Device.ledger).sum

theorem holdings_cons (device : GpuDevice) (devices : List GpuDevice) :
    holdings (device :: devices) = device.ledger + holdings devices := by
  rw [holdings, List.map_cons, List.sum_cons, ← holdings]

theorem holdings_append (first second : List GpuDevice) :
    holdings (first ++ second) = holdings first + holdings second := by
  rw [holdings, List.map_append, List.sum_append, ← holdings, ← holdings]

theorem backed_holdings (devices : List GpuDevice) : (holdings devices).Backed := by
  refine backed_sum fun ledger hledger => ?_
  obtain ⟨device, -, rfl⟩ := List.mem_map.mp hledger
  exact device.backend.backed_ledger

theorem accounts_releaseDevices {devices : List GpuDevice} (hrest : rest.Backed)
    (hanchored : ∀ device ∈ devices, device.Anchored rest) :
    Run.Accounts driver (releaseDevices devices) (holdings devices + rest) fun result left =>
      left = rest ∧ result = .ok () := by
  induction devices with
  | nil => exact Run.accounts_pure ⟨zero_add rest, rfl⟩
  | cons device devices ih =>
      obtain ⟨hdevice, hdevices⟩ := List.forall_mem_cons.mp hanchored
      rw [holdings_cons, add_assoc]
      refine Run.Accounts.bind
        (device.accounts_release ((backed_holdings devices).add hrest)) ?_ ?_
      · rintro _ _ ⟨rfl, -⟩
        exact ih hdevices
      · rintro fault _ ⟨rfl, hok⟩
        cases hok (hdevice.add _)

/-! ## Vendors -/

namespace Vendor

def ledger : Vendor → Ledger
  | amd vendor => vendor.ledger
  | nvidia vendor => vendor.ledger
  | simulated _ => 0

theorem contextless_ledger (vendor : Vendor) : vendor.ledger.Contextless := by
  cases vendor with
  | amd vendor => exact vendor.contextless_ledger
  | nvidia vendor => exact vendor.contextless_ledger
  | simulated vendor => exact contextless_zero

theorem accounts_init (host : Host) (vendor : Vendor) :
    Run.Accounts driver (vendor.init host) (vendor.ledger + rest)
      (Beside rest fun (_, after) => after.ledger) := by
  cases vendor with
  | amd vendor =>
      refine Run.accounts_lift_bind (vendor.accounts_init host.libraries) ?_
      rintro ⟨outcome, after⟩ _ rfl
      exact Run.accounts_pure rfl
  | nvidia vendor =>
      refine (vendor.accounts_init host.libraries host.nvml).bind ?_ fun _ _ hleft => hleft
      rintro ⟨outcome, after⟩ _ rfl
      exact Run.accounts_pure rfl
  | simulated vendor => exact Run.accounts_pure rfl

theorem accounts_shutdown (vendor : Vendor) :
    Run.Accounts driver vendor.shutdown (vendor.ledger + rest) (Beside rest ledger) := by
  cases vendor with
  | amd vendor =>
      refine Run.accounts_lift_bind vendor.accounts_shutdown ?_
      rintro after _ rfl
      exact Run.accounts_pure rfl
  | nvidia vendor =>
      refine vendor.accounts_shutdown.bind ?_ fun _ _ hleft => hleft
      rintro after _ rfl
      exact Run.accounts_pure rfl
  | simulated vendor => exact Run.accounts_pure rfl

section

variable {α : Type} {make : α → GpuDevice} {outcome : Except Failure (List α)}

theorem holdings_of_outcome :
    holdings ((outcome.map (List.map make)).toOption.getD []) =
      ((outcome.toOption.getD []).map fun found => (make found).ledger).sum := by
  cases outcome with
  | error failure => rfl
  | ok found =>
      change holdings (found.map make) = _
      rw [holdings, List.map_map]
      rfl

theorem forall_of_outcome {P : GpuDevice → Prop}
    (h : ∀ found ∈ outcome.toOption.getD [], P (make found)) :
    ∀ device ∈ (outcome.map (List.map make)).toOption.getD [], P device := by
  cases outcome with
  | error failure => exact List.forall_mem_nil _
  | ok found => exact List.forall_mem_map.mpr h

end

/-- The devices that are found are held together with all that the vendor holds. -/
theorem accounts_enumerate (host : Host) (index : Nat) (mask : DeviceMask) (vendor : Vendor)
    (hrest : rest.Backed) :
    Run.Accounts host.drm (vendor.enumerate host index mask) (vendor.ledger + rest)
      fun result left =>
        match result with
        | .ok (outcome, _, after) =>
          left = after.ledger + (holdings (outcome.toOption.getD []) + rest) ∧
            ∀ device ∈ outcome.toOption.getD [], device.Anchored after.ledger
        | .error _ => Lost rest left := by
  cases vendor with
  | amd vendor =>
      have hgiven : (vendor.ledger + rest).Backed := vendor.contextless_ledger.backed.add hrest
      refine (vendor.accounts_enumerate host.pciDirectory mask hgiven).bind ?_ ?_
      · rintro ⟨outcome, left, after⟩ _ ⟨rfl, hafter⟩
        refine Run.accounts_pure ⟨?_, forall_of_outcome fun found _ own hown => by cases hown⟩
        rw [holdings_of_outcome]
        change Amd.ledgerOf _ + (vendor.ledger + rest) = after.ledger + (Amd.ledgerOf _ + rest)
        rw [hafter]
        exact add_left_comm _ _ _
      · rintro fault _ rfl
        exact vendor.contextless_ledger.lost
  | nvidia vendor =>
      refine Run.accounts_lift_bind (vendor.accounts_enumerate host.nvml mask) ?_
      rintro ⟨outcome, left, after⟩ _ ⟨rfl, hlibraries, hafter⟩
      refine Run.accounts_pure ⟨?_, forall_of_outcome ?_⟩
      · rw [holdings_of_outcome]
        change _ + (vendor.ledger + rest) = after.ledger + (_ + rest)
        rw [hafter]
        exact add_left_comm _ _ _
      · rintro device hdevice own ⟨⟩
        exact hlibraries device hdevice
  | simulated vendor =>
      rw [enumerate]
      rcases vendor.enumerate (host.station vendor.station) mask with ⟨outcome, left⟩
      refine Run.accounts_pure ⟨?_, forall_of_outcome fun found _ own hown => by cases hown⟩
      have hnone : ((outcome.toOption.getD []).map fun _ => (0 : Ledger)).sum = 0 := by
        refine List.sum_eq_zero fun ledger hledger => ?_
        obtain ⟨found, -, rfl⟩ := List.mem_map.mp hledger
        rfl
      rw [holdings_of_outcome]
      change 0 + rest = 0 + (((outcome.toOption.getD []).map fun _ => (0 : Ledger)).sum + rest)
      rw [hnone, zero_add, zero_add]

end Vendor

namespace Registry

/-- What the vendors of a registry hold. -/
def ledger (registry : Registry) : Ledger :=
  (registry.vendors.map Vendor.ledger).sum

theorem contextless_sum_vendors (vendors : List Vendor) :
    Contextless (vendors.map Vendor.ledger).sum := by
  refine contextless_sum fun ledger hledger => ?_
  obtain ⟨vendor, -, rfl⟩ := List.mem_map.mp hledger
  exact vendor.contextless_ledger

theorem accounts_shutdownVendor (index : Nat) (vendor : Vendor) :
    Run.Accounts driver (shutdownVendor index vendor) (vendor.ledger + rest)
      (Beside rest Vendor.ledger) := by
  rw [shutdownVendor]
  exact Run.neutral_lift_bind (Traced.neutral_emit rfl rfl rfl) fun _ => vendor.accounts_shutdown

section

variable (host : Host)

/-- A vendor without devices is shut down again. -/
theorem accounts_givenUp (index : Nat) (vendor : Vendor) (mask : DeviceMask) :
    Run.Accounts driver
      (do return ([], mask, ← shutdownVendor index vendor) :
        Run (List GpuDevice × DeviceMask × Vendor))
      (vendor.ledger + rest) fun result left =>
        match result with
        | .ok (devices, _, after) =>
          left = after.ledger + (holdings devices + rest) ∧
            ∀ device ∈ devices, device.Anchored after.ledger
        | .error _ => Lost rest left := by
  refine (accounts_shutdownVendor index vendor).bind ?_ fun _ _ hleft => hleft
  rintro after _ rfl
  exact Run.accounts_pure ⟨congrArg (after.ledger + ·) (zero_add rest).symm, List.forall_mem_nil _⟩

theorem accounts_startVendor (index : Nat) (vendor : Vendor) (mask : DeviceMask)
    (hrest : rest.Backed) :
    Run.Accounts host.drm (startVendor host index vendor mask) (vendor.ledger + rest)
      fun result left =>
        match result with
        | .ok (devices, _, after) =>
          left = after.ledger + (holdings devices + rest) ∧
            ∀ device ∈ devices, device.Anchored after.ledger
        | .error _ => Lost rest left := by
  have hevent : ∀ call, Traced.Neutral host.drm (emit (.vendor index call)) :=
    fun _ => Traced.neutral_emit rfl rfl rfl
  rw [startVendor]
  refine Run.neutral_lift_bind (hevent _) fun _ => ?_
  refine (vendor.accounts_init host).bind ?_ fun _ _ hleft => hleft
  rintro ⟨outcome, started⟩ _ rfl
  cases outcome with
  | error failure =>
      exact Run.neutral_lift_bind (Traced.neutral_log _ _ _) fun _ => accounts_givenUp _ _ _
  | ok _ =>
      refine Run.neutral_lift_bind (hevent _) fun _ => ?_
      refine (started.accounts_enumerate host index mask hrest).bind ?_ fun _ _ hleft => hleft
      rintro ⟨outcome, left, after⟩ _ ⟨rfl, hanchored⟩
      cases outcome with
      | error failure =>
          refine Run.neutral_lift_bind (Traced.neutral_log _ _ _) fun _ => ?_
          change Run.Accounts host.drm _ (after.ledger + (0 + rest)) _
          rw [zero_add]
          exact accounts_givenUp _ _ _
      | ok found =>
          cases found with
          | nil =>
              refine Run.neutral_lift_bind (Traced.neutral_log _ _ _) fun _ => ?_
              change Run.Accounts host.drm _ (after.ledger + (0 + rest)) _
              rw [zero_add]
              exact accounts_givenUp _ _ _
          | cons device found =>
              exact Run.neutral_lift_bind (Traced.neutral_log _ _ _) fun _ =>
                Run.accounts_pure ⟨rfl, hanchored⟩

/-- The devices of the vendors before are given up if a vendor faults. What the later vendors hold
is not touched. -/
theorem accounts_startNext (index : Nat) (vendor : Vendor) (mask : DeviceMask)
    {found : List GpuDevice} {later : Ledger} (hrest : rest.Backed) (hlater : later.Contextless)
    (hanchored : ∀ device ∈ found, device.Anchored rest) :
    Run.Accounts host.drm (onFault (startVendor host index vendor mask) (releaseDevices found))
      (vendor.ledger + (holdings found + (later + rest))) fun result left =>
        match result with
        | .ok (devices, _, after) =>
          left = after.ledger + (holdings devices + (holdings found + (later + rest))) ∧
            ∀ device ∈ devices, device.Anchored after.ledger
        | .error _ => Lost rest left := by
  have hkept : Ledger.Backed (holdings found + (later + rest)) :=
    (backed_holdings found).add (hlater.backed.add hrest)
  refine (accounts_startVendor host index vendor mask hkept).onFault (fun _ _ hleft => hleft) ?_
  -- contexts are backed by what their devices hold, whatever else was lost with the fault
  rintro fault _ ⟨lost, hlost, rfl⟩
  have hgiven : lost + (holdings found + (later + rest)) =
      holdings found + (lost + later + rest) := by abel
  have hleft : Ledger.Backed (lost + later + rest) := (hlost.add hlater).backed.add hrest
  rw [hgiven]
  refine (accounts_releaseDevices hleft fun device hdevice =>
    (hanchored device hdevice).add _).mono ?_
  rintro _ _ ⟨rfl, -⟩
  exact (hlost.add hlater).lost

/-- The vendors that have given devices still hold the libraries of these when a later vendor
faults. -/
theorem accounts_startFrom (index : Nat) (vendors : List Vendor) (mask : DeviceMask)
    (found : List GpuDevice) (hrest : rest.Backed)
    (hanchored : ∀ device ∈ found, device.Anchored rest)
    (hgiven : given = (vendors.map Vendor.ledger).sum + holdings found + rest) :
    Run.Accounts host.drm (startFrom host index vendors mask found) given
      (Beside rest fun (started, devices) =>
        (started.map Vendor.ledger).sum + holdings devices) := by
  induction vendors generalizing index mask found given rest with
  | nil => exact Run.accounts_pure hgiven
  | cons vendor vendors ih =>
      let later := (vendors.map Vendor.ledger).sum
      have hgiven : given = vendor.ledger + (holdings found + (later + rest)) := by
        rw [hgiven, List.map_cons, List.sum_cons]
        abel
      rw [startFrom, hgiven]
      refine (accounts_startNext host index vendor mask hrest (contextless_sum_vendors vendors)
        hanchored).bind ?_ fun _ _ hleft => hleft
      rintro ⟨devices, left, after⟩ _ ⟨rfl, hdevices⟩
      have hboth : ∀ device ∈ found ++ devices, device.Anchored (after.ledger + rest) := by
        intro device hdevice
        rcases List.mem_append.mp hdevice with hdevice | hdevice
        · exact (hanchored device hdevice).add _
        · rw [add_comm]
          exact (hdevices device hdevice).add _
      refine (ih (index + 1) left (found ++ devices)
        (after.contextless_ledger.backed.add hrest) hboth ?_).bind ?_ ?_
      · rw [holdings_append]
        change _ = later + _ + _
        abel
      · rintro ⟨started, listed⟩ _ rfl
        apply Run.accounts_pure
        dsimp only [Beside]
        rw [List.map_cons, List.sum_cons]
        abel
      · rintro fault _ hlost
        exact hlost.add after.contextless_ledger

theorem accounts_start (registry : Registry) (mask : DeviceMask) (hrest : rest.Backed) :
    Run.Accounts host.drm (registry.start host mask) (registry.ledger + rest)
      (Beside rest fun (after, devices) => after.ledger + holdings devices) := by
  have hgiven : registry.ledger + rest = registry.ledger + holdings [] + rest :=
    congrArg (· + rest) (add_zero registry.ledger).symm
  rw [start]
  refine (accounts_startFrom host 0 registry.vendors mask [] hrest (List.forall_mem_nil _)
    hgiven).bind ?_ fun _ _ hleft => hleft
  rintro ⟨started, devices⟩ _ rfl
  exact Run.accounts_pure rfl

end

theorem accounts_shutdownFrom (index : Nat) (vendors : List Vendor) :
    Run.Accounts driver (shutdownFrom index vendors) ((vendors.map Vendor.ledger).sum + rest)
      (Beside rest fun after => (after.map Vendor.ledger).sum) := by
  induction vendors generalizing index rest with
  | nil => exact Run.accounts_pure rfl
  | cons vendor vendors ih =>
      have hlater := contextless_sum_vendors vendors
      rw [shutdownFrom, List.map_cons, List.sum_cons, add_assoc]
      refine (accounts_shutdownVendor index vendor).bind ?_ fun _ _ hleft => hleft.add hlater
      rintro after _ rfl
      rw [add_left_comm]
      refine (ih (index + 1)).bind ?_ fun _ _ hleft => hleft.add after.contextless_ledger
      rintro others _ rfl
      apply Run.accounts_pure
      dsimp only [Beside]
      rw [List.map_cons, List.sum_cons]
      abel

/-- The vendors are shut down, whether or not there are devices left. -/
theorem accounts_shutdown (registry : Registry) :
    Run.Accounts driver (registry.shutdown []) (registry.ledger + rest) (Beside rest ledger) := by
  rw [shutdown]
  refine (accounts_shutdownFrom 0 registry.vendors).bind ?_ fun _ _ hleft => hleft
  rintro after _ rfl
  exact Run.accounts_pure rfl

end Registry

end GpuTelemetry
