import GpuTelemetry.Proofs.Vendor.Enumeration

/-!
# Vendors that never fault

A vendor may fail to be initialized or to list its devices, and its devices may
fail to open. As long as none of its functions faults, neither does a start, nor
does giving everything up, which can be done again and again. A vendor that was
shut down once can always be shut down again.
-/

namespace GpuTelemetry

namespace Run

variable {α β : Type}

/-- The computation ends without a fault, with a result that has a property. -/
def Returns (body : Run α) (P : α → Prop) : Prop :=
  Ensures body fun result => ∃ a, result = .ok a ∧ P a

theorem returns_pure {P : α → Prop} {a : α} (h : P a) : Returns (pure a) P :=
  ensures_pure ⟨a, rfl, h⟩

theorem Returns.bind {P : α → Prop} {Q : β → Prop} {body : Run α} {next : α → Run β}
    (h : Returns body P) (hnext : ∀ a, P a → Returns (next a) Q) : Returns (body >>= next) Q := by
  refine Ensures.bind h ?_ ?_
  · rintro a ⟨b, hb, hp⟩
    cases hb
    exact hnext a hp
  · rintro fault ⟨b, hb, -⟩
    cases hb

theorem returns_unit_bind {Q : β → Prop} {body : Traced Unit} {next : Unit → Run β}
    (hnext : Returns (next ()) Q) : Returns (monadLift body >>= next) Q :=
  ensures_unit_bind hnext

theorem Returns.onFault {P : α → Prop} {body : Run α} (h : Returns body P) (cleanup : Run Unit) :
    Returns (onFault body cleanup) P :=
  Ensures.onFault h cleanup

theorem Returns.returnsOnly {P : α → Prop} {body : Run α} (h : Returns body P) :
    ReturnsOnly body P := by
  refine h.mono ?_
  rintro _ ⟨a, rfl, ha⟩ _ ⟨⟩
  exact ha

theorem ReturnsOnly.returns {P : α → Prop} {body : Run α} (h : ReturnsOnly body P)
    (hok : Ensures body (·.isOk)) : Returns body P := by
  intro trace
  obtain ⟨a, ha⟩ := Fault.exists_of_isOk (hok trace)
  exact ⟨a, ha, h trace a ha⟩

theorem Returns.isOk {P : α → Prop} {body : Run α} (h : Returns body P) :
    Ensures body (·.isOk) := by
  refine h.mono ?_
  rintro _ ⟨a, rfl, -⟩
  rfl

end Run

/-- Giving up the device never faults. -/
def Device.Yields (device : GpuDevice) : Prop :=
  Run.Returns device.release fun _ => True

namespace Vendor

/-- A vendor that can be shut down again and again. -/
def Lasting (vendor : Vendor) : Prop :=
  ∃ Good : Vendor → Prop, Good vendor ∧ ∀ v, Good v → Run.Returns v.shutdown Good

/-- A vendor whose functions end without a fault, whether or not they fail, as does giving up its
devices. -/
def Endures (host : Host) (vendor : Vendor) : Prop :=
  Run.Returns (vendor.init host) fun started =>
    started.2.Lasting ∧ (started.1 = .ok () → ∀ index mask,
      Run.Returns (started.2.enumerate host index mask) fun listed =>
        listed.2.2.Lasting ∧ ∀ device ∈ listed.1.toOption.getD [], device.Yields)

/-- A vendor that can be shut down again and again if its functions return, as can its devices be
given up. -/
def Relinquishes (host : Host) (vendor : Vendor) : Prop :=
  Run.ReturnsOnly (vendor.init host) fun started =>
    started.2.Lasting ∧ (started.1 = .ok () → ∀ index mask,
      Run.ReturnsOnly (started.2.enumerate host index mask) fun listed =>
        listed.2.2.Lasting ∧ ∀ device ∈ listed.1.toOption.getD [], device.Yields)

section

variable {host : Host} {vendor : Vendor}

theorem Endures.relinquishes (h : vendor.Endures host) : vendor.Relinquishes host := by
  refine (Run.Returns.returnsOnly h).mono ?_
  rintro started ⟨hlasting, henumerate⟩
  refine ⟨hlasting, fun hstarted index mask => ?_⟩
  exact (henumerate hstarted index mask).returnsOnly

theorem Lasting.isOk_shutdown (h : vendor.Lasting) : Run.Ensures vendor.shutdown (·.isOk) := by
  obtain ⟨Good, hgood, hstep⟩ := h
  exact (hstep vendor hgood).isOk

theorem Endures.returns (h : vendor.Endures host) : vendor.Returns host := by
  have hinit : Run.Returns (vendor.init host) _ := h
  refine Run.Ensures.mono hinit ?_
  rintro _ ⟨⟨outcome, started⟩, rfl, hlasting, henumerate⟩
  refine ⟨outcome, started, rfl, hlasting.isOk_shutdown, fun hstarted index mask => ?_⟩
  refine (henumerate hstarted index mask).mono ?_
  rintro _ ⟨⟨found, left, last⟩, rfl, hlast, -⟩
  exact ⟨found, left, last, rfl, hlast.isOk_shutdown⟩

end

theorem Lasting.shutdown {vendor : Vendor} (h : vendor.Lasting) (index : Nat) :
    Run.Returns (Registry.shutdownVendor index vendor) Lasting := by
  obtain ⟨Good, hgood, hstep⟩ := h
  rw [Registry.shutdownVendor]
  apply Run.returns_unit_bind
  refine (hstep vendor hgood).mono ?_
  rintro _ ⟨after, rfl, hafter⟩
  exact ⟨after, rfl, Good, hafter, hstep⟩

/-! ### The kinds of vendors -/

theorem lasting_amd (vendor : Amd.Vendor) : (amd vendor).Lasting := by
  refine ⟨fun v => ∃ vendor, v = amd vendor, ⟨vendor, rfl⟩, ?_⟩
  rintro _ ⟨vendor, rfl⟩ trace
  exact ⟨_, rfl, _, rfl⟩

theorem lasting_simulated (vendor : Simulated.Vendor) : (simulated vendor).Lasting := by
  refine ⟨(· = simulated vendor), rfl, ?_⟩
  rintro _ rfl
  exact Run.returns_pure rfl

end Vendor

theorem returns_giveBack {resource : Resource} (h : resource.close = .ok ()) :
    Run.Returns (giveBack resource) fun _ => True := by
  rw [giveBack]
  apply Run.returns_unit_bind
  refine Run.ensures_get_bind fun trace => ?_
  split
  · exact Run.ensures_ofExcept ⟨(), h, trivial⟩
  · exact Run.returns_pure trivial

/-- The library that an NVIDIA vendor has loaded, if it has, can be shut down. -/
def Nvidia.Vendor.Closes (vendor : Nvidia.Vendor) : Prop :=
  ∀ library, vendor.library = some library → library.resource.close = .ok ()

theorem Nvidia.Vendor.returns_giveBackLibrary {vendor : Nvidia.Vendor} (h : vendor.Closes) :
    Run.Returns vendor.giveBackLibrary fun _ => True := by
  rw [giveBackLibrary]
  cases hlibrary : vendor.library with
  | none => exact Run.returns_pure trivial
  | some library => exact returns_giveBack (h library hlibrary)

theorem Nvidia.ensures_openSelected_library (library : Nvidia.Library) (driver : Nvml.Driver)
    (count index : Nat) (mask : DeviceMask) :
    Traced.Ensures (openSelected library driver count index mask) fun result =>
      ∀ device ∈ result.1, device.library = library := by
  induction count generalizing index mask with
  | zero => exact Traced.ensures_pure (List.forall_mem_nil _)
  | succ count ih =>
      rw [openSelected]
      split
      · exact Traced.ensures_unit_bind (ih _ _)
      split
      · apply Traced.ensures_unit_bind
        refine (ih _ _).bind ?_
        rintro ⟨devices, left⟩ hdevices
        exact Traced.ensures_pure (List.forall_mem_cons.mpr ⟨rfl, hdevices⟩)
      · exact Traced.ensures_unit_bind (ih _ _)

/-- All devices of a vendor hold the library that the vendor holds. -/
theorem Nvidia.Vendor.ensures_enumerate_library (driver : Nvml.Driver) (vendor : Nvidia.Vendor)
    (mask : DeviceMask) :
    Traced.Ensures (vendor.enumerate driver mask) fun result =>
      result.2.2.library = vendor.library ∧
        ∀ device ∈ result.1.toOption.getD [], vendor.library = some device.library := by
  rw [enumerate]
  split
  · exact Traced.ensures_pure ⟨rfl, List.forall_mem_nil _⟩
  next library hlibrary =>
    split
    · exact Traced.ensures_pure ⟨rfl, List.forall_mem_nil _⟩
    next count hcount =>
      refine (ensures_openSelected_library library driver _ 0 mask).bind ?_
      rintro ⟨devices, left⟩ hdevices
      refine Traced.ensures_pure ⟨rfl, fun device hdevice => ?_⟩
      rw [hlibrary, hdevices device hdevice]

namespace Vendor

theorem lasting_nvidia {vendor : Nvidia.Vendor} (h : vendor.Closes) : (nvidia vendor).Lasting := by
  refine ⟨fun v => ∃ vendor : Nvidia.Vendor, v = nvidia vendor ∧ vendor.Closes,
    ⟨vendor, rfl, h⟩, ?_⟩
  rintro _ ⟨vendor, rfl, hcloses⟩
  have hshutdown : Run.Returns vendor.shutdown Nvidia.Vendor.Closes := by
    rw [Nvidia.Vendor.shutdown]
    refine (Nvidia.Vendor.returns_giveBackLibrary hcloses).bind fun _ _ => ?_
    split
    · exact Run.returns_pure nofun
    · exact Run.returns_pure hcloses
  refine hshutdown.bind fun last hlast => ?_
  exact Run.returns_pure ⟨last, rfl, hlast⟩

theorem endures_simulated (host : Host) (vendor : Simulated.Vendor) :
    Endures host (.simulated vendor) := by
  refine Run.returns_pure ⟨lasting_simulated vendor, fun _ index mask => ?_⟩
  refine Run.returns_pure ⟨lasting_simulated vendor, ?_⟩
  intro device hdevice
  dsimp only [Simulated.Vendor.enumerate] at hdevice
  cases henumerate : (host.station vendor.station).enumerationFailure with
  | some detail =>
      rw [henumerate] at hdevice
      cases hdevice
  | none =>
      rw [henumerate] at hdevice
      obtain ⟨found, -, rfl⟩ := List.mem_map.mp hdevice
      rw [Device.Yields, Device.release]
      exact Run.returns_unit_bind (Run.returns_pure trivial)

theorem relinquishes_amd (host : Host) (vendor : Amd.Vendor) : Relinquishes host (.amd vendor) := by
  have hyields (index : Nat) (found : Amd.Found) : Device.Yields
      { vendor := index
        fdinfo := some { address := found.address }
        backend := .amd (String.ofList found.address) found.device } :=
    Run.returns_unit_bind fun _ => ⟨(), rfl, trivial⟩
  refine Run.returnsOnly_bind fun started => Run.returnsOnly_pure ⟨lasting_amd _, ?_⟩
  intro _ index mask
  refine Run.returnsOnly_bind fun listed => Run.returnsOnly_pure ⟨lasting_amd _, ?_⟩
  obtain ⟨outcome, left, last⟩ := listed
  cases outcome with
  | error failure => exact List.forall_mem_nil _
  | ok found =>
      intro device hdevice
      obtain ⟨opened, -, rfl⟩ := List.mem_map.mp hdevice
      exact hyields index opened

theorem relinquishes_nvidia {host : Host} {vendor : Nvidia.Vendor} (hcloses : vendor.Closes)
    (hload : ∀ library, vendor.load host.libraries host.nvml = .ok library →
      library.resource.close = .ok ()) : Relinquishes host (.nvidia vendor) := by
  have hinit : Run.ReturnsOnly (vendor.init host.libraries host.nvml) fun started =>
      started.2.Closes := by
    rw [Nvidia.Vendor.init]
    split
    · exact Run.returnsOnly_pure hcloses
    next library hlibrary =>
      apply Run.returnsOnly_unit_bind
      refine Run.returnsOnly_bind fun _ => Run.returnsOnly_pure ?_
      rintro _ ⟨⟩
      exact hload library hlibrary
  refine hinit.bind ?_
  rintro ⟨outcome, started⟩ hstarted
  refine Run.returnsOnly_pure ⟨lasting_nvidia hstarted, ?_⟩
  intro _ index mask
  refine Run.returnsOnly_lift_bind (Nvidia.Vendor.ensures_enumerate_library host.nvml started mask) ?_
  rintro ⟨outcome, left, last⟩ ⟨hlibrary, hdevices⟩
  have hlast : last.Closes := fun library h => hstarted library (hlibrary ▸ h)
  refine Run.returnsOnly_pure ⟨lasting_nvidia hlast, ?_⟩
  cases outcome with
  | error failure => exact List.forall_mem_nil _
  | ok found =>
      intro device hdevice
      obtain ⟨opened, hopened, rfl⟩ := List.mem_map.mp hdevice
      have hclose := hstarted opened.library (hdevices opened hopened)
      exact Run.returns_unit_bind (returns_giveBack hclose)

/-- A vendor that was shut down can be shut down again. -/
theorem returnsOnly_shutdown (vendor : Vendor) :
    Run.ReturnsOnly vendor.shutdown fun last => last.Lasting ∧ last.name = vendor.name := by
  cases vendor with
  | amd vendor =>
      refine Run.returnsOnly_bind fun last => ?_
      exact Run.returnsOnly_pure ⟨lasting_amd last, rfl⟩
  | simulated vendor => exact Run.returnsOnly_pure ⟨lasting_simulated vendor, rfl⟩
  | nvidia vendor =>
      have hshutdown : Run.ReturnsOnly vendor.shutdown Nvidia.Vendor.Closes := by
        rw [Nvidia.Vendor.shutdown]
        refine Run.returnsOnly_bind fun _ => ?_
        split
        · exact Run.returnsOnly_pure nofun
        next hnone =>
          apply Run.returnsOnly_pure
          intro library hlibrary
          rw [hlibrary] at hnone
          exact absurd rfl hnone
      refine hshutdown.bind fun last hlast => ?_
      exact Run.returnsOnly_pure ⟨lasting_nvidia hlast, rfl⟩

theorem returnsOnly_init_name (host : Host) (vendor : Vendor) :
    Run.ReturnsOnly (vendor.init host) fun started => started.2.name = vendor.name := by
  cases vendor with
  | amd vendor => exact Run.returnsOnly_bind fun _ => Run.returnsOnly_pure rfl
  | nvidia vendor => exact Run.returnsOnly_bind fun _ => Run.returnsOnly_pure rfl
  | simulated vendor => exact Run.returnsOnly_pure rfl

theorem returnsOnly_enumerate_name (host : Host) (vendor : Vendor) (index : Nat)
    (mask : DeviceMask) :
    Run.ReturnsOnly (vendor.enumerate host index mask) fun listed =>
      listed.2.2.name = vendor.name := by
  cases vendor with
  | amd vendor => exact Run.returnsOnly_bind fun _ => Run.returnsOnly_pure rfl
  | nvidia vendor => exact Run.returnsOnly_bind fun _ => Run.returnsOnly_pure rfl
  | simulated vendor => exact Run.returnsOnly_pure rfl

end Vendor

theorem returns_releaseDevices {devices : List GpuDevice} (h : ∀ device ∈ devices, device.Yields) :
    Run.Returns (releaseDevices devices) fun _ => True := by
  induction devices with
  | nil => exact Run.returns_pure trivial
  | cons device devices ih =>
      obtain ⟨hdevice, hdevices⟩ := List.forall_mem_cons.mp h
      refine Run.Returns.bind hdevice ?_
      intro _ _
      exact ih hdevices

namespace Registry

variable (host : Host)

/-- What has become of some vendors at their start, which gave these devices. -/
structure Settles (vendors : List Vendor) (own : List GpuDevice) (lasts : List Vendor) :
    Prop where
  names : lasts.map Vendor.name = vendors.map Vendor.name
  lasting_of_no_devices : own = [] → ∀ last ∈ lasts, last.Lasting
  lasting : (∀ vendor ∈ vendors, vendor.Relinquishes host) →
    (∀ last ∈ lasts, last.Lasting) ∧ ∀ device ∈ own, device.Yields

variable {host} in
theorem Settles.append {vendors others : List Vendor} {own more : List GpuDevice}
    {lasts otherLasts : List Vendor} (h : Settles host vendors own lasts)
    (hothers : Settles host others more otherLasts) :
    Settles host (vendors ++ others) (own ++ more) (lasts ++ otherLasts) := by
  constructor
  · rw [List.map_append, List.map_append, h.names, hothers.names]
  · intro hnone
    obtain ⟨hown, hmore⟩ := List.append_eq_nil_iff.mp hnone
    exact List.forall_mem_append.mpr
      ⟨h.lasting_of_no_devices hown, hothers.lasting_of_no_devices hmore⟩
  · intro hall
    obtain ⟨hvendors, hothersAll⟩ := List.forall_mem_append.mp hall
    obtain ⟨hlasts, hown⟩ := h.lasting hvendors
    obtain ⟨hotherLasts, hmore⟩ := hothers.lasting hothersAll
    exact ⟨List.forall_mem_append.mpr ⟨hlasts, hotherLasts⟩,
      List.forall_mem_append.mpr ⟨hown, hmore⟩⟩

theorem settles_givenUp {vendor last : Vendor} (hname : last.name = vendor.name) (index : Nat)
    (left : DeviceMask) :
    Run.ReturnsOnly
      (do return ([], left, ← shutdownVendor index last) :
        Run (List GpuDevice × DeviceMask × Vendor))
      fun result => Settles host [vendor] result.1 [result.2.2] := by
  have hshutdown : Run.ReturnsOnly (shutdownVendor index last) _ :=
    Run.returnsOnly_unit_bind last.returnsOnly_shutdown
  refine hshutdown.bind ?_
  rintro after ⟨hlasting, hafter⟩
  have hlasts : ∀ other ∈ [after], other.Lasting := List.forall_mem_singleton.mpr hlasting
  apply Run.returnsOnly_pure
  refine ⟨?_, fun _ => hlasts, fun _ => ⟨hlasts, List.forall_mem_nil _⟩⟩
  rw [List.map_singleton, List.map_singleton, hafter, hname]

theorem settles_startVendor (vendor : Vendor) (index : Nat) (mask : DeviceMask) :
    Run.ReturnsOnly (startVendor host index vendor mask) fun result =>
      Settles host [vendor] result.1 [result.2.2] := by
  rw [startVendor]
  apply Run.returnsOnly_unit_bind
  have hinit : Run.ReturnsOnly (vendor.init host) fun started =>
      vendor.Relinquishes host → _ := fun trace started hstarted h => h trace started hstarted
  refine ((vendor.returnsOnly_init_name host).and hinit).bind ?_
  rintro ⟨outcome, started⟩ ⟨hname, hstarted⟩
  cases outcome with
  | error failure => exact Run.returnsOnly_unit_bind (settles_givenUp host hname index mask)
  | ok _ =>
      apply Run.returnsOnly_unit_bind
      have henumerate : Run.ReturnsOnly (started.enumerate host index mask) fun listed =>
          vendor.Relinquishes host → _ :=
        fun trace listed hlisted h => (hstarted h).2 rfl index mask trace listed hlisted
      refine ((started.returnsOnly_enumerate_name host index mask).and henumerate).bind ?_
      rintro ⟨outcome, left, last⟩ ⟨hlast, hlisted⟩
      have hgiven := settles_givenUp host (hlast.trans hname) index left
      cases outcome with
      | error failure => exact Run.returnsOnly_unit_bind hgiven
      | ok found =>
          cases found with
          | nil => exact Run.returnsOnly_unit_bind hgiven
          | cons device found =>
              apply Run.returnsOnly_unit_bind
              apply Run.returnsOnly_pure
              refine ⟨?_, fun hnone => absurd hnone (List.cons_ne_nil _ _), fun h => ?_⟩
              · exact congrArg (fun name => [name]) (hlast.trans hname)
              · obtain ⟨hlasting, hdevices⟩ := hlisted (h vendor List.mem_cons_self)
                exact ⟨List.forall_mem_singleton.mpr hlasting, hdevices⟩

theorem settles_startFrom (vendors : List Vendor) (index : Nat) (mask : DeviceMask)
    (found : List GpuDevice) :
    Run.ReturnsOnly (startFrom host index vendors mask found) fun result =>
      ∃ own, result.2 = found ++ own ∧ Settles host vendors own result.1 := by
  induction vendors generalizing index mask found with
  | nil =>
      apply Run.returnsOnly_pure
      refine ⟨[], (List.append_nil found).symm, rfl, ?_, ?_⟩
      · exact fun _ => List.forall_mem_nil _
      · exact fun _ => ⟨List.forall_mem_nil _, List.forall_mem_nil _⟩
  | cons vendor vendors ih =>
      rw [startFrom]
      refine ((settles_startVendor host vendor index mask).onFault _).bind ?_
      rintro ⟨own, left, last⟩ hvendor
      refine (ih (index + 1) left (found ++ own)).bind ?_
      rintro ⟨started, devices⟩ ⟨more, rfl, hvendors⟩
      exact Run.returnsOnly_pure
        ⟨own ++ more, List.append_assoc found own more, hvendor.append hvendors⟩

theorem settles_start (registry : Registry) (mask : DeviceMask) :
    Run.ReturnsOnly (registry.start host mask) fun result =>
      Settles host registry.vendors result.2 result.1.vendors := by
  refine (settles_startFrom host registry.vendors 0 mask []).bind ?_
  rintro ⟨started, devices⟩ ⟨own, rfl, hsettles⟩
  exact Run.returnsOnly_pure hsettles

theorem returns_start {registry : Registry}
    (h : ∀ vendor ∈ registry.vendors, vendor.Endures host) (mask : DeviceMask) :
    Run.Returns (registry.start host mask) fun result =>
      (∀ vendor ∈ result.1.vendors, vendor.Lasting) ∧ ∀ device ∈ result.2, device.Yields := by
  have hrelinquishes : ∀ vendor ∈ registry.vendors, vendor.Relinquishes host :=
    fun vendor hvendor => (h vendor hvendor).relinquishes
  have hok : Run.Ensures (registry.start host mask) (·.isOk) := by
    have hreturns := fun vendor hvendor => (h vendor hvendor).returns
    refine (isOk_startFrom host registry.vendors hreturns 0 mask []).bind ?_ fun _ hfault => hfault
    rintro ⟨started, devices⟩ -
    exact Run.ensures_pure rfl
  refine Run.ReturnsOnly.returns ?_ hok
  exact (settles_start host registry mask).mono fun _ hsettles => hsettles.lasting hrelinquishes

theorem returns_shutdownFrom {vendors : List Vendor} (h : ∀ vendor ∈ vendors, vendor.Lasting)
    (index : Nat) :
    Run.Returns (shutdownFrom index vendors) fun after => ∀ vendor ∈ after, vendor.Lasting := by
  induction vendors generalizing index with
  | nil => exact Run.returns_pure (List.forall_mem_nil _)
  | cons vendor vendors ih =>
      obtain ⟨hvendor, hvendors⟩ := List.forall_mem_cons.mp h
      rw [shutdownFrom]
      refine (hvendor.shutdown index).bind ?_
      intro last hlast
      refine (ih hvendors (index + 1)).bind ?_
      intro after hafter
      exact Run.returns_pure (List.forall_mem_cons.mpr ⟨hlast, hafter⟩)

theorem returns_shutdown {registry : Registry} {devices : List GpuDevice}
    (hvendors : ∀ vendor ∈ registry.vendors, vendor.Lasting)
    (hdevices : ∀ device ∈ devices, device.Yields) :
    Run.Returns (registry.shutdown devices) fun after =>
      ∀ vendor ∈ after.vendors, vendor.Lasting := by
  rw [shutdown]
  refine (returns_releaseDevices hdevices).bind ?_
  intro _ _
  refine (returns_shutdownFrom hvendors 0).bind ?_
  intro after hafter
  exact Run.returns_pure hafter

end Registry

end GpuTelemetry
