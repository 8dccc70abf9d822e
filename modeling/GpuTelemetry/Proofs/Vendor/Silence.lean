import GpuTelemetry.Proofs.Lifecycle
import GpuTelemetry.Vendor.Basic

/-!
# Vendors leave no lifecycle events of their own

What a vendor does when it is initialized, lists its devices or is shut down
concerns logs, driver calls and resources. Only the registry records that it was
called, and that a device was given up, and only the command has output.
-/

namespace GpuTelemetry

namespace Drm

theorem silent_loadFirst (directory : Platform.LibraryDirectory) (failure : Failure)
    (names : List String) : Traced.Silent (loadFirst directory failure names) := by
  induction names generalizing failure with
  | nil => exact Traced.keeps_pure _
  | cons name names ih =>
      rw [loadFirst]
      split
      · exact (Traced.silent_log _ _ _).bind fun _ => Traced.keeps_pure _
      · exact ih _

section

variable (directory : Platform.LibraryDirectory) (library : Platform.SharedLibrary)

theorem silent_resolve (label name : String) :
    Traced.Silent (resolve directory library label name) := by
  rw [resolve]
  split
  · exact Traced.keeps_pure _
  · exact (Traced.silent_log _ _ _).bind fun _ => Traced.keeps_pure _

theorem silent_resolveAll (label : String) (names : List String) :
    Traced.Silent (resolveAll directory library label names) := by
  induction names with
  | nil => exact Traced.keeps_pure _
  | cons name names ih =>
      rw [resolveAll]
      refine (silent_resolve directory library label name).bind fun outcome => ?_
      cases outcome with
      | ok _ => exact ih
      | error failure => exact Traced.keeps_pure _

theorem silent_resolveListing : Traced.Silent (resolveListing directory library) := by
  rw [resolveListing]
  refine (silent_resolve directory library _ _).bind fun outcome => ?_
  cases outcome with
  | ok _ => exact Traced.keeps_pure _
  | error _ =>
      refine (silent_resolve directory library _ _).bind fun outcome => ?_
      cases outcome <;> exact Traced.keeps_pure _

end

theorem Library.silent_load (directory : Platform.LibraryDirectory) :
    Traced.Silent (Library.load directory) := by
  have hgiven : ∀ failure : Failure, Traced.Silent (do
      emit (.released .drmLibrary)
      return .error failure : Traced (Except Failure Library)) :=
    fun failure => (Traced.keeps_emit rfl).bind fun _ => Traced.keeps_pure _
  rw [Library.load]
  refine (silent_loadFirst directory _ _).bind fun outcome => ?_
  cases outcome with
  | error failure => exact Traced.keeps_pure _
  | ok library =>
      refine (Traced.keeps_emit rfl).bind fun _ => ?_
      refine (silent_resolveListing directory library).bind fun outcome => ?_
      cases outcome with
      | error failure => exact hgiven failure
      | ok modern =>
          refine (silent_resolveAll directory library _ _).bind fun outcome => ?_
          cases outcome with
          | error failure => exact hgiven failure
          | ok _ => exact Traced.keeps_pure _

theorem silent_loadContextLibrary (directory : Platform.LibraryDirectory) :
    Traced.Silent (loadContextLibrary directory) := by
  rw [loadContextLibrary]
  refine (silent_loadFirst directory _ _).bind fun outcome => ?_
  cases outcome with
  | error failure => exact Traced.keeps_pure _
  | ok library =>
      refine (Traced.keeps_emit rfl).bind fun _ => ?_
      refine (silent_resolveAll directory library _ _).bind fun outcome => ?_
      cases outcome with
      | error failure => exact (Traced.keeps_emit rfl).bind fun _ => Traced.keeps_pure _
      | ok _ => exact Traced.keeps_pure _

theorem silent_statusText_bind {α : Type} {next : String → Run α} (status : Int32)
    (hnext : ∀ text, Run.Silent (next text)) :
    Run.Silent (monadLift (statusText status) >>= next) :=
  (Run.keeps_ofExcept _).bind hnext

theorem Library.silent_pciDevices (library : Library) (driver : Driver) :
    Run.Silent (library.pciDevices driver) := by
  rw [Library.pciDevices]
  dsimp only
  refine Run.keeps_lift_bind (Traced.keeps_emit rfl) fun _ => ?_
  split
  · exact silent_statusText_bind _ fun _ => Run.keeps_pure _
  split
  · exact Run.keeps_pure _
  refine Run.keeps_lift_bind (Traced.keeps_emit rfl) fun _ => ?_
  split
  · exact silent_statusText_bind _ fun _ => Run.keeps_pure _
  · exact Run.keeps_lift_bind (Traced.keeps_emit rfl) fun _ => Run.keeps_pure _

end Drm

namespace Amd

theorem silent_openNode (index : Nat) (nodes : List Drm.DeviceNode) :
    Traced.Silent (openNode index nodes) := by
  induction nodes with
  | nil => exact Traced.keeps_pure _
  | cons node nodes ih =>
      rw [openNode]
      split
      · exact ih
      split
      · exact (Traced.keeps_emit rfl).bind fun _ => Traced.keeps_pure _
      · exact (Traced.silent_log _ _ _).bind fun _ => ih

theorem silent_driverVersion (driver : Drm.Driver) (index : Nat) :
    Traced.Silent (driverVersion driver index) := by
  rw [driverVersion]
  refine (Traced.keeps_emit rfl).bind fun _ => ?_
  split
  · exact Traced.keeps_pure _
  · exact (Traced.keeps_emit rfl).bind fun _ => Traced.keeps_pure _

theorem silent_authenticate (driver : Drm.Driver) (index : Nat) :
    Traced.Silent (authenticate driver index) := by
  rw [authenticate]
  refine (Traced.keeps_emit rfl).bind fun _ => ?_
  split
  · exact Traced.keeps_pure _
  refine (Traced.keeps_emit rfl).bind fun _ => ?_
  split
  · refine (Traced.keeps_emit rfl).bind fun _ => ?_
    split
    · exact Traced.silent_log _ _ _
    · exact Traced.keeps_pure _
  · exact Traced.silent_log _ _ _

theorem silent_openContext (driver : Drm.Driver) (index : Nat) :
    Run.Silent (openContext driver index) := by
  rw [openContext]
  dsimp only
  refine Run.keeps_lift_bind (Traced.keeps_emit rfl) fun _ => ?_
  split
  · exact Drm.silent_statusText_bind _ fun _ => Run.keeps_pure _
  · exact Run.keeps_lift_bind (Traced.silent_log _ _ _) fun _ => Run.keeps_pure _

theorem silent_attach (driver : Drm.Driver) (tree : Sysfs.FileTree) (contexts : Bool)
    (device : Drm.PciDevice) : Run.Silent (attach driver tree contexts device) := by
  rw [attach]
  refine Run.keeps_lift_bind (silent_driverVersion driver _) fun version => ?_
  split
  · exact Run.keeps_pure _
  split
  · exact Run.keeps_pure _
  refine Run.keeps_lift_bind (silent_authenticate driver _) fun _ => ?_
  split
  · exact Run.keeps_pure _
  refine (silent_openContext driver _).bind fun outcome => ?_
  split
  · exact Run.keeps_pure _
  refine Run.keeps_lift_bind (Traced.keeps_emit rfl) fun _ => ?_
  -- whether there are sensors is logged before the rest
  dsimp only
  split
  · refine Run.keeps_lift_bind (Traced.silent_log _ _ _) fun _ => ?_
    refine Run.keeps_lift_bind (Traced.silent_log _ _ _) fun _ => ?_
    exact Run.keeps_lift_bind (Traced.keeps_emit rfl) fun _ => Run.keeps_pure _
  · refine Run.keeps_lift_bind (Traced.silent_log _ _ _) fun _ => ?_
    exact Run.keeps_lift_bind (Traced.keeps_emit rfl) fun _ => Run.keeps_pure _

theorem silent_openDevice (driver : Drm.Driver) (tree : Sysfs.FileTree) (contexts : Bool)
    (device : Drm.PciDevice) : Run.Silent (openDevice driver tree contexts device) := by
  have hclose : Traced.Silent (emit (.released (.deviceNode device.index))) :=
    Traced.keeps_emit rfl
  rw [openDevice]
  refine Run.keeps_lift_bind (silent_openNode _ _) fun opened => ?_
  split
  · refine ((silent_attach driver tree contexts device).onFault (Run.keeps_lift hclose)).bind
      fun outcome => ?_
    split
    · exact Run.keeps_lift_bind hclose fun _ => Run.keeps_pure _
    · exact Run.keeps_pure _
  · exact Run.keeps_pure _

theorem Device.silent_release (device : Device) : Traced.Silent device.release := by
  rw [Device.release]
  refine (Traced.keeps_emit rfl).bind fun _ => ?_
  refine (Traced.keeps_emit rfl).bind fun _ => ?_
  exact (Traced.keeps_emit rfl).bind fun _ => Traced.keeps_emit rfl

theorem silent_openSelected (driver : Drm.Driver) (trees : String → Sysfs.FileTree)
    (contexts : Bool) (devices : List Drm.PciDevice) (mask : DeviceMask) (found : List Found) :
    Run.Silent (openSelected driver trees contexts devices mask found) := by
  induction devices generalizing mask found with
  | nil => exact Run.keeps_pure _
  | cons device devices ih =>
      have hreleased : Traced.Silent (releaseAll found) :=
        Traced.keeps_forM fun f => f.device.silent_release
      rw [openSelected]
      dsimp only
      split
      · exact Run.keeps_lift_bind (Traced.silent_log _ _ _) fun _ => ih _ _
      · refine ((silent_openDevice driver _ contexts device).onFault
          (Run.keeps_lift hreleased)).bind fun outcome => ?_
        split
        · exact ih _ _
        · exact Run.keeps_lift_bind (Traced.silent_log _ _ _) fun _ => ih _ _

namespace Vendor

theorem silent_init (directory : Platform.LibraryDirectory) (vendor : Vendor) :
    Traced.Silent (vendor.init directory) := by
  have hloaded : ∀ (library : Drm.Library) (contexts : Bool), Traced.Silent (do
      if vendor.library.isSome then emit (.released .drmLibrary)
      return (.ok (), { library := some library, contexts, lastError := none }) :
        Traced (Except Failure Unit × Vendor)) := by
    intro library contexts
    split
    · exact (Traced.keeps_emit rfl).bind fun _ => Traced.keeps_pure _
    · exact Traced.keeps_pure _
  rw [init]
  refine (Drm.Library.silent_load directory).bind fun outcome => ?_
  split
  · exact Traced.keeps_pure _
  refine (Drm.silent_loadContextLibrary directory).bind fun outcome => ?_
  cases outcome with
  | error failure =>
      refine (Traced.silent_log _ _ _).bind fun _ => ?_
      exact (Traced.keeps_pure _).bind fun _ => hloaded _ _
  | ok _ =>
      dsimp only
      split
      · refine (Traced.keeps_emit rfl).bind fun _ => ?_
        exact (Traced.keeps_pure _).bind fun _ => hloaded _ _
      · exact (Traced.keeps_pure _).bind fun _ => hloaded _ _

theorem silent_shutdown (vendor : Vendor) : Traced.Silent vendor.shutdown := by
  rw [shutdown]
  split
  · refine (Traced.keeps_emit rfl).bind fun _ => ?_
    split
    · exact (Traced.keeps_emit rfl).bind fun _ => Traced.keeps_pure _
    · exact Traced.keeps_pure _
  · split
    · exact (Traced.keeps_emit rfl).bind fun _ => Traced.keeps_pure _
    · exact Traced.keeps_pure _

theorem silent_enumerate (driver : Drm.Driver) (trees : String → Sysfs.FileTree) (vendor : Vendor)
    (mask : DeviceMask) : Run.Silent (vendor.enumerate driver trees mask) := by
  rw [enumerate]
  split
  · exact Run.keeps_pure _
  refine (Drm.Library.silent_pciDevices _ driver).bind fun outcome => ?_
  split
  · exact Run.keeps_pure _
  · exact (silent_openSelected driver trees _ _ mask []).bind fun _ => Run.keeps_pure _

end Vendor

end Amd

theorem silent_giveBack (resource : Resource) : Run.Silent (giveBack resource) := by
  have hget : Run.Silent (get : Run (List Event)) := fun _ => rfl
  rw [giveBack]
  refine Run.keeps_lift_bind (Traced.keeps_emit rfl) fun _ => hget.bind fun trace => ?_
  split
  · exact Run.keeps_ofExcept _
  · exact Run.keeps_pure _

namespace Nvidia

theorem silent_openSelected (library : Library) (driver : Nvml.Driver) (count index : Nat)
    (mask : DeviceMask) : Traced.Silent (openSelected library driver count index mask) := by
  induction count generalizing index mask with
  | zero => exact Traced.keeps_pure _
  | succ count ih =>
      rw [openSelected]
      split
      · exact (Traced.silent_log _ _ _).bind fun _ => ih _ _
      split
      · refine (Traced.keeps_emit rfl).bind fun _ => ?_
        exact (ih _ _).bind fun _ => Traced.keeps_pure _
      · exact (Traced.silent_log _ _ _).bind fun _ => ih _ _

namespace Vendor

theorem silent_giveBackLibrary (vendor : Vendor) : Run.Silent vendor.giveBackLibrary := by
  rw [giveBackLibrary]
  split
  · exact silent_giveBack _
  · exact Run.keeps_pure _

theorem silent_init (directory : Platform.LibraryDirectory) (driver : Nvml.Driver)
    (vendor : Vendor) : Run.Silent (vendor.init directory driver) := by
  rw [init]
  split
  · exact Run.keeps_pure _
  · refine Run.keeps_lift_bind (Traced.keeps_emit rfl) fun _ => ?_
    exact vendor.silent_giveBackLibrary.bind fun _ => Run.keeps_pure _

theorem silent_shutdown (vendor : Vendor) : Run.Silent vendor.shutdown := by
  rw [shutdown]
  refine vendor.silent_giveBackLibrary.bind fun _ => ?_
  split <;> exact Run.keeps_pure _

theorem silent_enumerate (driver : Nvml.Driver) (vendor : Vendor) (mask : DeviceMask) :
    Traced.Silent (vendor.enumerate driver mask) := by
  rw [enumerate]
  split
  · exact Traced.keeps_pure _
  split
  · exact Traced.keeps_pure _
  · exact (silent_openSelected _ driver _ 0 mask).bind fun _ => Traced.keeps_pure _

end Vendor

end Nvidia

namespace Vendor

theorem silent_init (host : Host) (vendor : Vendor) : Run.Silent (vendor.init host) := by
  cases vendor with
  | amd vendor =>
      exact Run.keeps_lift_bind (vendor.silent_init host.libraries) fun _ => Run.keeps_pure _
  | nvidia vendor =>
      exact (vendor.silent_init host.libraries host.nvml).bind fun _ => Run.keeps_pure _
  | simulated vendor => exact Run.keeps_pure _

theorem silent_shutdown (vendor : Vendor) : Run.Silent vendor.shutdown := by
  cases vendor with
  | amd vendor => exact Run.keeps_lift_bind vendor.silent_shutdown fun _ => Run.keeps_pure _
  | nvidia vendor => exact vendor.silent_shutdown.bind fun _ => Run.keeps_pure _
  | simulated vendor => exact Run.keeps_pure _

theorem silent_enumerate (host : Host) (index : Nat) (mask : DeviceMask) (vendor : Vendor) :
    Run.Silent (vendor.enumerate host index mask) := by
  cases vendor with
  | amd vendor =>
      exact (vendor.silent_enumerate host.drm host.pciDirectory mask).bind fun _ =>
        Run.keeps_pure _
  | nvidia vendor =>
      exact Run.keeps_lift_bind (vendor.silent_enumerate host.nvml mask) fun _ =>
        Run.keeps_pure _
  | simulated vendor => exact Run.keeps_pure _

end Vendor

theorem Backend.silent_release (backend : Backend) : Run.Silent backend.release := by
  cases backend with
  | amd address device => exact Run.keeps_lift device.silent_release
  | nvidia device => exact silent_giveBack device.library.resource
  | simulated device => exact Run.keeps_pure _

end GpuTelemetry
