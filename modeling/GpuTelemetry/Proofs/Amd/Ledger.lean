import GpuTelemetry.Amd.Vendor
import GpuTelemetry.Proofs.Ledger

/-!
# What AMD devices hold

An open device holds its context, the library that made it, its node and the
driver library. Opening a device either comes to hold all of these or leaves
nothing behind, and giving it up ends the context before anything else. A vendor
holds the libraries that it has loaded.
-/

namespace GpuTelemetry

open Drm Platform

variable {driver : Driver} {given rest : Ledger}

/-- A resource, if it is held. -/
def Ledger.ofHeld (isHeld : Bool) (resource : Resource) : Ledger :=
  if isHeld then {.resource resource} else 0

theorem Ledger.contextless_ofHeld (isHeld : Bool) (resource : Resource) :
    (ofHeld isHeld resource).Contextless := by
  cases isHeld with
  | false => exact contextless_zero
  | true => exact contextless_resource resource

/-- A resource that is only given back if it is held. -/
theorem Traced.accounts_releaseHeld_bind {α : Type} {Q : α → Ledger → Prop} {isHeld : Bool}
    {resource : Resource} {next : Traced α} (hnext : Accounts driver next rest Q) :
    Accounts driver (if isHeld = true then emit (.released resource) >>= fun _ => next else next)
      (Ledger.ofHeld isHeld resource + rest) Q := by
  cases isHeld with
  | false =>
      change Accounts driver next (0 + rest) Q
      rwa [zero_add]
  | true =>
      change Accounts driver (emit (.released resource) >>= fun _ => next)
        ({.resource resource} + rest) Q
      rw [Multiset.singleton_add]
      refine (Traced.accounts_released _).bind ?_
      rintro _ _ rfl
      exact hnext

/-- What is held after something was attempted, which may fail or fault. -/
def Ledger.attempted {α : Type} (done : α → Ledger) (otherwise : Ledger) :
    Except Fault (Except Failure α) → Ledger
  | .ok (.ok a) => done a
  | .ok (.error _) => otherwise
  | .error _ => otherwise

open Ledger

/-! ## Loading the libraries -/

namespace Drm

theorem neutral_loadFirst (directory : LibraryDirectory) (failure : Failure) (names : List String) :
    Traced.Neutral driver (loadFirst directory failure names) := by
  induction names generalizing failure with
  | nil => exact Traced.neutral_pure _
  | cons name names ih =>
      rw [loadFirst]
      split
      · exact (Traced.neutral_log _ _ _).bind_neutral fun _ => Traced.neutral_pure _
      · exact ih _

section

variable (directory : LibraryDirectory) (library : SharedLibrary)

theorem neutral_resolve (label name : String) :
    Traced.Neutral driver (resolve directory library label name) := by
  rw [resolve]
  split
  · exact Traced.neutral_pure _
  · exact (Traced.neutral_log _ _ _).bind_neutral fun _ => Traced.neutral_pure _

theorem neutral_resolveAll (label : String) (names : List String) :
    Traced.Neutral driver (resolveAll directory library label names) := by
  induction names with
  | nil => exact Traced.neutral_pure _
  | cons name names ih =>
      rw [resolveAll]
      refine (neutral_resolve directory library label name).bind_neutral fun outcome => ?_
      cases outcome with
      | ok _ => exact ih
      | error failure => exact Traced.neutral_pure _

theorem neutral_resolveListing : Traced.Neutral driver (resolveListing directory library) := by
  rw [resolveListing]
  refine (neutral_resolve directory library _ _).bind_neutral fun outcome => ?_
  cases outcome with
  | ok _ => exact Traced.neutral_pure _
  | error _ =>
      refine (neutral_resolve directory library _ _).bind_neutral fun outcome => ?_
      cases outcome <;> exact Traced.neutral_pure _

end

theorem Library.accounts_load (directory : LibraryDirectory) :
    Traced.Accounts driver (Library.load directory) given fun result left =>
      left = attempted (fun _ => .resource .drmLibrary ::ₘ given) given (.ok result) := by
  have hgiven : ∀ failure : Failure, Traced.Accounts driver (do
      emit (.released .drmLibrary)
      return .error failure : Traced (Except Failure Library)) (.resource .drmLibrary ::ₘ given)
      fun result left =>
        left = attempted (fun _ => .resource .drmLibrary ::ₘ given) given (.ok result) := by
    intro failure
    refine (Traced.accounts_released _).bind ?_
    rintro _ _ rfl
    exact Traced.accounts_pure rfl
  rw [Library.load]
  refine (neutral_loadFirst directory _ _).bind fun outcome => ?_
  cases outcome with
  | error failure => exact Traced.accounts_pure rfl
  | ok library =>
      refine (Traced.accounts_acquired _).bind ?_
      rintro _ _ rfl
      refine (neutral_resolveListing directory library).bind fun outcome => ?_
      cases outcome with
      | error failure => exact hgiven failure
      | ok modern =>
          refine (neutral_resolveAll directory library _ _).bind fun outcome => ?_
          cases outcome with
          | error failure => exact hgiven failure
          | ok _ => exact Traced.accounts_pure rfl

theorem accounts_loadContextLibrary (directory : LibraryDirectory) :
    Traced.Accounts driver (loadContextLibrary directory) given fun result left =>
      left = attempted (fun _ => .resource .amdgpuLibrary ::ₘ given) given (.ok result) := by
  rw [loadContextLibrary]
  refine (neutral_loadFirst directory _ _).bind fun outcome => ?_
  cases outcome with
  | error failure => exact Traced.accounts_pure rfl
  | ok library =>
      refine (Traced.accounts_acquired _).bind ?_
      rintro _ _ rfl
      refine (neutral_resolveAll directory library _ _).bind fun outcome => ?_
      cases outcome with
      | error failure =>
          refine (Traced.accounts_released _).bind ?_
          rintro _ _ rfl
          exact Traced.accounts_pure rfl
      | ok _ => exact Traced.accounts_pure rfl

/-- The list that is filled is given back before the devices are looked at. -/
theorem Library.neutral_pciDevices (library : Library) :
    Run.Neutral driver (library.pciDevices driver) := by
  intro given
  have htext : ∀ status, Run.Accounts driver
      (do return .error (.drm (← statusText status)) : Run (Except Failure (List PciDevice))) given
      fun _ left => left = given :=
    fun status => (Run.neutral_ofExcept _).bind (fun _ => Run.accounts_pure rfl) fun _ => rfl
  rw [Library.pciDevices]
  dsimp only
  refine Run.neutral_lift_bind (Traced.neutral_call rfl rfl rfl rfl) fun _ => ?_
  split
  · exact htext _
  split
  · exact Run.accounts_pure rfl
  next hcount =>
    by_cases hfilled : driver.filledCount driver.count.toInt.toNat < 0
    · have howed : driver.owed? (.listDevices library.modernListing driver.count) = none := by
        dsimp only [Driver.owed?]
        rw [decide_eq_true hfilled, Bool.or_true]
        rfl
      simp only [if_pos hfilled]
      exact Run.neutral_lift_bind (Traced.neutral_call rfl rfl howed rfl) fun _ => htext _
    · have howed : driver.owed? (.listDevices library.modernListing driver.count) =
          some (.freeDevices (driver.filledCount driver.count.toInt.toNat)) := by
        dsimp only [Driver.owed?]
        rw [decide_eq_false hcount, decide_eq_false hfilled]
        rfl
      simp only [if_neg hfilled]
      exact Run.accounts_handout_bind howed (Run.accounts_pure rfl)

end Drm

namespace Amd

/-! ## Opening devices -/

theorem accounts_openNode (index : Nat) (nodes : List DeviceNode) :
    Traced.Accounts driver (openNode index nodes) given
      fun opened left => left = Ledger.ofHeld opened (.deviceNode index) + given := by
  induction nodes with
  | nil => exact Traced.accounts_pure (zero_add given).symm
  | cons node nodes ih =>
      rw [openNode]
      split
      · exact ih
      split
      · refine (Traced.accounts_acquired _).bind ?_
        rintro _ _ rfl
        exact Traced.accounts_pure (Multiset.singleton_add _ given).symm
      · exact (Traced.neutral_log _ _ _).bind fun _ => ih

theorem neutral_driverVersion (index : Nat) :
    Traced.Neutral driver (driverVersion driver index) := by
  intro given
  rw [driverVersion]
  cases hversion : (driver.device? index).bind ListedDevice.version with
  | none =>
      have howed : driver.owed? (.getVersion index) = none := by
        rw [Driver.owed?, hversion]
        rfl
      exact (Traced.neutral_call rfl rfl howed rfl).bind fun _ => Traced.accounts_pure rfl
  | some version =>
      have howed : driver.owed? (.getVersion index) = some .freeVersion := by
        rw [Driver.owed?, hversion]
        rfl
      exact Traced.accounts_handout_bind howed (Traced.accounts_pure rfl)

theorem neutral_authenticate (index : Nat) :
    Traced.Neutral driver (authenticate driver index) := by
  rw [authenticate]
  refine (Traced.neutral_call rfl rfl rfl rfl).bind_neutral fun _ => ?_
  split
  · exact Traced.neutral_pure _
  refine (Traced.neutral_call rfl rfl rfl rfl).bind_neutral fun _ => ?_
  split
  · refine (Traced.neutral_call rfl rfl rfl rfl).bind_neutral fun _ => ?_
    split
    · exact Traced.neutral_log _ _ _
    · exact Traced.neutral_pure _
  · exact Traced.neutral_log _ _ _

theorem refuses_eq_not_grants (index : Nat) :
    (((driver.device? index).map ListedDevice.initStatus).getD 0 ≠ 0 ||
      ((driver.device? index).map ListedDevice.nullHandle).getD true) = !driver.grants index := by
  rw [Driver.grants]
  cases driver.device? index with
  | none => rfl
  | some device => simp

/-- The context is made just when the driver grants it. -/
theorem accounts_openContext (index : Nat) :
    Run.Accounts driver (openContext driver index) given fun result left =>
      left = attempted (fun _ => .context index ::ₘ given) given result := by
  rw [openContext]
  simp only [refuses_eq_not_grants]
  cases hgrants : driver.grants index with
  | false =>
      have hbegin : Traced.Neutral driver (call (.beginContext index)) :=
        Traced.neutral_call (by rw [Entry.gain?, hgrants]; rfl) rfl rfl rfl
      refine Run.neutral_lift_bind hbegin fun _ => ?_
      exact (Run.neutral_ofExcept _).bind (fun _ => Run.accounts_pure rfl) fun _ => rfl
  | true =>
      refine Run.accounts_lift_bind (Traced.accounts_beginContext hgrants) ?_
      rintro _ _ rfl
      exact Run.neutral_lift_bind (Traced.neutral_log _ _ _) fun _ => Run.accounts_pure rfl

/-- What an open device holds. -/
def Device.ledger (device : Device) : Ledger :=
  .context device.index ::ₘ .resource .amdgpuLibrary ::ₘ .resource (.deviceNode device.index) ::ₘ
    {.resource .drmLibrary}

theorem Device.context_mem_ledger (device : Device) : .context device.index ∈ device.ledger :=
  Multiset.mem_cons_self _ _

theorem Device.backed_ledger (device : Device) : device.ledger.Backed := by
  constructor
  · intro index
    by_cases hindex : index = device.index
    · simp [ledger, hindex]
    · simp [ledger, hindex]
  · simp [ledger, Multiset.countP_cons, ← Multiset.cons_zero]

/-- The context is made last of what can fail. -/
theorem accounts_attach (tree : Sysfs.FileTree) (contexts : Bool) (device : PciDevice) :
    Run.Accounts driver (attach driver tree contexts device)
      (.resource (.deviceNode device.index) ::ₘ given) fun result left =>
        left = attempted (fun opened => opened.ledger + given)
          (.resource (.deviceNode device.index) ::ₘ given) result := by
  rw [attach]
  refine Run.neutral_lift_bind (neutral_driverVersion _) fun version => ?_
  split
  · exact Run.accounts_pure rfl
  split
  · exact Run.accounts_pure rfl
  refine Run.neutral_lift_bind (neutral_authenticate _) fun _ => ?_
  split
  · exact Run.accounts_pure rfl
  refine (accounts_openContext _).bind ?_ ?_
  · intro outcome left hleft
    cases outcome with
    | error failure =>
        cases hleft
        exact Run.accounts_pure rfl
    | ok _ =>
        cases hleft
        refine Run.accounts_lift_bind (Traced.accounts_acquired _) ?_
        rintro _ _ rfl
        have hend : ∀ (description : String) (sensors : Sysfs.Sensors) (text : String),
            Run.Accounts driver
              (do
                log .debug .amd text
                emit (.acquired .drmLibrary)
                return .ok { index := device.index, description, sensors } :
                Run (Except Failure Device))
              (.resource .amdgpuLibrary ::ₘ .context device.index ::ₘ
                .resource (.deviceNode device.index) ::ₘ given)
              fun result left =>
                left = attempted (fun opened => opened.ledger + given)
                  (.resource (.deviceNode device.index) ::ₘ given) result := by
          intro description sensors text
          refine Run.neutral_lift_bind (Traced.neutral_log _ _ _) fun _ => ?_
          refine Run.accounts_lift_bind (Traced.accounts_acquired _) ?_
          rintro _ _ rfl
          apply Run.accounts_pure
          dsimp only [attempted, Device.ledger]
          simp only [← Multiset.singleton_add]
          abel
        -- whether there are sensors is logged before the rest
        dsimp only
        split
        · exact Run.neutral_lift_bind (Traced.neutral_log _ _ _) fun _ => hend _ _ _
        · exact hend _ _ _
  · rintro fault _ rfl
    rfl

/-- Unless there is an open device in the end, nothing is left behind. -/
theorem accounts_openDevice (tree : Sysfs.FileTree) (contexts : Bool) (device : PciDevice) :
    Run.Accounts driver (openDevice driver tree contexts device) given fun result left =>
      left = attempted (fun opened => opened.ledger + given) given result := by
  rw [openDevice]
  refine Run.accounts_lift_bind (accounts_openNode _ _) ?_
  rintro (_ | _) _ rfl
  · exact Run.accounts_pure (zero_add given)
  · change Run.Accounts driver _ ({.resource (.deviceNode device.index)} + given) _
    rw [Multiset.singleton_add]
    have hclosed : Run.Accounts driver
        (onFault (attach driver tree contexts device)
          (monadLift (emit (.released (.deviceNode device.index)))))
        (.resource (.deviceNode device.index) ::ₘ given) fun result left =>
          match result with
          | .ok (.ok opened) => left = opened.ledger + given
          | .ok (.error _) => left = .resource (.deviceNode device.index) ::ₘ given
          | .error _ => left = given := by
      refine (accounts_attach tree contexts device).onFault ?_ ?_
      · rintro (failure | opened) _ rfl <;> rfl
      · rintro fault _ rfl
        exact Traced.accounts_released _
    refine hclosed.bind ?_ ?_
    · rintro (failure | opened) left hleft
      · cases hleft
        refine Run.accounts_lift_bind (Traced.accounts_released _) ?_
        rintro _ _ rfl
        exact Run.accounts_pure rfl
      · exact Run.accounts_pure hleft
    · rintro fault _ rfl
      rfl

theorem Device.accounts_release (device : Device) (hrest : rest.Backed) :
    Traced.Accounts driver device.release (device.ledger + rest) fun _ left => left = rest := by
  have hbacked : (device.ledger + rest).Backed := device.backed_ledger.add hrest
  rw [ledger, Multiset.cons_add, Multiset.cons_add, Multiset.cons_add,
    Multiset.singleton_add] at hbacked ⊢
  rw [release]
  refine (Traced.accounts_endContext hbacked).bind ?_
  rintro _ _ rfl
  refine (Traced.accounts_released _).bind ?_
  rintro _ _ rfl
  refine (Traced.accounts_released _).bind ?_
  rintro _ _ rfl
  exact Traced.accounts_released _

/-! ## Opening what is selected -/

def ledgerOf (found : List Found) : Ledger :=
  (found.map fun f => f.device.ledger).sum

theorem backed_ledgerOf (found : List Found) : (ledgerOf found).Backed := by
  refine backed_sum fun ledger hledger => ?_
  obtain ⟨f, -, rfl⟩ := List.mem_map.mp hledger
  exact f.device.backed_ledger

theorem accounts_releaseAll (found : List Found) (hrest : rest.Backed) :
    Traced.Accounts driver (releaseAll found) (ledgerOf found + rest)
      fun _ left => left = rest := by
  induction found with
  | nil => exact Traced.accounts_pure (zero_add rest)
  | cons f found ih =>
      rw [ledgerOf, List.map_cons, List.sum_cons, add_assoc]
      refine (f.device.accounts_release ((backed_ledgerOf found).add hrest)).bind ?_
      rintro _ _ rfl
      exact ih

theorem accounts_openSelected (trees : String → Sysfs.FileTree) (contexts : Bool)
    (devices : List PciDevice) (mask : DeviceMask) (found : List Found) (hrest : rest.Backed)
    (hgiven : given = ledgerOf found + rest) :
    Run.Accounts driver (openSelected driver trees contexts devices mask found) given
      fun result left =>
        match result with
        | .ok (listed, _) => left = ledgerOf listed + rest
        | .error _ => left = rest := by
  induction devices generalizing mask found given with
  | nil => exact Run.accounts_pure hgiven
  | cons device devices ih =>
      rw [openSelected]
      dsimp only
      split
      · exact Run.neutral_lift_bind (Traced.neutral_log _ _ _) fun _ => ih _ _ hgiven
      · have hattempt : Run.Accounts driver
            (onFault (openDevice driver (trees (String.ofList device.address.text)) contexts device)
              (monadLift (releaseAll found)))
            given fun result left =>
              match result with
              | .ok outcome =>
                left = attempted (fun opened => opened.ledger + given) given (.ok outcome)
              | .error _ => left = rest := by
          -- a device that faults leaves what was given, so the ones found before can be given up
          refine (accounts_openDevice _ contexts device).onFault (fun _ _ hleft => hleft) ?_
          intro fault left hleft
          have hfound : left = ledgerOf found + rest := hleft.trans hgiven
          rw [hfound]
          exact accounts_releaseAll found hrest
        refine hattempt.bind ?_ fun _ _ hleft => hleft
        rintro (failure | opened) _ rfl
        · exact Run.neutral_lift_bind (Traced.neutral_log _ _ _) fun _ => ih _ _ hgiven
        · refine ih _ _ ?_
          change opened.ledger + given = _
          simp only [hgiven, ledgerOf, List.map_append, List.sum_append, List.map_singleton,
            List.sum_singleton]
          abel

namespace Vendor

/-- What a vendor holds. -/
def ledger (vendor : Vendor) : Ledger :=
  ofHeld vendor.library.isSome .drmLibrary + ofHeld vendor.contexts .amdgpuLibrary

theorem contextless_ledger (vendor : Vendor) : vendor.ledger.Contextless :=
  (contextless_ofHeld _ _).add (contextless_ofHeld _ _)

/-- Whatever is loaded again is given back once. -/
theorem accounts_init (directory : LibraryDirectory) (vendor : Vendor) :
    Traced.Accounts driver (vendor.init directory) (vendor.ledger + rest)
      fun result left => left = result.2.ledger + rest := by
  have hloaded : ∀ (library : Drm.Library) (contexts : Bool), Traced.Accounts driver (do
      if vendor.library.isSome then emit (.released .drmLibrary)
      return (.ok (), { library := some library, contexts, lastError := none }) :
        Traced (Except Failure Unit × Vendor))
      (ofHeld vendor.library.isSome .drmLibrary +
        ({.resource .drmLibrary} + ofHeld contexts .amdgpuLibrary + rest))
      fun result left => left = result.2.ledger + rest := by
    intro library contexts
    exact Traced.accounts_releaseHeld_bind (Traced.accounts_pure rfl)
  rw [init]
  refine (Drm.Library.accounts_load directory).bind ?_
  rintro (failure | library) _ rfl
  · exact Traced.accounts_pure rfl
  refine (Drm.accounts_loadContextLibrary directory).bind ?_
  rintro (failure | _) _ rfl
  · -- the context library that was loaded before stays, and only the driver library is replaced
    refine (Traced.neutral_log _ _ _).bind fun _ => ?_
    refine Traced.accounts_pure_bind ?_
    have hledger : .resource .drmLibrary ::ₘ (vendor.ledger + rest) =
        ofHeld vendor.library.isSome .drmLibrary +
          ({.resource .drmLibrary} + ofHeld vendor.contexts .amdgpuLibrary + rest) := by
      rw [ledger, ← Multiset.singleton_add]
      abel
    dsimp only [attempted]
    rw [hledger]
    exact hloaded library vendor.contexts
  · have hledger :
        .resource .amdgpuLibrary ::ₘ .resource .drmLibrary ::ₘ (vendor.ledger + rest) =
        ofHeld vendor.contexts .amdgpuLibrary + (ofHeld vendor.library.isSome .drmLibrary +
          ({.resource .drmLibrary} + {.resource .amdgpuLibrary} + rest)) := by
      simp only [ledger, ← Multiset.singleton_add]
      abel
    dsimp only [attempted]
    rw [hledger]
    exact Traced.accounts_releaseHeld_bind (Traced.accounts_pure_bind (hloaded library true))

theorem accounts_shutdown (vendor : Vendor) :
    Traced.Accounts driver vendor.shutdown (vendor.ledger + rest)
      fun after left => left = after.ledger + rest := by
  rw [shutdown, ledger, add_assoc]
  refine Traced.accounts_releaseHeld_bind (Traced.accounts_releaseHeld_bind ?_)
  exact Traced.accounts_pure (zero_add rest).symm

theorem accounts_enumerate (trees : String → Sysfs.FileTree) (vendor : Vendor) (mask : DeviceMask)
    (hgiven : given.Backed) :
    Run.Accounts driver (vendor.enumerate driver trees mask) given fun result left =>
      match result with
      | .ok (outcome, _, after) =>
        left = ledgerOf (outcome.toOption.getD []) + given ∧ after.ledger = vendor.ledger
      | .error _ => left = given := by
  have hnone : given = ledgerOf [] + given := (zero_add given).symm
  rw [enumerate]
  split
  · exact Run.accounts_pure ⟨hnone, rfl⟩
  next library hlibrary =>
    refine (Drm.Library.neutral_pciDevices library).bind (fun outcome => ?_) fun _ => rfl
    cases outcome with
    | error failure => exact Run.accounts_pure ⟨hnone, rfl⟩
    | ok devices =>
        refine (accounts_openSelected trees _ _ mask [] hgiven hnone).bind ?_ fun _ _ hleft => hleft
        rintro ⟨found, left⟩ _ rfl
        exact Run.accounts_pure ⟨rfl, rfl⟩

end Vendor

end Amd

end GpuTelemetry
