import GpuTelemetry.Proofs.Settled
import GpuTelemetry.Proofs.Vendor.Enumeration
import Mathlib.Data.List.Forall2

/-!
# The messages of failed vendors

A vendor that fails keeps the message of its failure, but it is shut down after
that, and a shutdown that gives back a library replaces the message. So what can
be read after a start is the message of a failed initialization, and only if the
vendor had no library before. A failed enumeration never leaves its message.
-/

namespace GpuTelemetry

/-! ## Telling messages apart -/

/-- The last errors of a vendor that has not failed. -/
def Amd.Vendor.quietTexts : List String :=
  ["AMD backend was not initialized",
    "An unanticipated error occurred while accessing AMDGPU information"]

def Nvidia.Vendor.quietTexts : List String :=
  ["NVIDIA backend was not initialized", "An unanticipated error occurred while accessing NVML"]

/-- The words in which a vendor keeps a failure. NVML is not named again in its own failures. -/
def Vendor.wording : Vendor → Failure → String
  | nvidia _, .nvml failure => failure.message
  | _, failure => failure.message

/-- The first letters of a text, which are enough to tell messages apart. -/
def initials (text : String) : List Char :=
  text.toList.take 3

theorem append_not_mem {start : String} {texts : List String} {letters : List (List Char)}
    (htexts : texts.map initials = letters)
    (hstart : 3 ≤ start.toList.length ∧ initials start ∉ letters) (rest : String) :
    start ++ rest ∉ texts := by
  intro hmem
  have hletters : initials (start ++ rest) ∈ texts.map initials := List.mem_map_of_mem hmem
  rw [htexts, initials, String.toList_append, List.take_append_of_le_length hstart.1] at hletters
  exact hstart.2 hletters

theorem Amd.Vendor.initials_quietTexts :
    quietTexts.map initials = [['A', 'M', 'D'], ['A', 'n', ' ']] := by decide +kernel

theorem Nvidia.Vendor.initials_quietTexts :
    quietTexts.map initials = [['N', 'V', 'I'], ['A', 'n', ' ']] := by decide +kernel

/-- What the messages of failures start with. -/
def Failure.starts : List String :=
  ["Failed to load library: ", "Missing symbol ", "DRM error: ", "No devices found: ",
    "Vendor initialization failed: ", "NVML error: ", "Configuration error: "]

theorem Failure.message_not_mem {texts : List String} {letters : List (List Char)}
    (htexts : texts.map initials = letters)
    (hstarts : ∀ start ∈ starts, 3 ≤ start.toList.length ∧ initials start ∉ letters)
    (failure : Failure) : failure.message ∉ texts := by
  cases failure with
  | missingSymbol library symbol =>
      have hassoc : message (.missingSymbol library symbol) =
          "Missing symbol " ++ (symbol ++ (" in " ++ library)) :=
        (String.append_assoc ..).trans (String.append_assoc ..)
      rw [hassoc]
      exact append_not_mem htexts (hstarts _ (by simp [starts])) _
  | _ => exact append_not_mem htexts (hstarts _ (by simp [starts])) _

theorem Nvml.statusText_not_mem (code : UInt32) :
    statusText code ∉ Nvidia.Vendor.quietTexts := by
  unfold statusText
  split
  case h_24 => exact append_not_mem Nvidia.Vendor.initials_quietTexts (by decide +kernel) _
  all_goals decide +kernel

theorem Nvml.Failure.message_not_mem (failure : Nvml.Failure) :
    failure.message ∉ Nvidia.Vendor.quietTexts := by
  cases failure with
  | status code => exact Nvml.statusText_not_mem code
  | _ => exact append_not_mem Nvidia.Vendor.initials_quietTexts (by decide +kernel) _

/-- No failure is worded like the last error of a vendor that has not failed. -/
theorem Vendor.wording_amd_not_mem (vendor : Amd.Vendor) (failure : Failure) :
    (amd vendor).wording failure ∉ Amd.Vendor.quietTexts :=
  failure.message_not_mem Amd.Vendor.initials_quietTexts (by decide +kernel)

theorem Vendor.wording_nvidia_not_mem (vendor : Nvidia.Vendor) (failure : Failure) :
    (nvidia vendor).wording failure ∉ Nvidia.Vendor.quietTexts := by
  unfold wording
  split
  next failure _ => exact failure.message_not_mem
  next => exact Failure.message_not_mem Nvidia.Vendor.initials_quietTexts (by decide +kernel) _

/-! ## What becomes of a vendor -/

namespace Vendor

/-- Whether a vendor has its library loaded. The simulated ones have none. -/
def loaded? : Vendor → Option Bool
  | amd vendor => some vendor.library.isSome
  | nvidia vendor => some vendor.library.isSome
  | simulated _ => none

/-- Initializing the vendor may end with a failure. -/
def InitFails (host : Host) (vendor : Vendor) (failure : Failure) : Prop :=
  ∃ before left after,
    StateT.run (ExceptT.run (vendor.init host)) before = (.ok (.error failure, left), after)

/-- Once the vendor is initialized, an enumeration may end with a failure. -/
def EnumerationFails (host : Host) (vendor : Vendor) (failure : Failure) : Prop :=
  ∃ before opened between,
    StateT.run (ExceptT.run (vendor.init host)) before = (.ok (.ok (), opened), between) ∧
    ∃ index mask trace left last after,
      StateT.run (ExceptT.run (opened.enumerate host index mask)) trace =
        (.ok (.error failure, left, last), after)

/-- What a vendor has become says of its failures: that of its initialization can be read if it had
no library before, and that of an enumeration cannot be read. -/
structure Reports (host : Host) (vendor last : Vendor) : Prop where
  init : ∀ loaded failure, vendor.loaded? = some loaded → vendor.InitFails host failure →
    (last.lastErrorText host = vendor.wording failure ↔ loaded = false)
  enumeration : ∀ loaded failure, vendor.loaded? = some loaded →
    vendor.EnumerationFails host failure → last.lastErrorText host ≠ vendor.wording failure

def ShutsDownTo (P : Vendor → Prop) (vendor : Vendor) : Prop :=
  Run.ReturnsOnly vendor.shutdown P

/-- A vendor ends up with a property, if nothing faults on the way: after it was shut down because
it failed or has no device, or with the devices it opened. -/
def Becomes (host : Host) (vendor : Vendor) (P : Vendor → Prop) : Prop :=
  Run.ReturnsOnly (vendor.init host) fun (outcome, opened) =>
    (outcome ≠ .ok () → opened.ShutsDownTo P) ∧
    (outcome = .ok () → ∀ index mask,
      Run.ReturnsOnly (opened.enumerate host index mask) fun (found, _, last) =>
        last.ShutsDownTo P ∧ (found.isOk = true → P last))

end Vendor

namespace Registry

variable {host : Host} {P : Vendor → Prop}

theorem returnsOnly_givenUp {vendor : Vendor} (h : vendor.ShutsDownTo P) (index : Nat)
    (left : DeviceMask) :
    Run.ReturnsOnly
      (do return ([], left, ← shutdownVendor index vendor) :
        Run (List GpuDevice × DeviceMask × Vendor))
      fun (_, _, last) => P last := by
  have hdone : Run.ReturnsOnly (shutdownVendor index vendor) P := Run.returnsOnly_unit_bind h
  exact hdone.bind fun _ hlast => Run.returnsOnly_pure hlast

theorem returnsOnly_startVendor {vendor : Vendor} (h : vendor.Becomes host P) (index : Nat)
    (mask : DeviceMask) :
    Run.ReturnsOnly (startVendor host index vendor mask) fun (_, _, last) => P last := by
  rw [startVendor]
  apply Run.returnsOnly_unit_bind
  refine Run.ReturnsOnly.bind h ?_
  rintro ⟨outcome, opened⟩ ⟨hfails, hstarts⟩
  cases outcome with
  | error failure =>
      have hshutdown : opened.ShutsDownTo P := hfails (by simp)
      exact Run.returnsOnly_unit_bind (returnsOnly_givenUp hshutdown index mask)
  | ok _ =>
      apply Run.returnsOnly_unit_bind
      refine (hstarts rfl index mask).bind ?_
      rintro ⟨found, left, last⟩ ⟨hshutdown, hkeeps⟩
      cases found with
      | error failure => exact Run.returnsOnly_unit_bind (returnsOnly_givenUp hshutdown index left)
      | ok devices =>
          cases devices with
          | nil => exact Run.returnsOnly_unit_bind (returnsOnly_givenUp hshutdown index left)
          | cons device devices =>
              exact Run.returnsOnly_unit_bind (Run.returnsOnly_pure (hkeeps rfl))

end Registry

/-! ## The vendors of a real system -/

namespace Vendor

variable {host : Host} {vendor last : Vendor}

theorem Reports.of_failure {failure : Failure} {loaded : Bool} {quiet : String}
    (hinit : Run.Ensures (vendor.init host) fun result =>
      ∃ left, result = .ok (.error failure, left))
    (hloaded : vendor.loaded? = some loaded)
    (hlast : last.lastErrorText host = if loaded then quiet else vendor.wording failure)
    (hquiet : quiet ≠ vendor.wording failure) : Reports host vendor last where
  init := by
    rintro other again hother ⟨before, left, after, hrun⟩
    obtain ⟨_, hsame⟩ := hinit before
    rw [hrun] at hsame
    cases hsame
    cases hloaded.symm.trans hother
    rw [hlast]
    cases loaded with
    | false => exact ⟨fun _ => rfl, fun _ => rfl⟩
    | true => exact ⟨fun hsame => absurd hsame hquiet, nofun⟩
  enumeration := by
    rintro again other _ ⟨before, opened, between, hrun, -⟩
    obtain ⟨_, hsame⟩ := hinit before
    rw [hrun] at hsame
    cases hsame

theorem Reports.of_quiet
    (hinit : Run.ReturnsOnly (vendor.init host) fun (outcome, _) => outcome = .ok ())
    (hquiet : ∀ failure, last.lastErrorText host ≠ vendor.wording failure) :
    Reports host vendor last where
  init := by
    rintro loaded failure _ ⟨before, left, after, hrun⟩
    have houtcome := hinit before
    rw [hrun] at houtcome
    cases houtcome _ rfl
  enumeration := fun _ failure _ _ => hquiet failure

end Vendor

namespace Amd.Vendor

theorem ensures_shutdown (vendor : Vendor) :
    Traced.Ensures vendor.shutdown fun last =>
      last.lastErrorText =
        if vendor.library.isSome then "AMD backend was not initialized"
        else vendor.lastErrorText := by
  obtain ⟨library, contexts, lastError⟩ := vendor
  intro trace
  cases library <;> cases contexts <;> rfl

/-- An enumeration that succeeds changes nothing, and one that fails keeps the library. -/
theorem returnsOnly_enumerate_keeps (driver : Drm.Driver) (trees : String → Sysfs.FileTree)
    (vendor : Vendor) (mask : DeviceMask) :
    Run.ReturnsOnly (vendor.enumerate driver trees mask) fun (found, _, last) =>
      last.library = vendor.library ∧ (found.isOk = true → last = vendor) := by
  rw [enumerate]
  split
  next => exact Run.returnsOnly_pure ⟨rfl, by rintro ⟨⟩⟩
  next library _ =>
    refine Run.returnsOnly_bind fun listed => ?_
    cases listed with
    | error failure =>
        exact Run.returnsOnly_pure ⟨rfl, by rintro ⟨⟩⟩
    | ok devices =>
        apply Run.returnsOnly_bind
        rintro ⟨opened, rest⟩
        exact Run.returnsOnly_pure ⟨rfl, fun _ => rfl⟩

end Amd.Vendor

theorem Vendor.becomes_amd (host : Host) (vendor : Amd.Vendor) :
    Becomes host (amd vendor) (Reports host (amd vendor)) := by
  obtain ⟨loaded, hloaded⟩ := Drm.Library.settled_load host.libraries
  have hinit : Run.Ensures (Vendor.init host (amd vendor)) (· =
      .ok ((vendor.afterLoad host.libraries loaded).1,
        amd (vendor.afterLoad host.libraries loaded).2)) := by
    refine Run.ensures_lift_bind (Amd.Vendor.ensures_init_of_load hloaded vendor) ?_
    rintro _ rfl
    exact Run.ensures_pure rfl
  have hquiet (text : String) (h : text ∈ Amd.Vendor.quietTexts) (failure : Failure) :
      text ≠ (amd vendor).wording failure := by
    rintro rfl
    exact wording_amd_not_mem vendor failure h
  refine hinit.returnsOnly ?_
  cases loaded with
  | error failure =>
      refine ⟨fun _ => ?_, nofun⟩
      refine Run.returnsOnly_lift_bind (Amd.Vendor.ensures_shutdown _) ?_
      intro last hlast
      apply Run.returnsOnly_pure
      exact .of_failure (hinit.mono fun _ h => ⟨_, h⟩) rfl hlast
        (hquiet _ List.mem_cons_self failure)
  | ok library =>
      refine ⟨fun hfails => absurd rfl hfails, fun _ index mask => ?_⟩
      have hreports (last : Amd.Vendor) (h : last.lastErrorText ∈ Amd.Vendor.quietTexts) :
          Reports host (amd vendor) (amd last) :=
        .of_quiet (hinit.returnsOnly rfl) (hquiet _ h)
      refine (Amd.Vendor.returnsOnly_enumerate_keeps host.drm host.pciDirectory _ mask).bind ?_
      rintro ⟨found, left, last⟩ ⟨hlibrary, hlast⟩
      refine Run.returnsOnly_pure ⟨?_, ?_⟩
      · refine Run.returnsOnly_lift_bind (Amd.Vendor.ensures_shutdown last) ?_
        intro final hfinal
        apply Run.returnsOnly_pure
        apply hreports
        rw [hfinal, hlibrary]
        exact List.mem_cons_self
      · intro hfound
        cases found with
        | error failure => cases hfound
        | ok devices =>
            apply hreports
            rw [hlast rfl]
            exact List.mem_cons_of_mem _ List.mem_cons_self

namespace Nvidia.Vendor

theorem returnsOnly_init_of_load {directory : Platform.LibraryDirectory} {driver : Nvml.Driver}
    {vendor : Vendor} {library : Library} (h : load directory driver vendor = .ok library) :
    Run.ReturnsOnly (vendor.init directory driver) (· =
      (.ok (), { library := some library, loads := vendor.loads + 1, lastError := none })) := by
  rw [init, h]
  apply Run.returnsOnly_unit_bind
  exact Run.returnsOnly_bind fun _ => Run.returnsOnly_pure rfl

theorem returnsOnly_shutdown (vendor : Vendor) :
    Run.ReturnsOnly vendor.shutdown fun last =>
      last.lastErrorText =
        if vendor.library.isSome then "NVIDIA backend was not initialized"
        else vendor.lastErrorText := by
  refine Run.returnsOnly_bind fun _ => ?_
  split
  · exact Run.returnsOnly_pure rfl
  · exact Run.returnsOnly_pure rfl

/-- An enumeration that succeeds changes nothing, and one that fails keeps the library. -/
theorem ensures_enumerate_keeps (driver : Nvml.Driver) (vendor : Vendor) (mask : DeviceMask) :
    Traced.Ensures (vendor.enumerate driver mask) fun outcome =>
      outcome.2.2.library = vendor.library ∧ (outcome.1.isOk = true → outcome.2.2 = vendor) := by
  rw [enumerate]
  split
  next => exact Traced.ensures_pure ⟨rfl, by rintro ⟨⟩⟩
  next library _ =>
    split
    next => exact Traced.ensures_pure ⟨rfl, by rintro ⟨⟩⟩
    next count _ =>
      refine (ensures_openSelected library driver count.toNat 0 mask).bind ?_
      rintro opened -
      exact Traced.ensures_pure ⟨rfl, fun _ => rfl⟩

end Nvidia.Vendor

theorem Vendor.becomes_nvidia (host : Host) (vendor : Nvidia.Vendor) :
    Becomes host (nvidia vendor) (Reports host (nvidia vendor)) := by
  have hquiet (text : String) (h : text ∈ Nvidia.Vendor.quietTexts) (failure : Failure) :
      text ≠ (nvidia vendor).wording failure := by
    rintro rfl
    exact wording_nvidia_not_mem vendor failure h
  cases hload : Nvidia.Vendor.load host.libraries host.nvml vendor with
  | error failure =>
      have hinit : Run.Ensures (Vendor.init host (nvidia vendor)) (· =
          .ok (.error (.nvml failure),
            nvidia { vendor with lastError := some failure.message })) := by
        rw [Vendor.init, Nvidia.Vendor.init, hload]
        exact Run.ensures_pure rfl
      refine hinit.returnsOnly ⟨fun _ => ?_, by simp⟩
      refine (Nvidia.Vendor.returnsOnly_shutdown _).bind ?_
      intro last hlast
      apply Run.returnsOnly_pure
      exact .of_failure (hinit.mono fun _ h => ⟨_, h⟩) rfl hlast
        (hquiet _ List.mem_cons_self (.nvml failure))
  | ok library =>
      have hreports (last : Nvidia.Vendor) (h : last.lastErrorText ∈ Nvidia.Vendor.quietTexts) :
          Reports host (nvidia vendor) (nvidia last) := by
        refine .of_quiet ?_ (hquiet _ h)
        refine (Nvidia.Vendor.returnsOnly_init_of_load hload).bind ?_
        rintro _ rfl
        exact Run.returnsOnly_pure rfl
      refine (Nvidia.Vendor.returnsOnly_init_of_load hload).bind ?_
      rintro _ rfl
      refine Run.returnsOnly_pure ⟨fun hfails => absurd rfl hfails, fun _ index mask => ?_⟩
      refine Run.returnsOnly_lift_bind (Nvidia.Vendor.ensures_enumerate_keeps host.nvml _ mask) ?_
      rintro ⟨found, left, last⟩ ⟨hlibrary, hlast⟩
      refine Run.returnsOnly_pure ⟨?_, ?_⟩
      · refine (Nvidia.Vendor.returnsOnly_shutdown last).bind ?_
        intro final hfinal
        apply Run.returnsOnly_pure
        apply hreports
        rw [hfinal, hlibrary]
        exact List.mem_cons_self
      · intro hfound
        cases found with
        | error failure => cases hfound
        | ok devices =>
            have hsame : last = _ := hlast rfl
            apply hreports
            rw [hsame]
            exact List.mem_cons_of_mem _ List.mem_cons_self

/-- A simulated vendor has no library, so nothing is said about it. -/
theorem Vendor.becomes_simulated (host : Host) (vendor : Simulated.Vendor) :
    Becomes host (simulated vendor) (Reports host (simulated vendor)) := by
  have hreports (last : Vendor) : Reports host (simulated vendor) last := ⟨nofun, nofun⟩
  have hshutdown (left : Simulated.Vendor) :
      ShutsDownTo (Reports host (simulated vendor)) (simulated left) :=
    Run.returnsOnly_pure (hreports _)
  refine Run.returnsOnly_pure ⟨fun _ => hshutdown _, fun _ index mask => ?_⟩
  exact Run.returnsOnly_pure ⟨hshutdown _, fun _ => hreports _⟩

theorem Vendor.becomes_reports (host : Host) (vendor : Vendor) :
    vendor.Becomes host (vendor.Reports host) := by
  cases vendor with
  | amd vendor => exact becomes_amd host vendor
  | nvidia vendor => exact becomes_nvidia host vendor
  | simulated vendor => exact becomes_simulated host vendor

namespace Registry

theorem returnsOnly_startFrom (host : Host) (vendors : List Vendor) (index : Nat)
    (mask : DeviceMask) (found : List GpuDevice) :
    Run.ReturnsOnly (startFrom host index vendors mask found) fun (started, _) =>
      List.Forall₂ (Vendor.Reports host) vendors started := by
  induction vendors generalizing index mask found with
  | nil => exact Run.returnsOnly_pure .nil
  | cons vendor vendors ih =>
      rw [startFrom]
      have hstart := returnsOnly_startVendor (vendor.becomes_reports host) index mask
      refine (hstart.onFault _).bind ?_
      rintro ⟨own, left, last⟩ hlast
      refine (ih (index + 1) left (found ++ own)).bind ?_
      rintro ⟨started, devices⟩ hstarted
      exact Run.returnsOnly_pure (.cons hlast hstarted)

/-- When a start has come to its end, a failed initialization of a vendor with a library can be read
from the last error just when the vendor had no library loaded before, and a failed enumeration
cannot be read. -/
theorem lastError_of_start {host : Host} {registry started : Registry} {mask : DeviceMask}
    {devices : List GpuDevice} {before after : List Event}
    (hstart : StateT.run (ExceptT.run (registry.start host mask)) before =
      (.ok (started, devices), after))
    {index : Nat} {vendor : Vendor} (hvendor : registry.vendors[index]? = some vendor)
    {loaded : Bool} (hloaded : vendor.loaded? = some loaded) :
    ∃ last, started.vendors[index]? = some last ∧
      (∀ failure, vendor.InitFails host failure →
        (last.lastErrorText host = vendor.wording failure ↔ loaded = false)) ∧
      ∀ failure, vendor.EnumerationFails host failure →
        last.lastErrorText host ≠ vendor.wording failure := by
  have hreports : Run.ReturnsOnly (registry.start host mask) fun outcome =>
      List.Forall₂ (Vendor.Reports host) registry.vendors outcome.1.vendors := by
    refine (returnsOnly_startFrom host registry.vendors 0 mask []).bind ?_
    rintro ⟨vendors, devices⟩ hvendors
    exact Run.returnsOnly_pure hvendors
  have hall := hreports before
  rw [hstart] at hall
  have hall : List.Forall₂ (Vendor.Reports host) registry.vendors started.vendors :=
    hall (started, devices) rfl
  obtain ⟨hlt, rfl⟩ := List.getElem?_eq_some_iff.mp hvendor
  have hlast : index < started.vendors.length := hall.length_eq ▸ hlt
  have hindex := (List.forall₂_iff_get.mp hall).2 index hlt hlast
  refine ⟨started.vendors[index], List.getElem?_eq_getElem hlast, ?_, ?_⟩
  · exact fun failure => hindex.init loaded failure hloaded
  · exact fun failure => hindex.enumeration loaded failure hloaded

/-- The driver denies the listing of its devices, but the vendor says that it was not initialized. -/
theorem lastError_lost_after_listing :
    let host : Host :=
      { libraries := { path := "/lib", libraries := [{ name := "libdrm.so.2" }] }
        drm := { count := -1002 }
        nvml := { count := .ok 0 }
        procfs := fun path => { path } }
    Vendor.EnumerationFails host (.amd {}) (.drm "no access") ∧
      ∃ started devices after last,
        StateT.run (ExceptT.run (standard.start host .all)) [] = (.ok (started, devices), after) ∧
        started.vendors[0]? = some last ∧
        last.lastErrorText host = "AMD backend was not initialized" ∧
        last.lastErrorText host ≠ (Vendor.amd {}).wording (.drm "no access") := by
  intro host
  have hfails : Vendor.EnumerationFails host (.amd {}) (.drm "no access") :=
    ⟨[], _, _, rfl, 0, .all, [], _, _, _, rfl⟩
  refine ⟨hfails, _, _, _, .amd {}, rfl, rfl, rfl, ?_⟩
  decide +kernel

/-- Without any library both messages can be read. -/
theorem lastError_of_start_without_libraries :
    let host : Host :=
      { libraries := { path := "/lib" }
        drm := { count := 0 }
        nvml := { count := .ok 0 }
        procfs := fun path => { path } }
    let failure := Failure.libraryLoad
      "libdrm.so.1: cannot open shared object file: No such file or directory"
    ∃ started devices after,
      StateT.run (ExceptT.run (standard.start host .all)) [] = (.ok (started, devices), after) ∧
      (Vendor.amd {}).loaded? = some false ∧ Vendor.InitFails host (.amd {}) failure ∧
      ∃ last, started.vendors[0]? = some last ∧ last.lastErrorText host = failure.message := by
  intro host failure
  have hstart : ∃ started devices after,
      StateT.run (ExceptT.run (standard.start host .all)) [] = (.ok (started, devices), after) :=
    ⟨_, _, _, rfl⟩
  obtain ⟨started, devices, after, hstart⟩ := hstart
  have hfails : Vendor.InitFails host (.amd {}) failure := ⟨[], _, _, rfl⟩
  have hvendor : standard.vendors[0]? = some (.amd {}) := rfl
  have hloaded : (Vendor.amd {}).loaded? = some false := rfl
  obtain ⟨last, hlast, hreads, -⟩ := lastError_of_start hstart hvendor hloaded
  exact ⟨started, devices, after, hstart, hloaded, hfails, last, hlast,
    (hreads failure hfails).mpr rfl⟩

end Registry

end GpuTelemetry
