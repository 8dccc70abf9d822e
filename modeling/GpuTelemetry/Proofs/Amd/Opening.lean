import GpuTelemetry.Amd.Vendor
import GpuTelemetry.Proofs.Device.Selection
import GpuTelemetry.Proofs.Drm.Library

/-!
# Opening AMD devices

What keeps a listed device from being opened. A device that fails to open uses up
its bit and is skipped, but one status of an initialization cannot be put into a
text and ends the run in a fault instead.
-/

namespace GpuTelemetry

open Drm

namespace Drm

def DeviceNode.opened (node : DeviceNode) : Bool :=
  node.path.isSome && node.opens

namespace ListedDevice

/-- Name and description of the kernel driver. -/
def driver? (listed : ListedDevice) : Option (String × String) :=
  listed.version.map fun version =>
    ((version.name.map textOf).getD "", (version.description.map textOf).getD "")

/-- Whether a device counts as one of AMD, and so has a bit of the mask. -/
def isAmd (listed : ListedDevice) : Bool :=
  !listed.isNull && listed.busType = pciBus && listed.address.isSome &&
    listed.ids.any fun ids => ids.1 = Amd.vendorId

/-- Whether opening a device gets as far as making a device context. -/
def reachesContext (contexts : Bool) (listed : ListedDevice) : Bool :=
  (listed.renderNode.any DeviceNode.opened || listed.primaryNode.any DeviceNode.opened) &&
    (listed.driver?.any fun driver => driver.1 = "amdgpu") && contexts

/-- Whether making the device context is possible, and gives one. -/
def attaches (contexts : Bool) (listed : ListedDevice) : Bool :=
  listed.reachesContext contexts && listed.initStatus = 0 && !listed.nullHandle

/-- Whether making the device context is possible, and answers the status that has no text. -/
def overflows (contexts : Bool) (listed : ListedDevice) : Bool :=
  listed.reachesContext contexts && listed.initStatus = Int32.minValue

/-- What opening the device with a place in the list gives, if it succeeds. -/
def found? (contexts : Bool) (trees : String → Sysfs.FileTree) (listed : ListedDevice)
    (index : Nat) : Option Amd.Found := do
  let address ← listed.address
  let (_, description) ← listed.driver?
  if listed.attaches contexts then
    let sensors := Sysfs.Sensors.ofTree (trees (String.ofList address.text))
    some { address := address.text, device := { index, description, sensors } }
  else none

end ListedDevice

section

variable {contexts : Bool} {listed : ListedDevice} (trees : String → Sysfs.FileTree) (index : Nat)

theorem ListedDevice.reachesContext_iff :
    listed.reachesContext contexts = true ↔
      (listed.renderNode.any DeviceNode.opened || listed.primaryNode.any DeviceNode.opened) = true ∧
        (∃ description, listed.driver? = some ("amdgpu", description)) ∧ contexts = true := by
  have hdriver : (listed.driver?.any fun driver => driver.1 = "amdgpu") = true ↔
      ∃ description, listed.driver? = some ("amdgpu", description) := by
    cases listed.driver? with
    | none => simp
    | some driver =>
        obtain ⟨name, description⟩ := driver
        simp
  rw [reachesContext, Bool.and_eq_true, Bool.and_eq_true, hdriver, and_assoc]

theorem ListedDevice.overflows_of_not_reaches (h : listed.reachesContext contexts = false) :
    listed.overflows contexts = false := by
  rw [overflows, h, Bool.false_and]

theorem ListedDevice.found?_of_not_reaches (h : listed.reachesContext contexts = false) :
    listed.found? contexts trees index = none := by
  have hattaches : listed.attaches contexts = false := by
    rw [attaches, h, Bool.false_and, Bool.false_and]
  rw [found?, hattaches]
  cases listed.address <;> cases listed.driver? <;> rfl

theorem ListedDevice.found?_of_reaches {address : PciAddress} {name description : String}
    (haddress : listed.address = some address) (hdriver : listed.driver? = some (name, description))
    (h : listed.reachesContext contexts = true) :
    listed.found? contexts trees index =
      if listed.initStatus = 0 && !listed.nullHandle then
        let sensors := Sysfs.Sensors.ofTree (trees (String.ofList address.text))
        some { address := address.text, device := { index, description, sensors } }
      else none := by
  rw [found?, haddress, hdriver, attaches, h, Bool.true_and]
  rfl

theorem ListedDevice.address_of_found? {address : PciAddress} {found : Amd.Found}
    (haddress : listed.address = some address)
    (h : listed.found? contexts trees index = some found) : found.address = address.text := by
  rw [found?, haddress, Option.bind_eq_bind, Option.bind_some, Option.bind_eq_bind,
    Option.bind_eq_some_iff] at h
  obtain ⟨⟨name, description⟩, _, h⟩ := h
  dsimp only at h
  by_cases hattaches : listed.attaches contexts = true
  · rw [if_pos hattaches] at h
    cases h
    rfl
  · rw [if_neg hattaches] at h
    cases h

end

end Drm

namespace Amd

variable {driver : Driver} {listed : ListedDevice} {index : Nat}

theorem ensures_openNode (nodes : List DeviceNode) :
    Traced.Ensures (openNode index nodes) (· = nodes.any DeviceNode.opened) := by
  induction nodes with
  | nil => exact Traced.ensures_pure rfl
  | cons node nodes ih =>
      obtain ⟨path, opens, refusal⟩ := node
      rw [openNode, List.any_cons]
      cases path with
      | none => exact ih
      | some path =>
          cases opens with
          | true => exact Traced.ensures_unit_bind (Traced.ensures_pure rfl)
          | false => exact Traced.ensures_unit_bind ih

theorem ensures_driverVersion (hlisted : driver.device? index = some listed) :
    Traced.Ensures (driverVersion driver index) (· = listed.driver?) := by
  rw [driverVersion]
  apply Traced.ensures_unit_bind
  rw [hlisted, Option.bind_some, ListedDevice.driver?]
  cases listed.version with
  | none => exact Traced.ensures_pure rfl
  | some version => exact Traced.ensures_unit_bind (Traced.ensures_pure rfl)

section

variable (hlisted : driver.device? index = some listed)

include hlisted

theorem openContext_of_listed :
    openContext driver index = do
      call (.beginContext index)
      if listed.initStatus ≠ 0 || listed.nullHandle then
        let text ← statusText listed.initStatus
        return .error (.drm ("amdgpu_device_initialize failed: " ++ text))
      else
        log .debug .drmLibrary ("amdgpu DRM interface " ++ toString listed.interface.1.toNat ++
          "." ++ toString listed.interface.2.toNat)
        return .ok () := by
  rw [openContext, hlisted]
  rfl

theorem ensures_openContext_of_minValue (h : listed.initStatus = Int32.minValue) :
    Run.Ensures (openContext driver index) (· = .error .negationOverflow) := by
  have hfails : (listed.initStatus ≠ 0 || listed.nullHandle) = true := by
    simp only [h]
    rfl
  rw [openContext_of_listed hlisted]
  apply Run.ensures_unit_bind
  rw [if_pos hfails, h, statusText_minValue]
  exact (Run.ensures_ofExcept rfl).bind_error rfl

theorem ensures_openContext_of_attached
    (h : (listed.initStatus = 0 && !listed.nullHandle) = true) :
    Run.Ensures (openContext driver index) (· = .ok (.ok ())) := by
  have hsucceeds : ¬(listed.initStatus ≠ 0 || listed.nullHandle) = true := by
    revert h
    cases listed.nullHandle <;> simp
  rw [openContext_of_listed hlisted]
  apply Run.ensures_unit_bind
  rw [if_neg hsucceeds]
  exact Run.ensures_unit_bind (Run.ensures_pure rfl)

theorem ensures_openContext_of_not_attached (hmin : listed.initStatus ≠ Int32.minValue)
    (h : ¬(listed.initStatus = 0 && !listed.nullHandle) = true) :
    Run.Ensures (openContext driver index) fun result =>
      ∃ failure, result = .ok (.error failure) := by
  have hfails : (listed.initStatus ≠ 0 || listed.nullHandle) = true := by
    revert h
    cases listed.nullHandle <;> simp
  obtain ⟨text, htext⟩ := exists_statusText hmin
  rw [openContext_of_listed hlisted]
  apply Run.ensures_unit_bind
  rw [if_pos hfails, htext]
  exact (Run.ensures_ofExcept rfl).bind_ok (Run.ensures_pure ⟨_, rfl⟩)

end

/-- A listed PCI device, as it was copied out of the list. -/
structure Describes (driver : Driver) (device : PciDevice) (entry : ListedDevice × Nat) :
    Prop where
  listed : driver.device? entry.2 = some entry.1
  index_eq : device.index = entry.2
  address_eq : entry.1.address = some device.address
  nodes_eq : device.nodes = entry.1.renderNode.toList ++ entry.1.primaryNode.toList

section

variable {device : PciDevice} {entry : ListedDevice × Nat} (h : Describes driver device entry)
  (contexts : Bool) (trees : String → Sysfs.FileTree)

include h

theorem Describes.any_opened :
    device.nodes.any DeviceNode.opened =
      (entry.1.renderNode.any DeviceNode.opened || entry.1.primaryNode.any DeviceNode.opened) := by
  rw [h.nodes_eq, List.any_append]
  cases entry.1.renderNode <;> cases entry.1.primaryNode <;> simp

/-- Before a device context can be made, a device only fails to open. -/
theorem ensures_attach_of_not_reaches (hnodes : device.nodes.any DeviceNode.opened = true)
    (hnot : entry.1.reachesContext contexts = false) :
    Run.Ensures (attach driver (trees (String.ofList device.address.text)) contexts device)
      fun result => ∃ failure, result = .ok (.error failure) := by
  rw [attach, h.index_eq]
  refine Run.ensures_lift_bind (ensures_driverVersion h.listed) ?_
  rintro _ rfl
  cases hdriver : entry.1.driver? with
  | none => exact Run.ensures_pure ⟨_, rfl⟩
  | some driver =>
      obtain ⟨name, description⟩ := driver
      dsimp only
      by_cases hname : name ≠ "amdgpu"
      · rw [if_pos hname]
        exact Run.ensures_pure ⟨_, rfl⟩
      rw [if_neg hname]
      apply Run.ensures_unit_bind
      by_cases hcontexts : (!contexts) = true
      · rw [if_pos hcontexts]
        exact Run.ensures_pure ⟨_, rfl⟩
      have hreaches : entry.1.reachesContext contexts = true := by
        rw [ListedDevice.reachesContext_iff, ← h.any_opened]
        refine ⟨hnodes, ⟨description, ?_⟩, by simpa using hcontexts⟩
        rw [hdriver, not_not.mp hname]
      rw [hnot] at hreaches
      cases hreaches

theorem ensures_attach_of_reaches (hreaches : entry.1.reachesContext contexts = true) :
    Run.Ensures (attach driver (trees (String.ofList device.address.text)) contexts device)
      fun result => result.map Except.toOption =
        if entry.1.overflows contexts then .error .negationOverflow
        else .ok ((entry.1.found? contexts trees entry.2).map Found.device) := by
  obtain ⟨-, ⟨description, hdriver⟩, hcontexts⟩ := ListedDevice.reachesContext_iff.mp hreaches
  have hloaded : ¬(!contexts) = true := by simp [hcontexts]
  rw [attach, h.index_eq, ListedDevice.overflows, hreaches, Bool.true_and,
    ListedDevice.found?_of_reaches _ _ h.address_eq hdriver hreaches]
  refine Run.ensures_lift_bind (ensures_driverVersion h.listed) ?_
  rintro _ rfl
  rw [hdriver]
  dsimp only
  rw [if_neg (not_not.mpr rfl)]
  apply Run.ensures_unit_bind
  rw [if_neg hloaded]
  by_cases hmin : entry.1.initStatus = Int32.minValue
  · rw [decide_eq_true hmin, if_pos rfl]
    exact (ensures_openContext_of_minValue h.listed hmin).bind_error rfl
  rw [decide_eq_false hmin]
  by_cases hattached : (entry.1.initStatus = 0 && !entry.1.nullHandle) = true
  · rw [if_pos hattached]
    refine (ensures_openContext_of_attached h.listed hattached).bind_ok ?_
    apply Run.ensures_unit_bind
    -- whether there are sensors is logged, but does not keep the device from being found
    split
    · apply Run.ensures_unit_bind
      apply Run.ensures_unit_bind
      exact Run.ensures_unit_bind (Run.ensures_pure rfl)
    · apply Run.ensures_unit_bind
      exact Run.ensures_unit_bind (Run.ensures_pure rfl)
  · rw [if_neg hattached]
    refine (ensures_openContext_of_not_attached h.listed hmin hattached).bind ?_ ?_
    · rintro outcome ⟨failure, houtcome⟩
      cases houtcome
      exact Run.ensures_pure rfl
    · rintro fault ⟨_, hfault⟩
      cases hfault

theorem ensures_attach (hnodes : device.nodes.any DeviceNode.opened = true) :
    Run.Ensures (attach driver (trees (String.ofList device.address.text)) contexts device)
      fun result => result.map Except.toOption =
        if entry.1.overflows contexts then .error .negationOverflow
        else .ok ((entry.1.found? contexts trees entry.2).map Found.device) := by
  cases hreaches : entry.1.reachesContext contexts with
  | true => exact ensures_attach_of_reaches h contexts trees hreaches
  | false =>
      refine (ensures_attach_of_not_reaches h contexts trees hnodes hreaches).mono ?_
      rintro _ ⟨failure, rfl⟩
      rw [ListedDevice.overflows_of_not_reaches hreaches,
        ListedDevice.found?_of_not_reaches _ _ hreaches]
      rfl

theorem ensures_openDevice :
    Run.Ensures (openDevice driver (trees (String.ofList device.address.text)) contexts device)
      fun result => result.map Except.toOption =
        if entry.1.overflows contexts then .error .negationOverflow
        else .ok ((entry.1.found? contexts trees entry.2).map Found.device) := by
  rw [openDevice]
  refine Run.ensures_lift_bind (ensures_openNode device.nodes) ?_
  intro opened hopened
  cases opened with
  | true =>
      refine ((ensures_attach h contexts trees hopened.symm).onFault _).bind ?_ ?_
      · intro outcome houtcome
        cases outcome with
        | ok _ => exact Run.ensures_pure houtcome
        | error failure => exact Run.ensures_unit_bind (Run.ensures_pure houtcome)
      · intro fault hfault
        exact hfault
  | false =>
      have hunreached : entry.1.reachesContext contexts = false := by
        rw [ListedDevice.reachesContext, ← h.any_opened, ← hopened, Bool.false_and, Bool.false_and]
      rw [ListedDevice.overflows_of_not_reaches hunreached,
        ListedDevice.found?_of_not_reaches _ _ hunreached]
      exact Run.ensures_pure rfl

end

/-- A faulting device ends the enumeration; any other one only uses up its bit. -/
theorem ensures_openSelected (contexts : Bool) (trees : String → Sysfs.FileTree)
    {devices : List PciDevice} {entries : List (ListedDevice × Nat)}
    (h : List.Forall₂ (Describes driver) devices entries) (mask : DeviceMask)
    (found : List Found) :
    Run.Ensures (openSelected driver trees contexts devices mask found) (· =
      if (mask.select entries).any fun entry => entry.1.overflows contexts then
        .error .negationOverflow
      else .ok (found ++ (mask.select entries).filterMap fun entry =>
        entry.1.found? contexts trees entry.2, mask.after entries.length)) := by
  induction h generalizing mask found with
  | nil =>
      apply Run.ensures_pure
      simp
  | @cons device entry devices entries hdevice _ ih =>
      rw [openSelected, DeviceMask.select_cons, List.length_cons, DeviceMask.after_succ]
      dsimp only
      by_cases hselected : mask.selected = true
      · have hincluded : ¬(!mask.selected) = true := by simp [hselected]
        rw [if_neg hincluded, if_pos hselected, List.any_cons, List.filterMap_cons]
        have hopen := (ensures_openDevice hdevice contexts trees).onFault (releaseAll found)
        cases hoverflows : entry.1.overflows contexts with
        | true =>
          rw [hoverflows, if_pos rfl] at hopen
          rw [Bool.true_or, if_pos rfl]
          refine hopen.bind nofun ?_
          intro fault hfault
          cases hfault
          rfl
        | false =>
          rw [hoverflows, if_neg Bool.false_ne_true] at hopen
          rw [Bool.false_or]
          refine hopen.bind ?_ nofun
          intro outcome houtcome
          have hfound := Except.ok.inj houtcome
          cases outcome with
          | error failure =>
              have hnone := Option.map_eq_none_iff.mp hfound.symm
              rw [hnone]
              exact Run.ensures_unit_bind (ih mask.rest found)
          | ok opened =>
              obtain ⟨f, hf, hdev⟩ := Option.map_eq_some_iff.mp hfound.symm
              have haddress := ListedDevice.address_of_found? _ _ hdevice.address_eq hf
              rw [hf, ← haddress, ← hdev]
              have htail := ih mask.rest (found ++ [f])
              rw [List.append_assoc, List.singleton_append] at htail
              exact htail
      · have hexcluded : (!mask.selected) = true := by simp [hselected]
        rw [if_pos hexcluded, if_neg hselected]
        exact Run.ensures_unit_bind (ih mask.rest found)

end Amd

end GpuTelemetry
