import GpuTelemetry.Proofs.Collector.Ledger

/-!
# Contexts and handouts over a whole course

A course begins without vendors and devices and consists of any deeds in any order,
on a host that may be another one each time. Once the devices are dropped, every
context that was made has been ended once, while the node of its device was open
and the library that made it was loaded, and whatever the driver has handed out for
a moment was given back at once.
-/

namespace GpuTelemetry

open Ledger

/-- A collector, and all that was done on the way to it. -/
structure Course where
  collector : Collector
  history : List Entry := []

namespace Course

def new (settings : Settings) : Course where
  collector := { settings, registry := {}, devices := [] }

def next (course : Course) (host : Host) (deed : Collector.Deed) : Course :=
  let trace := course.history.map Prod.snd
  let result := StateT.run (course.collector.undergo host deed) trace
  { collector := result.1
    history := course.history ++ (result.2.drop trace.length).map (Prod.mk host.drm) }

section

variable {course : Course} {host : Host}

theorem devices_next_start {mask : DeviceMask} {registry : Registry} {found : List GpuDevice}
    (h : (StateT.run (ExceptT.run (course.collector.registry.start host mask))
      (course.history.map Prod.snd)).1 = .ok (registry, found)) :
    (course.next host (.start mask)).collector.devices = course.collector.devices ++ found :=
  congrArg Collector.devices (Collector.run_undergo_start h)

theorem devices_next_shutdown (count : Nat) :
    (course.next host (.shutdown count)).collector.devices = course.collector.devices.drop count :=
  course.collector.ensures_undergo_shutdown host count _

end

/-- Does some deeds, each on the host as it stands then. -/
def run : List (Host × Collector.Deed) → Course → Course
  | [], course => course
  | (host, deed) :: deeds, course => run deeds (course.next host deed)

/-- The contexts that are held are those of the devices that are left. -/
structure Sound (course : Course) : Prop where
  posts : ∃ left, PostsAll 0 course.history left ∧ Lost course.collector.ledger left
  prompt : Prompt (drmCalls course.history)

theorem sound_new (settings : Settings) : (new settings).Sound where
  posts := ⟨0, .nil, lost_self 0⟩
  prompt := .nil

theorem Sound.next {course : Course} (h : course.Sound) (host : Host) (deed : Collector.Deed) :
    (course.next host deed).Sound := by
  obtain ⟨left, hposts, lost, hlost, rfl⟩ := h.posts
  have hagrees : Agrees (course.history.map Prod.snd) (lost + course.collector.ledger) :=
    hposts.agrees agrees_nil
  obtain ⟨after, events, hfollows, hafter⟩ :=
    Collector.accounts_undergo host course.collector deed hlost _ hagrees
  have hevents : (course.next host deed).history =
      course.history ++ events.map (Prod.mk host.drm) := by
    rw [Course.next]
    dsimp only
    rw [hfollows.trace_eq, List.drop_left]
  constructor
  · refine ⟨after, ?_, hafter⟩
    rw [hevents]
    exact hposts.append hfollows.posts
  · rw [hevents, drmCalls_append]
    exact h.prompt.append hfollows.prompt

theorem Sound.run {course : Course} (h : course.Sound) (deeds : List (Host × Collector.Deed)) :
    (run deeds course).Sound := by
  induction deeds generalizing course with
  | nil => exact h
  | cons deed deeds ih => exact ih (h.next deed.1 deed.2)

/-- The contexts that were made and not ended are those of the devices that are left. -/
theorem Sound.balance {course : Course} (h : course.Sound) (index : Nat) :
    gains (· == .context index) course.history =
      losses (· == .context index) course.history +
        course.collector.ledger.count (.context index) := by
  obtain ⟨left, hposts, lost, hlost, rfl⟩ := h.posts
  have hbalance := hposts.balance (· == .context index)
  rwa [Multiset.countP_zero, Nat.zero_add, countP_beq, Multiset.count_add,
    Multiset.count_eq_zero.mpr (hlost index), Nat.zero_add] at hbalance

theorem Sound.balance_of_no_devices {course : Course} (h : course.Sound)
    (hdevices : course.collector.devices = []) (index : Nat) :
    gains (· == .context index) course.history = losses (· == .context index) course.history := by
  have hnone : course.collector.ledger.count (.context index) = 0 := by
    rw [Multiset.count_eq_zero, Collector.ledger, hdevices]
    exact ((Registry.contextless_sum_vendors _).add contextless_zero) index
  rw [h.balance index, hnone, Nat.add_zero]

/-- When a context of a device may be ended: one was made that is not ended yet, and all those
contexts have the node of the device and the library that made them to themselves. -/
structure MayEnd (index : Nat) (before : List Entry) : Prop where
  begun : losses (· == .context index) before < gains (· == .context index) before
  node : gains (· == .context index) before - losses (· == .context index) before ≤
    held (before.map Prod.snd) (.deviceNode index)
  library : gains Asset.isContext before - losses Asset.isContext before ≤
    held (before.map Prod.snd) .amdgpuLibrary

theorem mayEnd_of_postsAll {before after : List Entry} {driver : Drm.Driver} {index : Nat}
    {left : Ledger}
    (h : PostsAll 0 (before ++ (driver, .drm (.endContext index)) :: after) left) :
    MayEnd index before := by
  obtain ⟨middle, hbefore, hafter⟩ := h.exists_of_append
  have hagrees : Agrees (before.map Prod.snd) middle := hbefore.agrees agrees_nil
  -- no entry but one that removes a context has the ending of this one as its event
  have hbacked : middle.Backed ∧ .context index ∈ middle := by
    cases hafter with
    | cons hend _ =>
        cases hend with
        | gain hgain _ => cases hgain
        | plain _ hloss => cases hloss
        | loss _ hloss hbacked =>
            cases hloss
            exact ⟨hbacked rfl, Multiset.mem_cons_self _ _⟩
  have hcontext := hbefore.balance (· == .context index)
  have hcontexts := hbefore.balance Asset.isContext
  rw [Multiset.countP_zero, Nat.zero_add] at hcontext hcontexts
  rw [countP_beq] at hcontext
  have hnode := hbacked.1.node index
  have hlibrary := hbacked.1.library
  have hpos := Multiset.count_pos.mpr hbacked.2
  constructor
  · omega
  · rw [hagrees.held]
    omega
  · rw [hagrees.held]
    omega

theorem gains_le_next (p : Asset → Bool) (course : Course) (host : Host)
    (deed : Collector.Deed) : gains p course.history ≤ gains p (course.next host deed).history := by
  rw [next, gains_append]
  exact Nat.le_add_right _ _

/-- What is left of a course when its devices and its registry are dropped. -/
def dropped (host : Host) (course : Course) : Course :=
  (course.next host .dropDevices).next host .dropRegistry

theorem devices_dropped (host : Host) (course : Course) :
    (course.dropped host).collector.devices = [] :=
  rfl

/-- Over every course after which all devices and the registry are dropped, the contexts of each
device were made as often as they were ended, none was ended but in time, and all that was handed
out was given back at once. -/
theorem contexts_of_run (settings : Settings) (deeds : List (Host × Collector.Deed))
    (host : Host) :
    let last := dropped host (run deeds (new settings))
    last.collector.devices = [] ∧
    (∀ index, gains (· == .context index) last.history =
      losses (· == .context index) last.history) ∧
    (∀ before driver index after,
      last.history = before ++ (driver, .drm (.endContext index)) :: after →
        MayEnd index before) ∧
    Prompt (drmCalls last.history) := by
  intro last
  have hsound : last.Sound := (((sound_new settings).run deeds).next host _).next host _
  refine ⟨devices_dropped host _, ?_, ?_, hsound.prompt⟩
  · exact hsound.balance_of_no_devices (devices_dropped host _)
  · intro before driver index after hhistory
    obtain ⟨left, hposts, -⟩ := hsound.posts
    rw [hhistory] at hposts
    exact mayEnd_of_postsAll hposts

/-- The context of a device that is left is ended as the device is dropped. -/
theorem Sound.exists_end_of_mem {course : Course} (h : course.Sound) (host : Host) {index : Nat}
    {devices : List GpuDevice} (hdevices : course.collector.devices = devices)
    (hmem : .context index ∈ holdings devices) :
    ∃ before driver after, (course.dropped host).history =
      before ++ (driver, .drm (.endContext index)) :: after := by
  have hheld := h.balance index
  have hcount : 0 < course.collector.ledger.count (.context index) := by
    rw [Multiset.count_pos, Collector.ledger, hdevices, Multiset.mem_add]
    exact .inr hmem
  have hafter := ((h.next host .dropDevices).next host .dropRegistry).balance_of_no_devices
    (devices_dropped host course) index
  have hgains := (gains_le_next (· == .context index) course host .dropDevices).trans
    (gains_le_next (· == .context index) _ host .dropRegistry)
  have hlost : 0 < losses (· == .context index) (course.dropped host).history := by
    rw [dropped, ← hafter]
    omega
  obtain ⟨⟨driver, event⟩, hentry, hloss⟩ := List.countP_pos_iff.mp hlost
  obtain ⟨before, after, hsplit⟩ := List.append_of_mem hentry
  have hcontext : event.loss? = some (.context index) := by
    cases hasset : event.loss? with
    | none =>
        rw [hasset] at hloss
        cases hloss
    | some asset =>
        rw [hasset, Option.any_some, beq_iff_eq] at hloss
        rw [hloss]
  rw [Event.eq_endContext_of_loss? hcontext] at hsplit
  exact ⟨before, driver, after, hsplit⟩

/-- The vendor is shut down before its only device, whose context is still ended in time. -/
theorem contexts_of_early_shutdown :
    let device : Drm.ListedDevice :=
      { address := some ⟨1, 3, 0, 0⟩
        ids := some (Amd.vendorId, 0x73BF)
        renderNode := some { path := some "renderD128", opens := true }
        primaryNode := none
        version := some { name := some [97, 109, 100, 103, 112, 117], description := none } }
    let host : Host :=
      { libraries :=
          { path := "/lib", libraries := [{ name := "libdrm.so" }, { name := "libdrm_amdgpu.so" }] }
        drm := { count := 1, devices := [device] }
        nvml := { count := .ok 0 }
        procfs := fun path => { path } }
    let deeds : List (Host × Collector.Deed) :=
      [(host, .register .amd), (host, .start .all), (host, .shutdown 0)]
    ∃ before driver after, (dropped host (run deeds (new {}))).history =
      before ++ (driver, .drm (.endContext 0)) :: after ∧ MayEnd 0 before := by
  intro device host deeds
  obtain ⟨-, -, hends, -⟩ := contexts_of_run {} deeds host
  let registered : Registry := { vendors := [.amd {}] }
  -- the start finds the device
  have hagrees : host.drm.Agrees := ⟨by decide, fun _ => rfl⟩
  have hdevice : device.initStatus ≠ Int32.minValue := by decide
  have hreturns : ∀ vendor ∈ registered.vendors, vendor.Returns host := by
    intro vendor hvendor
    rw [List.mem_singleton.mp hvendor]
    exact Vendor.returns_amd hagrees (by simpa [host] using hdevice) {}
  have hdriver : device.driver? = some ("amdgpu", "") := by
    have hname : Drm.textOf [97, 109, 100, 103, 112, 117] = "amdgpu" := by decide +kernel
    exact congrArg (fun name => some (name, "")) hname
  have hreaches : device.reachesContext true = true := by
    rw [Drm.ListedDevice.reachesContext, hdriver]
    rfl
  have hfound := Drm.ListedDevice.found?_of_reaches host.pciDirectory 0 rfl hdriver hreaches
  have hstart : Run.Ensures (registered.start host .all) (·.isOk) := by
    refine (Registry.isOk_startFrom host _ hreturns 0 .all []).bind ?_ fun _ hfault => hfault
    rintro ⟨vendors, devices⟩ -
    exact Run.ensures_pure rfl
  have hok : ∃ result,
      (StateT.run (ExceptT.run (registered.start host .all)) []).1 = .ok result :=
    Fault.exists_of_isOk (hstart [])
  obtain ⟨⟨started, devices⟩, hresult⟩ := hok
  have hdevices := Registry.ensures_start host registered .all [] started devices hresult
  have hholds : .context 0 ∈ holdings devices := by
    have hmatched : Registry.matchedFrom host 0 registered.vendors =
        [(device.found? true host.pciDirectory 0).map fun found => OpenDevice.ofVendor 0
          { address := some found.address
            backend := .amd (String.ofList found.address) found.device }] := by
      have hoffers : ({} : Amd.Vendor).offers host =
          some [device.found? true host.pciDirectory 0] := rfl
      change ((((({} : Amd.Vendor).offers host).getD []).map _).map _) ++ [] = _
      rw [hoffers, Option.getD_some, List.map_singleton, List.map_singleton, Option.map_map]
      rfl
    have hattaches : (device.initStatus = 0 && !device.nullHandle) = true := rfl
    rw [hdevices, hmatched, hfound, if_pos hattaches]
    change _ ∈ holdings [_]
    rw [holdings_cons]
    exact Multiset.mem_add.mpr (.inl (Amd.Device.context_mem_ledger _))
  let ready : Course := { collector := { settings := {}, registry := registered, devices := [] } }
  have hready : (new {}).next host (.register .amd) = ready := rfl
  have hdeeds : run deeds (new {}) = (ready.next host (.start .all)).next host (.shutdown 0) :=
    congrArg (run [(host, .start .all), (host, .shutdown 0)]) hready
  -- the vendor does without its device
  have hlisted : (ready.next host (.start .all)).collector.devices = [] ++ devices :=
    devices_next_start hresult
  have hsound : (run deeds (new {})).Sound := (sound_new {}).run deeds
  have hleft : (run deeds (new {})).collector.devices = devices := by
    rw [hdeeds, devices_next_shutdown, List.drop_zero, hlisted, List.nil_append]
  obtain ⟨before, driver, after, hhistory⟩ := hsound.exists_end_of_mem host hleft hholds
  exact ⟨before, driver, after, hhistory, hends before driver 0 after hhistory⟩

end Course

end GpuTelemetry
