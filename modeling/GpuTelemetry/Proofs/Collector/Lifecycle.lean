import GpuTelemetry.Proofs.Collector.Clients
import GpuTelemetry.Proofs.Device.Holding
import GpuTelemetry.Proofs.Vendor.Endurance
import Mathlib.Data.List.Count

/-!
# The lives of vendors and devices

Polling calls no vendor and gives up no device. The first shutdown gives up every
device before it shuts down the vendors, and later ones only shut down the
vendors again. So the calls to the vendors and the devices that are given up over
a whole life follow from the construction and the number of shutdowns.
-/

namespace GpuTelemetry

namespace Registry

def registerAll : List Vendor → Registry → Traced Registry
  | [], registry => return registry
  | vendor :: vendors, registry => do
    let (registry, _) ← registry.register vendor
    registerAll vendors registry

/-- Vendors of different names are numbered in the order of registration. -/
theorem registerAll_of_nodup (registry : Registry) {vendors : List Vendor}
    (h : ((registry.vendors ++ vendors).map Vendor.name).Nodup) (trace : List Event) :
    StateT.run (registerAll vendors registry) trace =
      ({ vendors := registry.vendors ++ vendors }, trace) := by
  induction vendors generalizing registry with
  | nil =>
      rw [List.append_nil]
      rfl
  | cons vendor vendors ih =>
      have hnew : registry.find? vendor.name = none := by
        rw [find?, List.findIdx?_eq_none_iff]
        intro other hother
        rw [List.map_append, List.map_cons] at h
        have hdisjoint := List.nodup_append.mp h
        have hne : other.name ≠ vendor.name :=
          hdisjoint.2.2 _ (List.mem_map_of_mem hother) _ List.mem_cons_self
        exact decide_eq_false hne
      have hrest := ih { vendors := registry.vendors ++ [vendor] }
        (by rw [List.append_assoc]; exact h)
      rw [List.append_assoc] at hrest
      rw [registerAll, register, hnew]
      exact hrest

end Registry

namespace Collector

/-! ## Polling -/

section

variable (host : Host)

theorem size_endCycle {cache : ProcessCache} (h : cache.size = 0) : cache.endCycle.size = 0 := by
  simp only [ProcessCache.size, Generations.size, Nat.add_eq_zero_iff,
    List.length_eq_zero_iff] at h ⊢
  simp [ProcessCache.endCycle, Generations.rotate, h.2]

theorem silent_step (collector : Collector) (step : Step) :
    Run.Silent (collector.step host step) := by
  cases step with
  | populateStatic => exact Run.keeps_pure _
  | refreshDynamic => exact Run.keeps_ofExcept _
  | backfill => exact Run.keeps_pure _
  | refreshProcesses =>
      have hsweep : ∀ root devices, Run.Silent (sweep host root devices) := by
        intro root devices
        have hwalk : Run.Silent (monadLift (Procfs.sweep host.sameOpenFile root devices)) :=
          Run.keeps_ofExcept _
        rw [sweep]
        split
        · cases root.listing with
          | error reason => exact Run.keeps_lift_bind (Traced.silent_log _ _ _) fun _ => hwalk
          | ok entries => exact hwalk
        · exact hwalk
      have hquestions : ∀ cache count, Traced.Silent (emitQuestions cache count) :=
        fun _ _ => Traced.keeps_forM fun _ => Traced.keeps_emit rfl
      have hcycle : ∀ cache, Traced.Silent (endProcessCycle cache) := by
        intro cache
        rw [endProcessCycle]
        split
        · exact (Traced.silent_log _ _ _).bind fun _ => Traced.keeps_pure _
        · exact Traced.keeps_pure _
      change Run.Silent (collector.refreshProcesses host)
      rw [refreshProcesses]
      dsimp only
      split
      · exact Run.keeps_pure _
      · refine (hsweep _ _).bind fun devices => ?_
        refine Run.keeps_lift_bind (hquestions _ _) fun _ => ?_
        exact Run.keeps_lift_bind (hcycle _) fun _ => Run.keeps_pure _

theorem ensures_endProcessCycle (cache : ProcessCache) :
    Traced.Ensures (endProcessCycle cache) (· = cache.endCycle) := by
  rw [endProcessCycle]
  split
  · exact Traced.ensures_unit_bind (Traced.ensures_pure rfl)
  · exact Traced.ensures_pure rfl

/-- A polling step keeps the registry and what its devices hold, and it makes no entries in the
cache where there are no devices. -/
theorem ensures_step (collector : Collector) (step : Step) :
    Run.Ensures (collector.step host step) fun result =>
      ∀ after, result = .ok after →
        after.registry = collector.registry ∧
        after.devices.map Device.holding = collector.devices.map Device.holding ∧
        (collector.devices = [] → collector.cache.size = 0 → after.cache.size = 0) := by
  cases step with
  | populateStatic =>
      apply Run.ensures_pure
      rintro _ ⟨⟩
      exact ⟨rfl, map_holding_populateStatic host collector.devices, fun _ h => h⟩
  | refreshDynamic =>
      apply Run.ensures_ofExcept
      intro after hafter
      obtain ⟨devices, hdevices, rfl⟩ := Fault.map_eq_ok_iff.mp hafter
      exact ⟨rfl, map_holding_refreshDynamic host hdevices, fun _ h => h⟩
  | backfill =>
      apply Run.ensures_pure
      rintro _ ⟨⟩
      refine ⟨rfl, ?_, fun _ h => h⟩
      rw [backfill, List.map_map]
      rfl
  | refreshProcesses =>
      have hcleared : (collector.devices.map Device.clearProcesses).map Device.holding =
          collector.devices.map Device.holding := by
        rw [List.map_map]
        rfl
      change Run.Ensures (collector.refreshProcesses host) _
      rw [refreshProcesses]
      dsimp only
      split
      · apply Run.ensures_pure
        rintro _ ⟨⟩
        exact ⟨rfl, hcleared, fun _ h => h⟩
      · refine (ensures_sweep host _ _).bind ?_ ?_
        · intro swept hswept
          have hholding : swept.map Device.holding = collector.devices.map Device.holding :=
            (map_holding_sweep hswept.symm).trans hcleared
          apply Run.ensures_unit_bind
          refine Run.ensures_lift_bind (ensures_endProcessCycle _) ?_
          rintro _ rfl
          apply Run.ensures_pure
          rintro _ ⟨⟩
          refine ⟨rfl, (map_holding_refreshDeviceProcesses host _ swept).trans hholding, ?_⟩
          intro hnone hcache
          rw [hnone, List.map_nil, List.map_eq_nil_iff] at hholding
          rw [hholding]
          exact size_endCycle hcache
        · intro fault _ after hafter
          cases hafter

/-- Without devices there is nothing that could fault. -/
theorem isOk_step_of_no_devices {collector : Collector} (h : collector.devices = [])
    (step : Step) : Run.Ensures (collector.step host step) (·.isOk) := by
  cases step with
  | populateStatic => exact Run.ensures_pure rfl
  | backfill => exact Run.ensures_pure rfl
  | refreshDynamic =>
      apply Run.ensures_ofExcept
      rw [refreshDynamic, h]
      rfl
  | refreshProcesses =>
      change Run.Ensures (collector.refreshProcesses host) _
      rw [refreshProcesses, h]
      dsimp only
      split
      · exact Run.ensures_pure rfl
      · refine (ensures_sweep host _ _).bind ?_ ?_
        · intro swept _
          apply Run.ensures_unit_bind
          refine Run.ensures_lift_bind (ensures_endProcessCycle _) ?_
          intro _ _
          exact Run.ensures_pure rfl
        · intro fault hfault
          cases hfault

end

/-! ## Lives -/

/-- What is done to a collector: a polling step on the host as it stands then, or a shutdown. -/
inductive Act
  | poll (host : Host) (step : Step)
  | shutdown

def Act.isShutdown : Act → Bool
  | poll _ _ => false
  | shutdown => true

def act (collector : Collector) : Act → Run Collector
  | .poll host step => collector.step host step
  | .shutdown => collector.shutdown

def perform : List Act → Collector → Run Collector
  | [], collector => return collector
  | first :: rest, collector => do
    let collector ← collector.act first
    perform rest collector

/-- The lifecycle events of a number of shutdowns of a collector that has some devices and as many
vendors as `count` says. -/
def shutdownTrace (devices : List GpuDevice) (count : Nat) : Nat → List Event
  | 0 => []
  | number + 1 =>
    releases devices ++ (List.replicate (number + 1) (Registry.shutdownCalls count)).flatten

theorem shutdownTrace_succ (devices : List GpuDevice) (count number : Nat) :
    shutdownTrace devices count (number + 1) =
      shutdownTrace devices count number ++
        ((if number = 0 then releases devices else []) ++ Registry.shutdownCalls count) := by
  cases number with
  | zero => simp [shutdownTrace]
  | succ number =>
      rw [shutdownTrace, shutdownTrace, if_neg (Nat.succ_ne_zero number), List.nil_append,
        List.replicate_succ' (n := number + 1), List.flatten_append, List.flatten_singleton,
        List.append_assoc]

section Counting

variable (devices : List GpuDevice) {count index : Nat}

theorem count_shutdownCalls (h : index < count) :
    (Registry.shutdownCalls count).count (.vendor index .shutdown) = 1 := by
  have hinjective : Function.Injective fun index => Event.vendor index .shutdown := by
    rintro _ _ ⟨⟩
    rfl
  rw [Registry.shutdownCalls, List.count_map_of_injective _ _ hinjective, List.count_range,
    if_pos h]

theorem count_releases :
    (releases devices).count (.deviceReleased index) =
      (devices.filter fun device => device.vendor == index).length := by
  rw [releases, List.count, List.countP_map, List.countP_eq_length_filter]
  congr 2
  funext device
  simp

theorem count_shutdown_shutdownTrace (h : index < count) (number : Nat) :
    (shutdownTrace devices count number).count (.vendor index .shutdown) = number := by
  have hreleases : (releases devices).count (.vendor index .shutdown) = 0 := by
    refine List.count_eq_zero_of_not_mem fun hmem => ?_
    obtain ⟨device, -, hdevice⟩ := List.mem_map.mp hmem
    cases hdevice
  induction number with
  | zero => rfl
  | succ number ih =>
      rw [shutdownTrace_succ, List.count_append, List.count_append, ih, count_shutdownCalls h]
      split
      · rw [hreleases, Nat.zero_add]
      · rw [List.count_nil, Nat.zero_add]

/-- Nothing else than the shutdown of a vendor is called while shutting down. -/
theorem count_vendor_shutdownTrace {call : VendorCall} (h : call ≠ .shutdown) (number : Nat) :
    (shutdownTrace devices count number).count (.vendor index call) = 0 := by
  refine List.count_eq_zero_of_not_mem fun hmem => ?_
  have hcalls : .vendor index call ∉ Registry.shutdownCalls count := by
    intro hmem
    obtain ⟨other, -, hother⟩ := List.mem_map.mp hmem
    cases hother
    exact h rfl
  have hreleases : .vendor index call ∉ releases devices := by
    intro hmem
    obtain ⟨device, -, hdevice⟩ := List.mem_map.mp hmem
    cases hdevice
  induction number with
  | zero => cases hmem
  | succ number ih =>
      rw [shutdownTrace_succ, List.mem_append, List.mem_append] at hmem
      rcases hmem with hmem | hmem | hmem
      · exact ih hmem
      · split at hmem
        · exact hreleases hmem
        · cases hmem
      · exact hcalls hmem

theorem count_deviceReleased_shutdownTrace (number : Nat) :
    (shutdownTrace devices count (number + 1)).count (.deviceReleased index) =
      (devices.filter fun device => device.vendor == index).length := by
  have hcalls : (Registry.shutdownCalls count).count (.deviceReleased index) = 0 := by
    refine List.count_eq_zero_of_not_mem fun hmem => ?_
    obtain ⟨other, -, hother⟩ := List.mem_map.mp hmem
    cases hother
  rw [shutdownTrace, List.count_append, count_releases, List.count_flatten, List.map_replicate,
    hcalls, List.sum_replicate_nat, Nat.mul_zero, Nat.add_zero]

theorem count_events (host : Host) (turn : Turn) :
    (turn.events host).count (.vendor turn.index .init) = 1 ∧
    (turn.events host).count (.vendor turn.index .enumerate) =
      (if turn.vendor.starts host then 1 else 0) ∧
    (turn.events host).count (.vendor turn.index .shutdown) =
      (if turn.devices host = [] then 1 else 0) ∧
    (turn.events host).count (.deviceReleased turn.index) = 0 := by
  rw [Turn.events, Turn.calls]
  cases turn.vendor.starts host <;> cases turn.devices host <;> simp

end Counting

/-- How a collector stands that was constructed with some devices and was shut down a number of
times. -/
structure Stands (devices : List GpuDevice) (count number : Nat) (collector : Collector) :
    Prop where
  vendors : collector.registry.vendors.length = count
  holding : number = 0 → collector.devices.map Device.holding = devices.map Device.holding
  devices_nil : number ≠ 0 → collector.devices = []
  cache : number ≠ 0 → collector.cache.size = 0

variable {devices : List GpuDevice} {count number : Nat} {collector : Collector}

theorem Stands.step (h : collector.Stands devices count number) (host : Host) (step : Step) :
    Run.Leaves (collector.step host step) fun after events =>
      after.Stands devices count number ∧ events = [] := by
  refine ((silent_step host collector step).leaves.and (ensures_step host collector step)).mono ?_
  rintro after _ ⟨rfl, hafter⟩
  obtain ⟨hregistry, hholding, hcache⟩ := hafter after rfl
  refine ⟨⟨?_, ?_, ?_, ?_⟩, rfl⟩
  · rw [hregistry, h.vendors]
  · intro hnone
    rw [hholding, h.holding hnone]
  · intro hsome
    rw [h.devices_nil hsome, List.map_nil, List.map_eq_nil_iff] at hholding
    exact hholding
  · intro hsome
    exact hcache (h.devices_nil hsome) (h.cache hsome)

theorem Stands.shutdown (h : collector.Stands devices count number) :
    Run.Leaves collector.shutdown fun after events =>
      after.Stands devices count (number + 1) ∧
      events = (if number = 0 then releases devices else []) ++ Registry.shutdownCalls count := by
  have hreleases : releases collector.devices = if number = 0 then releases devices else [] := by
    split
    next hnone => exact releases_of_map_holding (h.holding hnone)
    next hsome =>
      rw [h.devices_nil hsome]
      rfl
  rw [Collector.shutdown]
  refine (collector.registry.leaves_shutdown collector.devices).bind ?_
  rintro registry _ ⟨hround, rfl⟩
  apply Run.leaves_pure
  refine ⟨⟨hround.length_eq.trans h.vendors, ?_, fun _ => rfl, fun _ => rfl⟩, ?_⟩
  · exact fun hnone => absurd hnone (Nat.succ_ne_zero number)
  · rw [List.append_nil, hreleases, h.vendors]

theorem Stands.perform (h : collector.Stands devices count number) (acts : List Act) :
    Run.Leaves (perform acts collector) fun after events =>
      after.Stands devices count (number + acts.countP Act.isShutdown) ∧
      shutdownTrace devices count (number + acts.countP Act.isShutdown) =
        shutdownTrace devices count number ++ events := by
  -- `shutdownTrace` of the shutdowns so far is the invariant, to which each act adds its own part
  induction acts generalizing collector number with
  | nil => exact Run.leaves_pure ⟨h, (List.append_nil _).symm⟩
  | cons first rest ih =>
      rw [perform]
      cases first with
      | poll host step =>
          rw [List.countP_cons_of_neg (by simp [Act.isShutdown])]
          refine Run.Leaves.bind (h.step host step) ?_
          rintro after _ ⟨hafter, rfl⟩
          exact ih hafter
      | shutdown =>
          have hnumber : number + (Act.shutdown :: rest).countP Act.isShutdown =
              number + 1 + rest.countP Act.isShutdown := by
            rw [List.countP_cons_of_pos rfl]
            omega
          rw [hnumber]
          refine Run.Leaves.bind h.shutdown ?_
          rintro after _ ⟨hafter, rfl⟩
          refine (ih hafter).mono ?_
          rintro last events ⟨hlast, hevents⟩
          refine ⟨hlast, ?_⟩
          rw [hevents, shutdownTrace_succ, List.append_assoc]

/-- Neither giving up the devices nor shutting down the vendors ever faults. -/
structure Releasable (collector : Collector) : Prop where
  vendors : ∀ vendor ∈ collector.registry.vendors, vendor.Lasting
  devices : ∀ device ∈ collector.devices, device.Yields

theorem Releasable.step (h : collector.Releasable) (host : Host) (step : Step) :
    Run.Ensures (collector.step host step) fun result =>
      ∀ after, result = .ok after → after.Releasable := by
  refine (ensures_step host collector step).mono ?_
  intro result hresult after hafter
  obtain ⟨hregistry, hholding, -⟩ := hresult after hafter
  constructor
  · rw [hregistry]
    exact h.vendors
  · exact yields_of_map_holding hholding h.devices

theorem Releasable.shutdown (h : collector.Releasable) :
    Run.Returns collector.shutdown Releasable := by
  rw [Collector.shutdown]
  refine (Registry.returns_shutdown h.vendors h.devices).bind ?_
  intro registry hlasting
  exact Run.returns_pure ⟨hlasting, List.forall_mem_nil _⟩

theorem Releasable.perform (h : collector.Releasable) (acts : List Act) :
    Run.Ensures (perform acts collector) fun result =>
      ∀ after, result = .ok after → after.Releasable := by
  induction acts generalizing collector with
  | nil =>
      apply Run.ensures_pure
      rintro _ ⟨⟩
      exact h
  | cons first rest ih =>
      rw [Collector.perform]
      have hfirst : Run.Ensures (collector.act first) fun result =>
          ∀ after, result = .ok after → after.Releasable := by
        cases first with
        | poll host step => exact h.step host step
        | shutdown =>
            refine h.shutdown.mono ?_
            rintro _ ⟨after, rfl, hafter⟩ _ ⟨⟩
            exact hafter
      refine hfirst.bind ?_ ?_
      · intro after hafter
        exact ih (hafter after rfl)
      · intro fault _ after hfault
        cases hfault

/-! ## Whole lives -/

/-- Registers some vendors and finds their devices. -/
def construct (host : Host) (settings : Settings) (vendors : List Vendor) : Run Collector := do
  let registry ← Registry.registerAll vendors {}
  start host settings registry

def turnOf (host : Host) (settings : Settings) (vendors : List Vendor) (index : Nat)
    (vendor : Vendor) : Turn :=
  { index, vendor, mask := settings.mask.after (bitsOf host (vendors.take index)) }

/-- How often a vendor was called over a life that ended with some shutdown, and how many devices
of it were given up. -/
structure Tally (host : Host) (turn : Turn) (shutdowns : Nat) (trace : List Event) : Prop where
  init : trace.count (.vendor turn.index .init) = 1
  enumerate : trace.count (.vendor turn.index .enumerate) =
    if turn.vendor.starts host then 1 else 0
  shutdown : trace.count (.vendor turn.index .shutdown) =
    shutdowns + if turn.devices host = [] then 1 else 0
  released : trace.count (.deviceReleased turn.index) = (turn.devices host).length

/-- A collector as it was constructed for some vendors, and as it is after some acts. -/
structure Life (host : Host) (settings : Settings) (vendors : List Vendor) where
  collector : Collector
  built : List Event
  acts : List Act
  last : Collector
  trace : List Event
  constructed : StateT.run (ExceptT.run (construct host settings vendors)) [] =
    (.ok collector, built)
  performed : StateT.run (ExceptT.run (perform acts collector)) built = (.ok last, trace)

variable {host : Host} {settings : Settings} {vendors : List Vendor}

def Life.shutdowns (life : Life host settings vendors) : Nat :=
  life.acts.countP Act.isShutdown

/-- The collector may be dropped with this trace: at this point, or because a polling step
faults. -/
def Life.Ends (life : Life host settings vendors) (trace : List Event) : Prop :=
  trace = life.trace ∨ ∃ host step fault,
    StateT.run (ExceptT.run (life.last.step host step)) life.trace = (.error fault, trace)

theorem construct_of_nodup (hnames : (vendors.map Vendor.name).Nodup) (trace : List Event) :
    StateT.run (ExceptT.run (construct host settings vendors)) trace =
      StateT.run (ExceptT.run (start host settings { vendors })) trace := by
  have hregistered := Registry.registerAll_of_nodup {} hnames trace
  rw [construct]
  refine (Run.run_lift_bind _ _ trace).trans ?_
  rw [hregistered]
  rfl

theorem leaves_start (registry : Registry) :
    Run.Leaves (start host settings registry) fun collector events =>
      collector.Stands collector.devices registry.vendors.length 0 ∧
      collector.devices =
        (turns host 0 registry.vendors settings.mask).flatMap (Turn.devices host) ∧
      events = (turns host 0 registry.vendors settings.mask).flatMap (Turn.events host) := by
  refine (registry.leaves_start host settings.mask).bind ?_
  rintro ⟨started, devices⟩ _ ⟨hround, hdevices, rfl⟩
  apply Run.leaves_pure
  refine ⟨⟨hround.length_eq, fun _ => rfl, ?_, ?_⟩, hdevices, List.append_nil _⟩
  · exact fun hsome => absurd rfl hsome
  · exact fun hsome => absurd rfl hsome

theorem returns_start (settings : Settings) {registry : Registry}
    (h : ∀ vendor ∈ registry.vendors, vendor.Endures host) :
    Run.Returns (start host settings registry) Releasable := by
  refine (Registry.returns_start host h settings.mask).bind ?_
  rintro ⟨started, devices⟩ ⟨hvendors, hdevices⟩
  exact Run.returns_pure ⟨hvendors, hdevices⟩

namespace Life

variable (life : Life host settings vendors) (hnames : (vendors.map Vendor.name).Nodup)

include hnames

theorem of_construction :
    life.collector.Stands life.collector.devices vendors.length 0 ∧
    life.collector.devices = (turns host 0 vendors settings.mask).flatMap (Turn.devices host) ∧
    lifecycle life.built = (turns host 0 vendors settings.mask).flatMap (Turn.events host) := by
  have hstart := life.constructed
  rw [construct_of_nodup hnames] at hstart
  obtain ⟨events, hevents, hstands, hdevices, rfl⟩ := leaves_start _ [] _ _ hstart
  exact ⟨hstands, hdevices, hevents⟩

theorem devices_of_turn {index : Nat} {vendor : Vendor} (h : vendors[index]? = some vendor) :
    life.collector.devices.filter (fun device => device.vendor == index) =
      (turnOf host settings vendors index vendor).devices host := by
  obtain ⟨-, hdevices, -⟩ := life.of_construction hnames
  have hgive : ∀ turn : Turn, ∀ device ∈ turn.devices host, ∀ index,
      (device.vendor == index) = (turn.index == index) := by
    intro turn device hdevice index
    rw [Turn.vendor_of_mem_devices host hdevice]
  have hfilter := filter_flatMap_turns host hgive 0 vendors settings.mask index
  rw [← hdevices, getElem?_turns, h, Nat.zero_add] at hfilter
  exact hfilter

theorem events_of_turn {index : Nat} {vendor : Vendor} (h : vendors[index]? = some vendor) :
    life.built.filter (Event.concerns index) =
      (turnOf host settings vendors index vendor).events host := by
  obtain ⟨-, -, hbuilt⟩ := life.of_construction hnames
  have hgive : ∀ turn : Turn, ∀ event ∈ turn.events host, ∀ index,
      event.concerns index = (turn.index == index) := by
    intro turn event hevent index
    obtain ⟨call, rfl⟩ := Turn.exists_call_of_mem_events host hevent
    rfl
  have hfilter := filter_flatMap_turns host hgive 0 vendors settings.mask index
  rw [← hbuilt, filter_concerns_lifecycle, getElem?_turns, h, Nat.zero_add] at hfilter
  exact hfilter

theorem vendor_lt {device : GpuDevice} (h : device ∈ life.collector.devices) :
    device.vendor < vendors.length := by
  obtain ⟨-, hdevices, -⟩ := life.of_construction hnames
  rw [hdevices] at h
  obtain ⟨turn, hturn, hdevice⟩ := List.mem_flatMap.mp h
  have hindex := (index_of_mem_turns host hturn).2
  rw [Turn.vendor_of_mem_devices host hdevice]
  rwa [Nat.zero_add] at hindex

theorem stands :
    life.last.Stands life.collector.devices vendors.length life.shutdowns ∧
    lifecycle life.trace = lifecycle life.built ++
      shutdownTrace life.collector.devices vendors.length life.shutdowns := by
  obtain ⟨hstands, -, -⟩ := life.of_construction hnames
  obtain ⟨events, hevents, hlast, htrace⟩ :=
    hstands.perform life.acts _ _ _ life.performed
  rw [Nat.zero_add] at hlast htrace
  rw [shutdowns, hevents, htrace]
  exact ⟨hlast, rfl⟩

/-- A polling step that faults makes no difference to the shutdown after it. -/
theorem of_drop {ended final : List Event} {dropped : Collector} (hends : life.Ends ended)
    (hdropped : StateT.run (ExceptT.run life.last.shutdown) ended = (.ok dropped, final)) :
    dropped.Stands life.collector.devices vendors.length (life.shutdowns + 1) ∧
    lifecycle final = lifecycle life.built ++
      shutdownTrace life.collector.devices vendors.length (life.shutdowns + 1) := by
  obtain ⟨hlast, htrace⟩ := life.stands hnames
  have hended : lifecycle ended = lifecycle life.trace := by
    rcases hends with rfl | ⟨host, step, fault, hfault⟩
    · rfl
    · have hsilent := (silent_step host life.last step).lifecycle_eq life.trace
      rw [hfault] at hsilent
      exact hsilent
  obtain ⟨events, hevents, hstands, rfl⟩ := hlast.shutdown ended _ _ hdropped
  refine ⟨hstands, ?_⟩
  rw [hevents, hended, htrace, shutdownTrace_succ, List.append_assoc]

theorem tally_of_drop {ended final : List Event} {dropped : Collector} (hends : life.Ends ended)
    (hdropped : StateT.run (ExceptT.run life.last.shutdown) ended = (.ok dropped, final))
    {index : Nat} {vendor : Vendor} (h : vendors[index]? = some vendor) :
    Tally host (turnOf host settings vendors index vendor) (life.shutdowns + 1) final := by
  obtain ⟨-, hfinal⟩ := life.of_drop hnames hends hdropped
  have hindex : index < vendors.length := (List.getElem?_eq_some_iff.mp h).1
  -- the construction and the shutdowns are counted apart
  have hcount : ∀ event : Event, event.isLifecycle = true → event.concerns index = true →
      final.count event =
        ((turnOf host settings vendors index vendor).events host).count event +
          (shutdownTrace life.collector.devices vendors.length (life.shutdowns + 1)).count
            event := by
    intro event hlifecycle hconcerns
    have hbuilt : (lifecycle life.built).count event =
        ((turnOf host settings vendors index vendor).events host).count event := by
      rw [count_lifecycle hlifecycle, ← life.events_of_turn hnames h, List.count_filter hconcerns]
    rw [← count_lifecycle hlifecycle, hfinal, List.count_append, hbuilt]
  obtain ⟨hinit, henumerate, hshutdown, hreleased⟩ :=
    count_events host (turnOf host settings vendors index vendor)
  have hself : (index == index) = true := beq_self_eq_true index
  constructor
  · refine (hcount (.vendor index .init) rfl hself).trans ?_
    rw [count_vendor_shutdownTrace _ (by decide), Nat.add_zero]
    exact hinit
  · refine (hcount (.vendor index .enumerate) rfl hself).trans ?_
    rw [count_vendor_shutdownTrace _ (by decide), Nat.add_zero]
    exact henumerate
  · refine (hcount (.vendor index .shutdown) rfl hself).trans ?_
    rw [count_shutdown_shutdownTrace _ hindex, Nat.add_comm]
    exact congrArg (life.shutdowns + 1 + ·) hshutdown
  · refine (hcount (.deviceReleased index) rfl hself).trans ?_
    rw [count_deviceReleased_shutdownTrace, life.devices_of_turn hnames h]
    exact (congrArg (· + _) hreleased).trans (Nat.zero_add _)

theorem releasable (hendures : ∀ vendor ∈ vendors, vendor.Endures host) :
    life.last.Releasable := by
  have hstart := life.constructed
  rw [construct_of_nodup hnames] at hstart
  have hresult := returns_start settings hendures []
  rw [hstart] at hresult
  obtain ⟨collector, hsame, hreleasable⟩ := hresult
  cases hsame
  have hperformed := hreleasable.perform life.acts life.built
  rw [life.performed] at hperformed
  exact hperformed _ rfl

end Life

/-- Over every life of a collector for vendors of different names, a vendor is initialized once, its
devices are listed once if that succeeds, and it is shut down once at the construction if it gives
no device; what it gives depends on the vendor itself and on the mask bits that the vendors before
it take. The first shutdown gives up all devices before it shuts down any vendor, and each later one
only shuts down the vendors again, as does the drop, whether or not a polling step faults before it.
After the first shutdown there are no devices and no cached processes, and polling does not fault.
If the vendors never fault, neither do the construction and the shutdowns. -/
theorem lifecycle_of_life (host : Host) (settings : Settings)
    (hnames : (vendors.map Vendor.name).Nodup) :
    (∀ life : Life host settings vendors,
      (∀ device ∈ life.collector.devices, device.vendor < vendors.length) ∧
      (∀ index vendor, vendors[index]? = some vendor →
        let turn := turnOf host settings vendors index vendor
        life.collector.devices.filter (fun device => device.vendor == index) =
          turn.devices host ∧
        life.built.filter (Event.concerns index) = turn.events host) ∧
      lifecycle life.trace = lifecycle life.built ++
        shutdownTrace life.collector.devices vendors.length life.shutdowns ∧
      (life.shutdowns ≠ 0 → life.last.devices = [] ∧ life.last.cache.size = 0 ∧
        ∀ host step, Run.Ensures (life.last.step host step) (·.isOk)) ∧
      ∀ ended dropped final, life.Ends ended →
        StateT.run (ExceptT.run life.last.shutdown) ended = (.ok dropped, final) →
        lifecycle final = lifecycle life.built ++
          shutdownTrace life.collector.devices vendors.length (life.shutdowns + 1) ∧
        dropped.devices = [] ∧ dropped.cache.size = 0 ∧
        ∀ index vendor, vendors[index]? = some vendor →
          Tally host (turnOf host settings vendors index vendor) (life.shutdowns + 1) final) ∧
    ((∀ vendor ∈ vendors, vendor.Endures host) →
      Run.Ensures (construct host settings vendors) (·.isOk) ∧
      ∀ life : Life host settings vendors, Run.Ensures life.last.shutdown (·.isOk)) := by
  constructor
  · intro life
    obtain ⟨hlast, htrace⟩ := life.stands hnames
    refine ⟨fun device => life.vendor_lt hnames, ?_, htrace, ?_, ?_⟩
    · intro index vendor h
      exact ⟨life.devices_of_turn hnames h, life.events_of_turn hnames h⟩
    · intro hsome
      have hnone := hlast.devices_nil hsome
      exact ⟨hnone, hlast.cache hsome, fun host => isOk_step_of_no_devices host hnone⟩
    · intro ended dropped final hends hdropped
      obtain ⟨hstands, hfinal⟩ := life.of_drop hnames hends hdropped
      have hsome : life.shutdowns + 1 ≠ 0 := Nat.succ_ne_zero _
      refine ⟨hfinal, hstands.devices_nil hsome, hstands.cache hsome, ?_⟩
      intro index vendor h
      exact life.tally_of_drop hnames hends hdropped h
  · intro hendures
    constructor
    · intro trace
      have hstart := (returns_start settings hendures).isOk trace
      rw [construct_of_nodup hnames]
      exact hstart
    · intro life
      exact (life.releasable hnames hendures).shutdown.isOk

/-- Only the first vendor gives devices, two of its three. -/
theorem lifecycle_of_four_vendors :
    let host : Host :=
      { libraries := { path := "/lib" }
        drm := { count := 0 }
        nvml := { count := .ok 0 }
        simulated :=
          [{ devices := [{}, { failsToOpen := true }, { address := some ['0'] }] },
            { initFailure := some "gone", devices := [{}] },
            { enumerationFailure := some "busy", devices := [{}] },
            { devices := [{ failsToOpen := true }] }]
        procfs := fun path => { path } }
    let vendors : List Vendor :=
      [.simulated ⟨"a", 0⟩, .simulated ⟨"b", 1⟩, .simulated ⟨"c", 2⟩, .simulated ⟨"d", 3⟩]
    (vendors.map Vendor.name).Nodup ∧ (∀ vendor ∈ vendors, vendor.Endures host) ∧
      ∃ (life : Life host {} vendors) (dropped : Collector) (final : List Event),
        life.acts = [.poll host .refreshDynamic, .shutdown, .poll host .refreshProcesses,
          .shutdown] ∧
        StateT.run (ExceptT.run life.last.shutdown) life.trace = (.ok dropped, final) ∧
        final.count (.deviceReleased 0) = 2 ∧
        final.count (.vendor 0 .shutdown) = 3 ∧
        final.count (.vendor 1 .enumerate) = 0 ∧
        final.count (.vendor 1 .shutdown) = 4 ∧
        final.count (.vendor 2 .shutdown) = 4 ∧
        final.count (.vendor 3 .shutdown) = 4 := by
  intro host vendors
  have hnames : (vendors.map Vendor.name).Nodup := by decide
  have hendures : ∀ vendor ∈ vendors, vendor.Endures host := by
    intro vendor hvendor
    simp only [vendors, List.mem_cons, List.not_mem_nil, or_false] at hvendor
    rcases hvendor with rfl | rfl | rfl | rfl <;> exact Vendor.endures_simulated host _
  obtain ⟨hlives, hreturns⟩ := lifecycle_of_life host {} hnames
  have hlife : ∃ life : Life host {} vendors, life.acts =
      [.poll host .refreshDynamic, .shutdown, .poll host .refreshProcesses, .shutdown] :=
    ⟨⟨_, _, _, _, _, rfl, rfl⟩, rfl⟩
  obtain ⟨life, hacts⟩ := hlife
  have hshutdowns : life.shutdowns = 2 := by
    rw [Life.shutdowns, hacts]
    rfl
  obtain ⟨dropped, hresult⟩ := Fault.exists_of_isOk ((hreturns hendures).2 life life.trace)
  have hdropped : StateT.run (ExceptT.run life.last.shutdown) life.trace =
      (.ok dropped, (StateT.run (ExceptT.run life.last.shutdown) life.trace).2) :=
    Prod.ext hresult rfl
  obtain ⟨-, -, -, -, hdrop⟩ := hlives life
  obtain ⟨-, -, -, htally⟩ := hdrop _ dropped _ (.inl rfl) hdropped
  rw [hshutdowns] at htally
  refine ⟨hnames, hendures, life, dropped, _, hacts, hdropped, ?_, ?_, ?_, ?_, ?_, ?_⟩
  · exact (htally 0 _ rfl).released.trans (by decide)
  · exact (htally 0 _ rfl).shutdown.trans (by decide)
  · exact (htally 1 _ rfl).enumerate.trans (by decide)
  · exact (htally 1 _ rfl).shutdown.trans (by decide)
  · exact (htally 2 _ rfl).shutdown.trans (by decide)
  · exact (htally 3 _ rfl).shutdown.trans (by decide)

end Collector

end GpuTelemetry
