import GpuTelemetry.Proofs.Command.Polling

/-!
# Monitoring from start to end

The command gives up without having touched a vendor if procfs is not where it was
told or nothing can raise the stop flag, and complains of every vendor if no device
was found. Otherwise it polls and then gives up the devices and shuts down the
vendors, also if a cycle faults or its snapshot cannot be printed.
-/

namespace GpuTelemetry

theorem Traced.run_forM_emit {α : Type} (event : α → Event) (l : List α) (trace : List Event) :
    StateT.run (l.forM fun a => emit (event a)) trace = ((), trace ++ l.map event) := by
  induction l generalizing trace with
  | nil => exact Prod.ext rfl (List.append_nil trace).symm
  | cons a l ih =>
      change StateT.run (l.forM fun a => emit (event a)) (trace ++ [event a]) = _
      rw [ih, List.append_assoc, List.map_cons, List.singleton_append]

namespace Command

/-! ## Giving up -/

section

variable {collector : Collector} {devices : List GpuDevice} {count : Nat}

/-- The devices are given up once, and the vendors shut down twice. -/
theorem leaves_finish (h : collector.Stands devices count 0) :
    Run.Leaves (finish collector) fun _ events =>
      events =
        releases devices ++ Registry.shutdownCalls count ++ Registry.shutdownCalls count := by
  refine h.shutdown.bind ?_
  rintro first _ ⟨hfirst, rfl⟩
  refine hfirst.shutdown.bind ?_
  rintro second _ ⟨-, rfl⟩
  apply Run.leaves_pure
  rw [if_pos rfl, if_neg Nat.one_ne_zero, List.nil_append, List.append_nil]

theorem returns_finish (h : collector.Releasable) :
    Run.Returns (finish collector) fun _ => True := by
  refine h.shutdown.bind fun first hfirst => ?_
  exact hfirst.shutdown.bind fun _ _ => Run.returns_pure trivial

theorem quiet_finish (collector : Collector) : Run.Quiet (finish collector) := by
  refine collector.quiet_shutdown.bind fun first => ?_
  exact first.quiet_shutdown.bind fun _ => Run.keeps_pure _

end

/-! ## The ways to end -/

/-- What is complained of a vendor when there are no devices. -/
def complaintOf (host : Host) (vendor : Vendor) : Event :=
  .complained (vendor.name ++ ": " ++
    String.ofList (Text.trimEnd (vendor.lastErrorText host).toList))

theorem run_reportVendors (host : Host) (collector : Collector) (trace : List Event) :
    StateT.run (reportVendors host collector) trace =
      ((), trace ++ collector.registry.vendors.map (complaintOf host)) := by
  refine (Traced.run_forM_emit (fun vendor : String × String => .complained (vendor.1 ++ ": " ++
    String.ofList (Text.trimEnd vendor.2.toList))) _ trace).trans ?_
  rw [Collector.vendorErrors, Registry.lastErrors, List.map_map]
  rfl

/-- How a run leaves `started`, the trace of a start that gave a collector without devices. -/
structure EndsWithoutDevices (host : Host) (registry : Registry) (collector : Collector)
    (started : List Event) (outcome : Except Fault (Except Error Unit) × List Event) : Prop where
  result : outcome.1 = .ok (.error (.failed (.noDevices "no GPU to monitor was found")))
  complaints : output outcome.2 =
    output started ++ collector.registry.vendors.map (complaintOf host)
  names : collector.registry.vendors.map Vendor.name = registry.vendors.map Vendor.name
  calls : lifecycle outcome.2 = lifecycle started ++
    (Registry.shutdownCalls registry.vendors.length ++
      Registry.shutdownCalls registry.vendors.length)

/-- How a run leaves `started`, the trace of a start that gave a collector with devices: how the
collector stood after each cycle that was brought to its end, and what interrupted the cycle after
these, if that ended the run. -/
structure EndsAfterPolling (around : Surroundings) (registry : Registry) (options : Options)
    (limit : Nat) (collector : Collector) (started : List Event)
    (outcome : Except Fault (Except Error Unit) × List Event) (states : List Collector)
    (interruption? : Option Interruption) : Prop where
  refreshes : Collector.Cycles ((List.range states.length).map around.host)
    (collector.populateStatic (around.host 0)) states
  due : ∀ cycle < states.length,
    around.Due options limit cycle ∧ around.obstacle cycle = none
  complete : interruption? = none → ¬around.Due options limit states.length
  interrupted : ∀ interruption, interruption? = some interruption →
    around.Due options limit states.length ∧
    interruption.At around states.length
      (states.getLastD (collector.populateStatic (around.host 0))) ∧
    ∀ fault, interruption.cause = .error fault → outcome.1 = .error fault
  lines : output outcome.2 = output started ++ states.mapIdx (around.line options) ++
    interruption?.elim [] (Interruption.lines around options states.length)
  released : (∀ vendor ∈ registry.vendors, vendor.Relinquishes (around.host 0)) →
    (interruption? = none → outcome.1 = .ok (.ok ())) ∧
    (∀ interruption, interruption? = some interruption →
      outcome.1 = interruption.cause.map .error) ∧
    lifecycle outcome.2 = lifecycle started ++ (releases collector.devices ++
      Registry.shutdownCalls registry.vendors.length ++
      if interruption?.isNone then Registry.shutdownCalls registry.vendors.length else [])

/-! ## Starts -/

/-- A start leaves this trace, and gives this collector with the devices that the vendors give in
their turns. -/
structure Started (host : Host) (registry : Registry) (options : Options) (trace : List Event)
    (collector : Collector) (started : List Event) : Prop where
  quiet : output started = output trace
  calls : lifecycle started = lifecycle trace ++
    (turns host 0 registry.vendors options.settings.mask).flatMap (Turn.events host)
  devices : collector.devices =
    (turns host 0 registry.vendors options.settings.mask).flatMap (Turn.devices host)
  stands : collector.Stands collector.devices registry.vendors.length 0
  settles : Registry.Settles host registry.vendors collector.devices collector.registry.vendors

section

variable {host : Host} {registry : Registry} {options : Options} {trace started : List Event}
  {collector : Collector}

theorem started_of_start
    (h : StateT.run (ExceptT.run (Collector.start host options.settings registry)) trace =
      (.ok collector, started)) : Started host registry options trace collector started := by
  obtain ⟨events, hevents, hstands, hdevices, rfl⟩ :=
    Collector.leaves_start registry trace collector started h
  have hquiet := Collector.quiet_start host options.settings registry trace
  rw [h] at hquiet
  have hsettles : Run.ReturnsOnly (Collector.start host options.settings registry) fun collector =>
      Registry.Settles host registry.vendors collector.devices collector.registry.vendors := by
    refine (Registry.settles_start host registry options.settings.mask).bind ?_
    rintro ⟨registry, devices⟩ hsettles
    exact Run.returnsOnly_pure hsettles
  exact ⟨hquiet, hevents, hdevices, hstands, hsettles trace collector (congrArg Prod.fst h)⟩

theorem Started.releasable_of_no_devices
    (h : Started host registry options trace collector started) (hnone : collector.devices = []) :
    collector.Releasable :=
  ⟨h.settles.lasting_of_no_devices hnone, by rw [hnone]; exact List.forall_mem_nil _⟩

theorem Started.releasable (h : Started host registry options trace collector started)
    (hrelinquishes : ∀ vendor ∈ registry.vendors, vendor.Relinquishes host) :
    collector.Releasable :=
  ⟨(h.settles.lasting hrelinquishes).1, (h.settles.lasting hrelinquishes).2⟩

end

/-! ## Runs -/

section

variable {around : Surroundings} {registry : Registry} {options : Options} {limit : Nat}
  {trace started : List Event} {collector : Collector}

theorem run_monitor_of_no_directory (hcollects : options.collectProcesses = true)
    (hdirectory : ((around.host 0).procfs options.procRoot).isDirectory = false) :
    StateT.run (ExceptT.run (monitor around registry options limit)) trace =
      (.ok (.error (.failed (.config (options.procRoot ++ " is not a directory")))), trace) := by
  rw [monitor, hcollects, hdirectory]
  rfl

section

variable (hroot : options.collectProcesses = true →
  ((around.host 0).procfs options.procRoot).isDirectory = true)

include hroot

theorem run_monitor : StateT.run (ExceptT.run (monitor around registry options limit)) trace =
    match around.handlerRefusal with
    | some reason => (.ok (.error (.handler reason)), trace)
    | none => StateT.run (ExceptT.run (Collector.start (around.host 0) options.settings registry >>=
        attend around options limit)) trace := by
  have hproceeds : (options.collectProcesses &&
      !((around.host 0).procfs options.procRoot).isDirectory) = false := by
    cases hcollects : options.collectProcesses with
    | false => rfl
    | true => rw [hroot hcollects, Bool.true_and, Bool.not_true]
  rw [monitor, hproceeds, if_neg Bool.false_ne_true]
  cases around.handlerRefusal <;> rfl

theorem run_monitor_of_refusal {reason : String} (hrefusal : around.handlerRefusal = some reason) :
    StateT.run (ExceptT.run (monitor around registry options limit)) trace =
      (.ok (.error (.handler reason)), trace) := by
  rw [run_monitor hroot, hrefusal]

theorem run_monitor_of_fault {fault : Fault} (hhandler : around.handlerRefusal = none)
    (hstart : StateT.run (ExceptT.run (Collector.start (around.host 0) options.settings registry))
      trace = (.error fault, started)) :
    StateT.run (ExceptT.run (monitor around registry options limit)) trace =
      (.error fault, started) := by
  rw [run_monitor hroot, hhandler, Run.run_bind, hstart]

theorem run_monitor_of_start (hhandler : around.handlerRefusal = none)
    (hstart : StateT.run (ExceptT.run (Collector.start (around.host 0) options.settings registry))
      trace = (.ok collector, started)) :
    StateT.run (ExceptT.run (monitor around registry options limit)) trace =
      StateT.run (ExceptT.run (attend around options limit collector)) started := by
  rw [run_monitor hroot, hhandler, Run.run_bind, hstart]

end

theorem run_attend_of_no_devices {last : List Event} (hnone : collector.devices = [])
    (hfinish : StateT.run (ExceptT.run (finish collector))
      (started ++ collector.registry.vendors.map (complaintOf (around.host 0))) = (.ok (), last)) :
    StateT.run (ExceptT.run (attend around options limit collector)) started =
      (.ok (.error (.failed (.noDevices "no GPU to monitor was found"))), last) := by
  rw [attend, hnone, List.isEmpty_nil, if_pos rfl, Run.run_lift_bind, run_reportVendors,
    Run.run_bind, hfinish]
  rfl

/-- The log line before the first cycle. -/
def announcement (collector : Collector) : Event :=
  .log
    { level := .info
      source := .command
      text := "Monitoring " ++ toString collector.devices.length ++ " device(s)" }

theorem run_attend_of_devices (hsome : collector.devices ≠ []) :
    StateT.run (ExceptT.run (attend around options limit collector)) started =
      match StateT.run (ExceptT.run
        (poll around options limit 0 0 (collector.populateStatic (around.host 0))))
          (started ++ [announcement collector]) with
      | (.error fault, last) => (.error fault, last)
      | (.ok (.error error), last) => (.ok (.error error), last)
      | (.ok (.ok (collector, _)), last) =>
        match StateT.run (ExceptT.run (finish collector)) last with
        | (result, last) => (result.map .ok, last) := by
  have hannounce (trace : List Event) : StateT.run (log .info .command
      ("Monitoring " ++ toString collector.devices.length ++ " device(s)")) trace =
        ((), trace ++ [announcement collector]) := rfl
  rw [attend, if_neg (by simpa using hsome), Run.run_lift_bind, hannounce, Run.run_bind]
  rcases StateT.run (ExceptT.run
    (poll around options limit 0 0 (collector.populateStatic (around.host 0))))
    (started ++ [announcement collector]) with ⟨_ | _ | ⟨polled, _⟩, last⟩
  · rfl
  · rfl
  · dsimp only
    rw [Run.run_bind]
    rcases StateT.run (ExceptT.run (finish polled)) last with ⟨_ | _, _⟩ <;> rfl

theorem run_attend_of_interruption {interruption : Interruption}
    {released : Except Fault Collector × List Event} (hsome : collector.devices ≠ [])
    (hpoll : StateT.run (ExceptT.run
      (poll around options limit 0 0 (collector.populateStatic (around.host 0))))
        (started ++ [announcement collector]) = interruption.outcome released) :
    StateT.run (ExceptT.run (attend around options limit collector)) started =
      interruption.outcome released := by
  rw [run_attend_of_devices hsome, hpoll]
  unfold Interruption.outcome
  generalize interruption.passedOn _ = result
  cases result <;> rfl

end

/-! ## The ends -/

section

variable {around : Surroundings} {registry : Registry} {options : Options} {limit : Nat}
  {trace started : List Event} {collector : Collector}

theorem Started.endsWithoutDevices
    (h : Started (around.host 0) registry options trace collector started)
    (hnone : collector.devices = []) :
    EndsWithoutDevices (around.host 0) registry collector started
      (StateT.run (ExceptT.run (attend around options limit collector)) started) := by
  let complaints := collector.registry.vendors.map (complaintOf (around.host 0))
  have hcomplaints : ∀ event ∈ complaints,
      event.isOutput = true ∧ event.isLifecycle = false := by
    intro event hevent
    obtain ⟨vendor, -, rfl⟩ := List.mem_map.mp hevent
    exact ⟨rfl, rfl⟩
  have hresult := returns_finish (h.releasable_of_no_devices hnone) (started ++ complaints)
  have hquiet := quiet_finish collector (started ++ complaints)
  rcases hfinish : StateT.run (ExceptT.run (finish collector)) (started ++ complaints) with
    ⟨result, last⟩
  rw [hfinish] at hresult hquiet
  obtain ⟨_, rfl, -⟩ := hresult
  obtain ⟨events, hevents, rfl⟩ := leaves_finish h.stands _ _ _ hfinish
  rw [run_attend_of_no_devices hnone hfinish]
  refine ⟨rfl, ?_, h.settles.names, ?_⟩
  · refine hquiet.trans ?_
    rw [List.filter_append,
      List.filter_eq_self.mpr fun event hevent => (hcomplaints event hevent).1]
    rfl
  · have hnolife : lifecycle complaints = [] := by
      refine List.filter_eq_nil_iff.mpr fun event hevent => ?_
      rw [(hcomplaints event hevent).2]
      exact Bool.false_ne_true
    rw [hevents, lifecycle_append, hnolife, List.append_nil, hnone]
    rfl

/-- The lines of the loop are all that it leaves of note. -/
theorem Polled.output_before {before : List Event} {states : List Collector}
    {interruption? : Option Interruption}
    {outcome : Except Fault (Except Error (Collector × Bool)) × List Event}
    (h : Polled around options limit 0 collector trace outcome states interruption? before) :
    output before = output trace ++ states.mapIdx (around.line options) ++
      interruption?.elim [] (Interruption.lines around options states.length) ∧
    lifecycle before = lifecycle trace := by
  rw [List.append_assoc]
  generalize hshown : states.mapIdx (around.line options) ++
    interruption?.elim [] (Interruption.lines around options states.length) = shown
  have hlines : before.filter Event.isNotable = trace.filter Event.isNotable ++ shown := by
    have hbefore := h.lines
    simp only [Nat.zero_add] at hbefore
    rw [hbefore, ← hshown, List.append_assoc]
  have hline : ∀ event ∈ shown, event.isOutput = true ∧ event.isLifecycle = false := by
    intro event hevent
    rw [← hshown] at hevent
    rcases List.mem_append.mp hevent with hevent | hevent
    · obtain ⟨number, hnumber, rfl⟩ := List.mem_mapIdx.mp hevent
      exact ⟨rfl, rfl⟩
    · cases interruption? with
      | none => cases hevent
      | some interruption =>
          obtain ⟨text, rfl⟩ := Interruption.eq_printed_of_mem_lines hevent
          exact ⟨rfl, rfl⟩
  constructor
  · rw [output, ← filter_filter_of_narrower isNotable_of_isOutput, hlines, List.filter_append,
      filter_filter_of_narrower isNotable_of_isOutput,
      List.filter_eq_self.mpr fun event hevent => (hline event hevent).1]
    rfl
  · have hnone : shown.filter Event.isLifecycle = [] := by
      refine List.filter_eq_nil_iff.mpr fun event hevent => ?_
      rw [(hline event hevent).2]
      exact Bool.false_ne_true
    rw [lifecycle, ← filter_filter_of_narrower isNotable_of_isLifecycle, hlines,
      List.filter_append, filter_filter_of_narrower isNotable_of_isLifecycle, hnone,
      List.append_nil]
    rfl

/-- How the loop leaves the trace and the collector that is still there. -/
structure Left (around : Surroundings) (registry : Registry) (options : Options)
    (collector : Collector) (started : List Event) (states : List Collector)
    (interruption? : Option Interruption) (before : List Event) : Prop where
  lines : output before = output started ++ states.mapIdx (around.line options) ++
    interruption?.elim [] (Interruption.lines around options states.length)
  calls : lifecycle before = lifecycle started
  stands : (leftBy interruption?
    (states.getLastD (collector.populateStatic (around.host 0)))).Stands collector.devices
    registry.vendors.length 0
  releasable : (∀ vendor ∈ registry.vendors, vendor.Relinquishes (around.host 0)) →
    (leftBy interruption?
      (states.getLastD (collector.populateStatic (around.host 0)))).Releasable

variable {states : List Collector} {interruption? : Option Interruption}
  {before ended : List Event}

theorem Started.left (h : Started (around.host 0) registry options trace collector started)
    {outcome : Except Fault (Except Error (Collector × Bool)) × List Event}
    (hpolled : Polled around options limit 0 (collector.populateStatic (around.host 0))
      (started ++ [announcement collector]) outcome states interruption? before) :
    Left around registry options collector started states interruption? before := by
  obtain ⟨houtput, hlifecycle⟩ := hpolled.output_before
  have hquiet : output (started ++ [announcement collector]) = output started :=
    filter_append_singleton rfl started
  have hcalls : lifecycle (started ++ [announcement collector]) = lifecycle started :=
    filter_append_singleton rfl started
  refine ⟨hquiet ▸ houtput, hcalls ▸ hlifecycle, ?_, fun hrelinquishes => ?_⟩
  · obtain ⟨_, -, hpopulated, -⟩ := h.stands.step (around.host 0) .populateStatic [] _ _ rfl
    exact hpolled.polls.invariant hpopulated fun _ _ _ hstands hafter => hstands.refreshed hafter
  · have hpopulated := (h.releasable hrelinquishes).step (around.host 0) .populateStatic [] _ rfl
    exact hpolled.polls.invariant hpopulated fun _ _ _ hgives hafter => hgives.refreshed hafter

theorem Left.finish (h : Left around registry options collector started states interruption? before)
    {result : Except Fault Unit}
    (hfinish : StateT.run (ExceptT.run (finish (leftBy interruption?
      (states.getLastD (collector.populateStatic (around.host 0)))))) before = (result, ended)) :
    output ended = output before ∧
    ((∀ vendor ∈ registry.vendors, vendor.Relinquishes (around.host 0)) → result = .ok () ∧
      lifecycle ended = lifecycle started ++ (releases collector.devices ++
        Registry.shutdownCalls registry.vendors.length ++
        Registry.shutdownCalls registry.vendors.length)) := by
  have hquiet := quiet_finish (leftBy interruption?
    (states.getLastD (collector.populateStatic (around.host 0)))) before
  rw [hfinish] at hquiet
  refine ⟨hquiet, fun hrelinquishes => ?_⟩
  obtain ⟨_, hok, -⟩ := returns_finish (h.releasable hrelinquishes) before
  rw [hfinish] at hok
  cases hok
  obtain ⟨events, hevents, rfl⟩ := leaves_finish h.stands _ _ _ hfinish
  exact ⟨rfl, h.calls ▸ hevents⟩

theorem Left.shutdown
    (h : Left around registry options collector started states interruption? before)
    {result : Except Fault Collector}
    (hshutdown : StateT.run (ExceptT.run (leftBy interruption?
      (states.getLastD (collector.populateStatic (around.host 0)))).shutdown) before =
        (result, ended)) :
    output ended = output before ∧
    ((∀ vendor ∈ registry.vendors, vendor.Relinquishes (around.host 0)) →
      (∃ last, result = .ok last) ∧
      lifecycle ended = lifecycle started ++ (releases collector.devices ++
        Registry.shutdownCalls registry.vendors.length)) := by
  have hquiet := (leftBy interruption?
    (states.getLastD (collector.populateStatic (around.host 0)))).quiet_shutdown before
  rw [hshutdown] at hquiet
  refine ⟨hquiet, fun hrelinquishes => ?_⟩
  obtain ⟨last, hok, -⟩ := (h.releasable hrelinquishes).shutdown before
  rw [hshutdown] at hok
  cases hok
  obtain ⟨events, hevents, -, rfl⟩ := h.stands.shutdown _ _ _ hshutdown
  rw [if_pos rfl, h.calls] at hevents
  exact ⟨⟨last, rfl⟩, hevents⟩

theorem Started.exists_endsAfterPolling
    (h : Started (around.host 0) registry options trace collector started)
    (hstays : around.StaysUp) (hsome : collector.devices ≠ []) :
    ∃ states interruption?, EndsAfterPolling around registry options limit collector started
      (StateT.run (ExceptT.run (attend around options limit collector)) started)
      states interruption? := by
  have hwanted : options.count = 0 ∨ (0 : UInt64).toNat < options.count :=
    Nat.eq_zero_or_pos options.count
  obtain ⟨states, interruption?, before, hpolled⟩ := exists_polled hstays limit
    Surroundings.looked_zero hwanted (collector.populateStatic (around.host 0))
    (started ++ [announcement collector])
  rw [UInt64.toNat_zero, Nat.zero_add] at hpolled
  have hleft := h.left hpolled
  obtain ⟨hcycles, hdue, hcomplete, hat⟩ := hpolled.polls.of_first
  refine ⟨states, interruption?, ?_⟩
  cases interruption? with
  | none =>
      obtain ⟨isOver, hpoll⟩ := hpolled.ends rfl
      rcases hfinish : StateT.run (ExceptT.run
        (finish (states.getLastD (collector.populateStatic (around.host 0))))) before with
        ⟨result, ended⟩
      obtain ⟨hquiet, hreleased⟩ := hleft.finish hfinish
      rw [run_attend_of_devices hsome, hpoll]
      dsimp only
      rw [hfinish]
      refine ⟨hcycles, hdue, hcomplete, nofun, hquiet.trans hleft.lines, fun hrelinquishes => ?_⟩
      obtain ⟨rfl, hcalls⟩ := hreleased hrelinquishes
      exact ⟨fun _ => rfl, nofun, hcalls⟩
  | some interruption =>
      obtain ⟨hlastDue, hlastAt⟩ := hat interruption rfl
      obtain ⟨hquiet, hreleased⟩ := hleft.shutdown rfl
      rw [run_attend_of_interruption hsome (hpolled.interrupted interruption rfl)]
      refine ⟨hcycles, hdue, nofun, ?_, ?_, fun hrelinquishes => ⟨nofun, ?_, ?_⟩⟩
      · rintro _ ⟨⟩
        exact ⟨hlastDue, hlastAt, fun fault hfault => Interruption.outcome_fst_of_fault _ hfault⟩
      · rw [Interruption.outcome_snd]
        exact hquiet.trans hleft.lines
      · rintro _ ⟨⟩
        obtain ⟨last, hlast⟩ := (hreleased hrelinquishes).1
        exact Interruption.outcome_fst_of_released _ hlast
      · rw [Interruption.outcome_snd, Option.isNone_some, if_neg Bool.false_ne_true,
          List.append_nil]
        exact (hreleased hrelinquishes).2

end

/-! ## The whole run -/

namespace EndsAfterPolling

variable {around : Surroundings} {registry : Registry} {options : Options} {limit : Nat}
  {collector : Collector} {started : List Event}
  {outcome : Except Fault (Except Error Unit) × List Event} {states : List Collector}
  {interruption? : Option Interruption}

theorem length_le (h : EndsAfterPolling around registry options limit collector started outcome
    states interruption?) (hcount : 0 < options.count) : states.length ≤ options.count := by
  by_contra hlt
  have hwanted := (h.due options.count (by omega)).1.wanted
  omega

/-- Nothing but the number of snapshots ends a run where the flag stays down. -/
theorem length_eq (h : EndsAfterPolling around registry options limit collector started outcome
    states interruption?) (hcount : 0 < options.count) (hlimit : options.count ≤ limit)
    (hdown : ∀ look, around.isUp look = false) (hnone : interruption? = none) :
    states.length = options.count := by
  have hle := h.length_le hcount
  by_contra hne
  have hlt : states.length < options.count := by omega
  exact h.complete hnone ⟨by omega, .inr hlt, fun look _ => hdown look⟩

/-- No cycle is run after a look that has found the flag up. -/
theorem looksBefore_lt (h : EndsAfterPolling around registry options limit collector started
    outcome states interruption?) {look cycle : Nat} (hup : around.isUp look = true)
    (hcycle : cycle < states.length) : around.looksBefore cycle < look := by
  by_contra hle
  rw [(h.due cycle hcycle).1.down look (by omega)] at hup
  cases hup

end EndsAfterPolling

/-- A run ends in one of five ways. Where procfs is to be read and is not there, and where nothing
can raise the stop flag, nothing else is done. A fault of the start is passed on. Without devices
there is a complaint about each vendor. Otherwise each cycle that the loop comes to is run and its
snapshot printed, up to the first one that is interrupted: by a fault, or as its snapshot is
printed. The devices are given up and all vendors shut down before the run ends, however that comes
about. -/
theorem ends_of_monitor (around : Surroundings) (registry : Registry) (options : Options)
    (limit : Nat) (hstays : around.StaysUp) (trace : List Event) :
    let host := around.host 0
    let start := Collector.start host options.settings registry
    let outcome := StateT.run (ExceptT.run (monitor around registry options limit)) trace
    (options.collectProcesses = true → (host.procfs options.procRoot).isDirectory = false →
      outcome =
        (.ok (.error (.failed (.config (options.procRoot ++ " is not a directory")))), trace)) ∧
    ((options.collectProcesses = true → (host.procfs options.procRoot).isDirectory = true) →
      (∀ reason, around.handlerRefusal = some reason →
        outcome = (.ok (.error (.handler reason)), trace)) ∧
      (around.handlerRefusal = none →
        (∀ fault started, StateT.run (ExceptT.run start) trace = (.error fault, started) →
          outcome = (.error fault, started) ∧ output started = output trace) ∧
        ∀ collector started, StateT.run (ExceptT.run start) trace = (.ok collector, started) →
          Started host registry options trace collector started ∧
          (collector.devices = [] →
            EndsWithoutDevices host registry collector started outcome) ∧
          (collector.devices ≠ [] → ∃ states interruption?,
            EndsAfterPolling around registry options limit collector started outcome states
              interruption? ∧
            (0 < options.count → states.length ≤ options.count) ∧
            (0 < options.count → options.count ≤ limit → (∀ look, around.isUp look = false) →
              interruption? = none → states.length = options.count) ∧
            ∀ look, around.isUp look = true → ∀ cycle < states.length,
              around.looksBefore cycle < look))) := by
  intro host start outcome
  refine ⟨run_monitor_of_no_directory, fun hroot =>
    ⟨fun reason => run_monitor_of_refusal hroot, fun hhandler => ⟨?_, ?_⟩⟩⟩
  · intro fault started hstart
    refine ⟨run_monitor_of_fault hroot hhandler hstart, ?_⟩
    have hquiet := Collector.quiet_start host options.settings registry trace
    rw [hstart] at hquiet
    exact hquiet
  · intro collector started hstart
    have hstarted := started_of_start hstart
    have houtcome : outcome = _ := run_monitor_of_start hroot hhandler hstart
    rw [houtcome]
    refine ⟨hstarted, hstarted.endsWithoutDevices, fun hsome => ?_⟩
    obtain ⟨states, interruption?, hends⟩ := hstarted.exists_endsAfterPolling hstays hsome
    refine ⟨states, interruption?, hends, hends.length_le, hends.length_eq, ?_⟩
    exact fun look hup cycle hcycle => hends.looksBefore_lt hup hcycle

/-- The flag goes up in the wait after the second cycle of five. -/
theorem ends_of_monitor_of_interrupt :
    let host : Host :=
      { libraries := { path := "/lib" }
        drm := { count := 0 }
        nvml := { count := .ok 0 }
        simulated := [{ devices := [{}] }]
        procfs := fun path => { path } }
    let around : Surroundings :=
      { host := fun _ => host
        stopped := fun moment => 6 ≤ moment
        lookedAt := id
        naps := fun _ => 2 }
    let registry : Registry := { vendors := [.simulated ⟨"a", 0⟩, .nvidia {}, .amd {}] }
    around.StaysUp ∧ (∀ vendor ∈ registry.vendors, vendor.Relinquishes host) ∧
      ∃ (collector : Collector) (started : List Event) (states : List Collector)
        (final : List Event),
        StateT.run (ExceptT.run (Collector.start host {} registry)) [] = (.ok collector, started) ∧
        StateT.run (ExceptT.run (monitor around registry { count := 5 } 9)) [] =
          (.ok (.ok ()), final) ∧
        states.length = 2 ∧ output final = states.mapIdx (around.line { count := 5 }) ∧
        lifecycle final = lifecycle started ++
          [.deviceReleased 0, .vendor 0 .shutdown, .vendor 1 .shutdown, .vendor 2 .shutdown,
            .vendor 0 .shutdown, .vendor 1 .shutdown, .vendor 2 .shutdown] := by
  intro host around registry
  have hstays : around.StaysUp := by
    intro look later hle hup
    exact decide_eq_true (Nat.le_trans (of_decide_eq_true hup) hle)
  have hrelinquishes : ∀ vendor ∈ registry.vendors, vendor.Relinquishes host := by
    intro vendor hvendor
    simp only [registry, List.mem_cons, List.not_mem_nil, or_false] at hvendor
    rcases hvendor with rfl | rfl | rfl
    · exact (Vendor.endures_simulated host _).relinquishes
    · exact Vendor.relinquishes_nvidia nofun nofun
    · exact Vendor.relinquishes_amd host _
  have hstart : ∃ collector started,
      StateT.run (ExceptT.run (Collector.start host {} registry)) [] = (.ok collector, started) ∧
        releases collector.devices = [.deviceReleased 0] := ⟨_, _, rfl, rfl⟩
  obtain ⟨collector, started, hstart, hreleases⟩ := hstart
  have hsome : collector.devices ≠ [] := by
    intro hnone
    rw [hnone] at hreleases
    cases hreleases
  have hok : (StateT.run (ExceptT.run (monitor around registry { count := 5 } 9)) []).1 =
      .ok (.ok ()) := rfl
  obtain ⟨-, hruns⟩ := ends_of_monitor around registry { count := 5 } 9 hstays []
  obtain ⟨-, hstarts⟩ := hruns fun _ => rfl
  obtain ⟨hstarted, -, hpolls⟩ := (hstarts rfl).2 collector started hstart
  obtain ⟨states, interruption?, hends, -, -, hlooks⟩ := hpolls hsome
  rcases hrun : StateT.run (ExceptT.run (monitor around registry { count := 5 } 9)) [] with
    ⟨result, final⟩
  rw [hrun] at hok hends
  obtain ⟨-, hcause, hcalls⟩ := hends.released hrelinquishes
  cases interruption? with
  | some interruption =>
      rw [hcause interruption rfl] at hok
      cases interruption <;> cases hok
  | none =>
      -- each wait looks three times, so the one before the third cycle is look 8
      have hle : states.length ≤ 2 := by
        by_contra hlt
        have hthird := hlooks 6 rfl 2 (by omega)
        exact absurd hthird (by decide)
      have hge : 2 ≤ states.length := by
        by_contra hlt
        have hfew : states.length = 0 ∨ states.length = 1 := by omega
        have hbefore : around.looksBefore states.length ≤ 4 := by
          rcases hfew with hlength | hlength <;> rw [hlength] <;> decide
        have hfive : states.length < 5 := by omega
        refine hends.complete rfl ⟨by omega, .inr hfive, fun look hlook => ?_⟩
        have hsix : look < 6 := by omega
        exact decide_eq_false (Nat.not_le.mpr hsix)
      have hlines : output final = states.mapIdx (around.line { count := 5 }) := by
        rw [hends.lines, hstarted.quiet, output, List.filter_nil, List.nil_append]
        exact List.append_nil _
      refine ⟨hstays, hrelinquishes, collector, started, states, final, hstart,
        Prod.ext hok rfl, Nat.le_antisymm hle hge, hlines, ?_⟩
      rw [hcalls, hreleases]
      rfl

/-- The second line does not get out, so the vendors are shut down once, and the reason is told. -/
example :
    let host : Host :=
      { libraries := { path := "/lib" }
        drm := { count := 0 }
        nvml := { count := .ok 0 }
        simulated := [{ devices := [{}] }]
        procfs := fun path => { path } }
    let around : Surroundings :=
      { host := fun _ => host
        obstacle := fun cycle =>
          if cycle = 1 then some (.writing "Broken pipe (os error 32)") else none }
    let registry : Registry := { vendors := [.simulated ⟨"a", 0⟩] }
    let outcome := StateT.run (run around registry ["-n", "5"] 9) []
    outcome.1.code = 1 ∧
      (output outcome.2).drop 1 =
        ["Error: Failed to write snapshot", "", "Caused by:", "    Broken pipe (os error 32)"].map
          .complained ∧
      lifecycle outcome.2 = [.vendor 0 .init, .vendor 0 .enumerate, .deviceReleased 0,
        .vendor 0 .shutdown] := by
  decide +kernel

/-- A memory so large that hundred times its used part takes more than 64 bits ends the run before
its first snapshot, although one is asked for and the flag stays down. -/
theorem no_line_of_large_memory :
    let device : Drm.ListedDevice :=
      { address := some ⟨1, 3, 0, 0⟩
        ids := some (Amd.vendorId, 0x73BF)
        renderNode := some { path := some "renderD128", opens := true }
        primaryNode := none
        version := some { name := some [97, 109, 100, 103, 112, 117], description := none }
        memory := some ⟨1000000000000000000, 0, 0⟩ }
    let host : Host :=
      { libraries :=
          { path := "/lib", libraries := [{ name := "libdrm.so" }, { name := "libdrm_amdgpu.so" }] }
        drm := { count := 1, devices := [device] }
        nvml := { count := .ok 0 }
        procfs := fun path => { path } }
    let around : Surroundings := { host := fun _ => host }
    let options : Options := { count := 1 }
    let found := StateT.run (ExceptT.run
      (Collector.start host options.settings Registry.standard)) []
    let outcome := StateT.run (ExceptT.run (monitor around Registry.standard options 1)) []
    (∀ look, around.isUp look = false) ∧
      (found.1.toOption.map fun collector => collector.devices.length) = some 1 ∧
      outcome.1.map (fun _ => ()) = .error .multiplicationOverflow ∧ output outcome.2 = [] := by
  refine ⟨fun _ => rfl, ?_, ?_, ?_⟩
  · decide +kernel
  · decide +kernel
  · decide +kernel

end Command

end GpuTelemetry
