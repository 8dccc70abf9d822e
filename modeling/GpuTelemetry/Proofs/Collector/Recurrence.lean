import GpuTelemetry.Proofs.Collector.Steady
import Mathlib.Data.List.Chain

/-!
# Cycles on a host that repeats itself

The first cycle settles a collector, and each one after it gives the same devices
and leaves the collector settled for the next. So all cycles but the first give
equal devices, and in each of them the engines with a counter are idle.
-/

namespace GpuTelemetry

open Procfs Fdinfo

namespace Collector

/-- Runs a cycle on each host in turn and returns how the collector stands after each. -/
def cycles : List Host → Collector → Run (List Collector)
  | [], _ => return []
  | host :: hosts, collector => do
    let after ← collector.refresh host
    let rest ← cycles hosts after
    return after :: rest

/-- How a collector stands after each of some cycles, none of which faults. -/
inductive Cycles : List Host → Collector → List Collector → Prop
  | nil (collector : Collector) : Cycles [] collector []
  | cons {host : Host} {hosts : List Host} {collector after : Collector}
      {states : List Collector} (first : collector.refreshed host = .ok after)
      (rest : Cycles hosts after states) : Cycles (host :: hosts) collector (after :: states)

theorem returnsOnly_cycles (hosts : List Host) (collector : Collector) :
    Run.ReturnsOnly (cycles hosts collector) (Cycles hosts collector) := by
  induction hosts generalizing collector with
  | nil => exact Run.returnsOnly_pure (.nil collector)
  | cons host hosts ih =>
      rw [cycles]
      refine (ensures_refresh host collector).returnsOnly_of_result.bind ?_
      intro after hafter
      refine (ih after).bind ?_
      intro states hstates
      exact Run.returnsOnly_pure (.cons hafter hstates)

/-! ## The cache between cycles -/

theorem rests_clear (cache : ProcessCache) : cache.clear.Rests := by
  refine ⟨rfl, ?_⟩
  intro pid entry hentry
  cases hentry

theorem rests_processed {host : Host} {collector after : Collector} (h : collector.cache.Rests)
    (hafter : collector.processed host = .ok after) : after.cache.Rests := by
  rw [processed] at hafter
  split at hafter
  · cases hafter
    exact h
  · obtain ⟨swept, -, rfl⟩ := Fault.map_eq_ok_iff.mp hafter
    exact ProcessCache.rests_endCycle _

theorem rests_refreshed {host : Host} {collector after : Collector} (h : collector.cache.Rests)
    (hafter : collector.refreshed host = .ok after) : after.cache.Rests := by
  obtain ⟨dynamic, hdynamic, hafter⟩ := Fault.bind_eq_ok_iff.mp hafter
  obtain ⟨devices, -, rfl⟩ := Fault.map_eq_ok_iff.mp hdynamic
  obtain ⟨middle, hmiddle, hafter⟩ := Fault.bind_eq_ok_iff.mp hafter
  cases hafter
  have hdynamicRests : ({ collector with devices } : Collector).cache.Rests := h
  have hmiddleRests : middle.cache.Rests := rests_processed hdynamicRests hmiddle
  exact hmiddleRests

theorem rests_act {collector : Collector} (h : collector.cache.Rests) (act : Act) :
    Run.ReturnsOnly (collector.act act) fun after => after.cache.Rests := by
  cases act with
  | shutdown =>
      refine Run.returnsOnly_bind fun registry => ?_
      exact Run.returnsOnly_pure (rests_clear _)
  | poll host step =>
      cases step with
      | populateStatic => exact Run.returnsOnly_pure h
      | backfill => exact Run.returnsOnly_pure h
      | refreshDynamic =>
          apply Run.ensures_ofExcept
          intro after hafter
          obtain ⟨devices, -, rfl⟩ := Fault.map_eq_ok_iff.mp hafter
          exact h
      | refreshProcesses =>
          refine (ensures_refreshProcesses host collector).mono ?_
          rintro _ rfl after hafter
          exact rests_processed h hafter

theorem rests_perform {collector : Collector} (h : collector.cache.Rests) (acts : List Act) :
    Run.ReturnsOnly (perform acts collector) fun after => after.cache.Rests := by
  induction acts generalizing collector with
  | nil => exact Run.returnsOnly_pure h
  | cons act acts ih =>
      rw [perform]
      exact (rests_act h act).bind fun _ hafter => ih hafter

/-- A collector that has come about from a new one, over any devices, by any acts. -/
def Reached (collector : Collector) : Prop :=
  ∃ (first : Collector) (acts : List Act) (before after : List Event), first.cache = {} ∧
    StateT.run (ExceptT.run (perform acts first)) before = (.ok collector, after)

theorem Reached.rests {collector : Collector} (h : collector.Reached) : collector.cache.Rests := by
  obtain ⟨first, acts, before, after, hcache, hrun⟩ := h
  have hfirst : first.cache.Rests := hcache ▸ rests_clear {}
  exact rests_perform hfirst acts before collector (congrArg Prod.fst hrun)

/-! ## Equal devices and idle engines -/

/-- On a host, every client whose text has a counter of an engine has the rate zero there. -/
def StandsStill (host : Host) (collector : Collector) : Prop :=
  ∀ (index : Nat) (device : GpuDevice) (reader : FdinfoReader),
    collector.devices[index]? = some device → device.fdinfo = some reader →
    ∃ last records, reader.readAll (collector.visitsOf host index) = .ok (last, records) ∧
      List.Forall₂ (fun visit record => visit.clientKey? ≠ none → ∀ engine,
        lastTime? engine (entries visit.text) ≠ none → GpuProcess.usage record engine = some 0)
        (collector.visitsOf host index) records

section

variable {host again : Host} {hosts : List Host} {collector after next : Collector}
  {states : List Collector}

theorem Settled.standsStill (hsettled : collector.Settled host) (hsteady : host.processes.Steady)
    (hcollects : collector.settings.collectProcesses = true)
    (h : collector.refreshed host = .ok after) :
    collector.StandsStill host := by
  intro index device reader hdevice hreader
  obtain ⟨-, -, -, pids, cache, -, -, hdevices⟩ := getElem?_refreshed hsteady hcollects h
  obtain ⟨info, taken, -, htake, -, -⟩ := hdevices index device hdevice
  have hcleared : ({ device with dynamicInfo := info, processes := [] } : GpuDevice).fdinfo =
      some reader := hreader
  obtain ⟨last, records, merged, hread, -, -⟩ := (Device.takeAll_eq_ok_iff hcleared).mp htake
  refine ⟨last, records, hread, ?_⟩
  have hreads : ∀ visit ∈ collector.visitsOf host index, reader.accepts visit.text = true := by
    intro visit hvisit
    have haccepts := accepts_of_mem_visitsOf hdevice hvisit
    rwa [Device.accepts, hreader, Option.any_some] at haccepts
  obtain ⟨-, -, rfl⟩ := (FdinfoReader.readAll_eq_ok_iff hreads).mp hread
  rw [List.forall₂_map_right_iff, List.forall₂_same]
  intro visit hvisit hclient engine hcounter
  rw [(hsettled.readers index device reader hdevice hreader).recordAt_eq hvisit]
  exact Visit.usage_steadyRecord hclient hcounter

/-- What a cycle needs to give what the one after it gives. Nothing is needed as long as no
processes are collected. -/
def Ready (host : Host) (collector : Collector) : Prop :=
  collector.settings.collectProcesses = true → collector.Settled host

theorem kept_of_refreshed (hsteady : host.processes.Steady)
    (h : collector.refreshed host = .ok after) :
    after.devices.map Device.address? = collector.devices.map Device.address? ∧
      after.settings = collector.settings := by
  cases hcollects : collector.settings.collectProcesses with
  | true =>
      exact ⟨map_address?_refreshed hsteady hcollects h, (getElem?_refreshed hsteady hcollects h).1⟩
  | false =>
      obtain ⟨hsettings, -, hlength, hdevices⟩ := getElem?_refreshed_of_not_collects hcollects h
      refine ⟨?_, hsettings⟩
      apply List.ext_getElem?
      intro index
      rw [List.getElem?_map, List.getElem?_map]
      cases hdevice : collector.devices[index]? with
      | none =>
          have hge : after.devices.length ≤ index := hlength ▸ List.getElem?_eq_none_iff.mp hdevice
          rw [List.getElem?_eq_none hge]
      | some device =>
          obtain ⟨info, -, hlast⟩ := hdevices index device hdevice
          rw [hlast]
          rfl

theorem ready_of_refreshed (hsteady : host.processes.Steady) (hrests : collector.cache.Rests)
    (h : collector.refreshed host = .ok after) (hagain : collector.SeesAgain host again) :
    after.Ready again := by
  intro hcollects
  rw [(kept_of_refreshed hsteady h).2] at hcollects
  exact settled_of_refreshed hsteady hrests hcollects h hagain

theorem snapshot_of_ready (hsteady : host.processes.Steady) (hready : collector.Ready host)
    (hfirst : collector.refreshed host = .ok after) (hagain : collector.SeesAgain host again)
    (hsecond : after.refreshed again = .ok next) (first second : Int64) :
    (next.snapshot first).devices = (after.snapshot second).devices := by
  cases hcollects : collector.settings.collectProcesses with
  | true =>
      exact snapshot_of_settled hsteady (hready hcollects) hcollects hfirst hagain hsecond first
        second
  | false =>
      obtain ⟨hsettings, -, hlength, hdevices⟩ :=
        getElem?_refreshed_of_not_collects hcollects hfirst
      obtain ⟨-, hregistry, hnextLength, hnextDevices⟩ :=
        getElem?_refreshed_of_not_collects (hsettings ▸ hcollects) hsecond
      refine snapshot_devices_eq hregistry hnextLength ?_ first second
      intro index middle hmiddle
      obtain ⟨device, hdevice⟩ : ∃ device, collector.devices[index]? = some device :=
        ⟨_, List.getElem?_eq_getElem (hlength ▸ (List.getElem?_eq_some_iff.mp hmiddle).1)⟩
      obtain ⟨info, hinfo, hlast⟩ := hdevices index device hdevice
      cases hmiddle.symm.trans hlast
      obtain ⟨nextInfo, hnextInfo, hnext⟩ := hnextDevices index _ hlast
      rw [Backend.dynamicInfo_of_repeats hagain.toRepeats] at hnextInfo
      cases hnextInfo.symm.trans hinfo
      exact ⟨_, hnext, rfl, rfl, rfl, rfl⟩

/-- The hosts of the cycles to come repeat themselves, and the collector is between two cycles. -/
structure Recurs (hosts : List Host) (collector : Collector) : Prop where
  steady : ∀ host ∈ hosts, host.processes.Steady
  again : hosts.IsChain collector.SeesAgain
  rests : collector.cache.Rests

theorem Recurs.advance (h : collector.Recurs (host :: hosts))
    (hfirst : collector.refreshed host = .ok after) :
    after.Recurs hosts ∧ ∀ again ∈ hosts.head?, after.Ready again := by
  have hsteady := h.steady host List.mem_cons_self
  obtain ⟨haddresses, hsettings⟩ := kept_of_refreshed hsteady hfirst
  constructor
  · constructor
    · exact fun other hother => h.steady other (List.mem_cons_of_mem host hother)
    · exact h.again.tail.imp fun _ _ hsees => hsees.congr haddresses hsettings
    · exact rests_refreshed h.rests hfirst
  · intro again hagain
    obtain ⟨others, rfl⟩ := List.head?_eq_some_iff.mp hagain
    exact ready_of_refreshed hsteady h.rests hfirst (List.isChain_cons_cons.mp h.again).1

/-- All cycles from a ready one on give the same devices. -/
theorem Cycles.snapshot_of_ready (h : Cycles hosts after states) {first : Host}
    (hfirst : collector.refreshed first = .ok after) (hready : collector.Ready first)
    (hrecurs : collector.Recurs (first :: hosts)) :
    ∀ state ∈ states, ∀ one other : Int64,
      (state.snapshot one).devices = (after.snapshot other).devices := by
  induction h generalizing collector first with
  | nil => simp
  | @cons again hosts after next states hnext _ ih =>
      obtain ⟨hafter, hafterReady⟩ := hrecurs.advance hfirst
      have hequal := Collector.snapshot_of_ready (hrecurs.steady first List.mem_cons_self) hready
        hfirst (List.isChain_cons_cons.mp hrecurs.again).1 hnext
      intro state hstate one other
      rcases List.mem_cons.mp hstate with rfl | hmem
      · exact hequal one other
      · exact (ih hnext (hafterReady again rfl) hafter state hmem one one).trans (hequal one other)

/-- In all cycles from a ready one on, the engines stand still. -/
theorem Cycles.standsStill_of_ready (h : Cycles hosts collector states)
    (hready : ∀ host ∈ hosts.head?, collector.Ready host) (hrecurs : collector.Recurs hosts)
    (hcollects : collector.settings.collectProcesses = true) {index : Nat} {before : Collector}
    (hbefore : (collector :: states)[index]? = some before) (hhost : hosts[index]? = some host) :
    before.StandsStill host := by
  induction h generalizing index with
  | nil => cases hhost
  | @cons first hosts collector after states hfirst _ ih =>
      cases index with
      | zero =>
          cases hbefore
          cases hhost
          exact (hready host rfl hcollects).standsStill (hrecurs.steady host List.mem_cons_self)
            hcollects hfirst
      | succ index =>
          obtain ⟨hafter, hafterReady⟩ := hrecurs.advance hfirst
          have hsettings := (kept_of_refreshed (hrecurs.steady first List.mem_cons_self) hfirst).2
          exact ih hafterReady hafter (hsettings ▸ hcollects) hbefore hhost

/-- On a host that repeats itself all cycles but the first give equal devices, and if processes are
collected, the clients whose counters stand still have the rate zero in them. -/
theorem steady_cycles (hreached : collector.Reached)
    (hsteady : ∀ host ∈ hosts, host.processes.Steady) (hagain : hosts.IsChain collector.SeesAgain)
    {trace events : List Event}
    (hrun : StateT.run (ExceptT.run (cycles hosts collector)) trace = (.ok states, events)) :
    (∀ state ∈ states.tail, ∀ other ∈ states.tail, ∀ one two : Int64,
      (state.snapshot one).devices = (other.snapshot two).devices) ∧
    (collector.settings.collectProcesses = true →
      ∀ (index : Nat) (before : Collector) (host : Host), states[index]? = some before →
        hosts[index + 1]? = some host → before.StandsStill host) := by
  have hcycles := returnsOnly_cycles hosts collector trace states (congrArg Prod.fst hrun)
  have hrecurs : collector.Recurs hosts := ⟨hsteady, hagain, hreached.rests⟩
  cases hcycles with
  | nil => simp
  | @cons first hosts _ after rest hfirst hrest =>
      obtain ⟨hafter, hready⟩ := hrecurs.advance hfirst
      constructor
      · cases hrest with
        | nil => simp
        | @cons second hosts _ next states hsecond hstates =>
            have hequal := hstates.snapshot_of_ready hsecond (hready second rfl) hafter
            have hall : ∀ state ∈ next :: states, ∀ one two : Int64,
                (state.snapshot one).devices = (next.snapshot two).devices := by
              intro state hstate
              rcases List.mem_cons.mp hstate with rfl | hmem
              · exact fun _ _ => rfl
              · exact hequal state hmem
            intro state hstate other hother one two
            exact (hall state hstate one one).trans (hall other hother two one).symm
      · intro hcollects index before host hbefore hhost
        have hsettings := (kept_of_refreshed (hsteady first List.mem_cons_self) hfirst).2
        exact hrest.standsStill_of_ready hready hafter (hsettings ▸ hcollects) hbefore hhost

/-- The text of a client of process 7 is read three times, each time later than before. Its engine
has no rate in the first cycle. -/
theorem steady_cycles_of_one_client :
    let bytes (text : String) : List UInt8 := text.toList.map fun c => UInt8.ofNat c.toNat
    let text := "pdev:a\ndrm-client-id:1\ndrm-engine-gfx:900 ns"
    let descriptor (readAt : Nat) : Descriptor :=
      { name := "3", file := .characterDevice 0xe200, contents := some (bytes text), readAt }
    let sample : CpuSample := { cpuTime := 5, residentMemory := 1, virtualMemory := 2, time := 9 }
    let hostAt (time : Nat) : Host :=
      { libraries := { path := "/lib" }
        drm := { count := 0 }
        nvml := { count := .ok 0 }
        simulated := [{ devices := [{ address := some ['a'] }] }]
        procfs := fun path =>
          { path, listing := .ok [{ name := "7", fdinfo := some [descriptor time] }] }
        processes :=
          { commandLine := fun _ _ => none
            userName := fun _ _ => some "root"
            cpuSample := fun _ _ => some sample } }
    let device : GpuDevice :=
      { vendor := 0, backend := .simulated ⟨0, 0⟩, fdinfo := some { address := ['a'] } }
    let collector : Collector := { settings := {}, registry := {}, devices := [device] }
    let hosts := [hostAt 100, hostAt 200, hostAt 300]
    collector.Reached ∧ (∀ host ∈ hosts, host.processes.Steady) ∧
      hosts.IsChain collector.SeesAgain ∧
      ∃ states events,
        StateT.run (ExceptT.run (cycles hosts collector)) [] = (.ok states, events) ∧
        states.flatMap (fun state => state.devices.flatMap fun device =>
          device.processes.map GpuProcess.gpuUsage) = [none, some 0, some 0] ∧
        (∀ state ∈ states.tail, ∀ other ∈ states.tail,
          (state.snapshot 1).devices = (other.snapshot 2).devices) ∧
        ∀ before, states[1]? = some before → before.StandsStill (hostAt 300) := by
  intro bytes text descriptor sample hostAt device collector hosts
  have hreached : collector.Reached := ⟨collector, [], [], [], rfl, rfl⟩
  have hsteady : ∀ host ∈ hosts, host.processes.Steady := by
    intro host hhost
    simp only [hosts, List.mem_cons, List.not_mem_nil, or_false] at hhost
    rcases hhost with rfl | rfl | rfl <;> exact ⟨fun _ _ => rfl, fun _ _ => rfl, fun _ _ => rfl⟩
  have hvisits : ∀ time ∈ [100, 200, 300],
      ((hostAt time).procfs "/proc").visits (hostAt time).sameOpenFile =
        [⟨7, text.toList, time⟩] := by decide +kernel
  have hsees {time later : Nat} (htime : time ∈ [100, 200, 300]) (hlater : later ∈ [100, 200, 300])
      (h : time < later) : collector.SeesAgain (hostAt time) (hostAt later) := by
    refine ⟨⟨rfl, rfl, rfl, rfl, rfl, rfl, rfl⟩, ?_⟩
    intro index
    change List.Forall₂ _
      (Device.share _ (((hostAt time).procfs "/proc").visits (hostAt time).sameOpenFile) index)
      (Device.share _ (((hostAt later).procfs "/proc").visits (hostAt later).sameOpenFile) index)
    rw [hvisits time htime, hvisits later hlater, Device.share, Device.share, List.filter_cons,
      List.filter_cons]
    split
    · exact .cons h .nil
    · exact .nil
  have hagain : hosts.IsChain collector.SeesAgain := by
    refine List.isChain_cons_cons.mpr ⟨hsees (by simp) (by simp) (by decide), ?_⟩
    exact List.isChain_pair.mpr (hsees (by simp) (by simp) (by decide))
  let usages (states : List Collector) : List (Metric UInt32) :=
    states.flatMap fun state => state.devices.flatMap fun device =>
      device.processes.map GpuProcess.gpuUsage
  have hresult : (StateT.run (ExceptT.run (cycles hosts collector)) []).1.map usages =
      .ok [none, some 0, some 0] := by decide +kernel
  obtain ⟨states, hstates, husages⟩ := Fault.map_eq_ok_iff.mp hresult
  have hrun : StateT.run (ExceptT.run (cycles hosts collector)) [] =
      (.ok states, (StateT.run (ExceptT.run (cycles hosts collector)) []).2) :=
    Prod.ext hstates rfl
  obtain ⟨hequal, hstill⟩ := steady_cycles hreached hsteady hagain hrun
  refine ⟨hreached, hsteady, hagain, states, _, hrun, husages, ?_, ?_⟩
  · exact fun state hstate other hother => hequal state hstate other hother 1 2
  · exact fun before hbefore => hstill rfl 1 before (hostAt 300) hbefore rfl

end

end Collector

end GpuTelemetry
