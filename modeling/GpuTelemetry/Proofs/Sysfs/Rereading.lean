import GpuTelemetry.Proofs.Sysfs.Contents
import GpuTelemetry.Sysfs.Sensors

/-!
# Sensors that keep their files open

Between the static query that opens the sensor files and a later dynamic query
the tree may change in any way, and the files may be read any number of times.
The dynamic query reports what follows from the present contents of the files
that were opened then.
-/

namespace GpuTelemetry.Sysfs

theorem FileTree.reread_fst (tree : FileTree) (file : OpenFile) :
    (tree.reread file).1 = (tree.read? file.handle).bind Text.Utf8.decode? := by
  rw [reread, readOn?]
  cases tree.read? file.handle <;> rfl

theorem FileTree.handle_reread (tree : FileTree) (file : OpenFile) :
    (tree.reread file).2.handle = file.handle := by
  rw [reread, readOn?]
  dsimp only
  cases tree.read? file.handle <;> rfl

/-- The contents of the sensor files, where a file is open and can be read. -/
structure Contents where
  /-- With the reading at full speed. -/
  fan : Option (List UInt8 × UInt32) := none
  linkTable : Option (List UInt8) := none
  traffic : Option (List UInt8) := none
  powerCap : Option (List UInt8) := none

namespace Contents

def fanSpeed? (contents : Contents) : Option UInt32 := do
  let (bytes, max) ← contents.fan
  let reading : UInt32 ← wordOf? (← Text.Utf8.decode? bytes)
  if max = 0 then none else some (UInt32.ofNat (reading.toNat * 100 / max.toNat))

def link? (contents : Contents) : Option PcieLink := do
  PcieLink.active? (← Text.Utf8.decode? (← contents.linkTable))

def traffic? (contents : Contents) : Option (UInt64 × UInt64) := do
  pcieTraffic? (← Text.Utf8.decode? (← contents.traffic))

def powerLimit? (contents : Contents) : Option UInt32 := do
  let cap : UInt64 ← wordOf? (← Text.Utf8.decode? (← contents.powerCap))
  return UInt32.ofNat (cap.toNat / 1000)

/-- A query reports what the contents tell, and leaves every other metric as it was. -/
structure Reports (contents : Contents) (info after : DynamicInfo) : Prop where
  fanSpeed : after.fanSpeed = contents.fanSpeed?.or info.fanSpeed
  pcieWidth : after.pcieWidth = (contents.link?.map PcieLink.width).or info.pcieWidth
  pcieGeneration : after.pcieGeneration =
    (contents.link?.bind fun link => pcieGeneration link.speed).or info.pcieGeneration
  pcieReceived : after.pcieReceived = (contents.traffic?.map Prod.fst).or info.pcieReceived
  pcieSent : after.pcieSent = (contents.traffic?.map Prod.snd).or info.pcieSent
  powerLimit : after.powerLimit = contents.powerLimit?.or info.powerLimit
  rest : after =
    { info with
      fanSpeed := after.fanSpeed
      pcieWidth := after.pcieWidth
      pcieGeneration := after.pcieGeneration
      pcieReceived := after.pcieReceived
      pcieSent := after.pcieSent
      powerLimit := after.powerLimit }

theorem Reports.eq_of_no_contents {info after : DynamicInfo} (h : Reports {} info after) :
    after = info := by
  rw [h.rest, h.fanSpeed, h.pcieWidth, h.pcieGeneration, h.pcieReceived, h.pcieSent, h.powerLimit]
  rfl

/-- The fan sensor of a hardware monitor and the file with its reading at full speed: duty cycle or
else speed, whichever is enabled by a positive number. -/
def fanNames? (tree : FileTree) (hwmon : Path) : Option (String × String) :=
  let enabled (name : String) : Bool :=
    (tree.wordAt? (hwmon ++ [name]) : Option UInt32).any fun number => 0 < number
  if enabled "pwm1_enable" then some ("pwm1", "pwm1_max")
  else if enabled "fan1_enable" then some ("fan1_input", "fan1_max")
  else none

/-- What `read` finds in the files that a static query opens in a tree. -/
def opened (hwmon : Option Path) (tree : FileTree) (read : Handle → Option (List UInt8)) :
    Contents where
  fan := do
    let hwmon ← hwmon
    let (sensor, limit) ← fanNames? tree hwmon
    let max ← tree.wordAt? (hwmon ++ [limit])
    let bytes ← (tree.open? (hwmon ++ [sensor])).bind read
    return (bytes, max)
  linkTable := (tree.open? ["pp_dpm_pcie"]).bind read
  traffic := (tree.open? ["pcie_bw"]).bind read
  powerCap := hwmon.bind fun hwmon => (tree.open? (hwmon ++ ["power1_cap"])).bind read

theorem opened_congr (hwmon : Option Path) {tree : FileTree}
    {read other : Handle → Option (List UInt8)}
    (h : ∀ path file, tree.open? path = some file → read file = other file) :
    opened hwmon tree read = opened hwmon tree other := by
  have hbind (path : Path) : (tree.open? path).bind read = (tree.open? path).bind other :=
    Option.bind_congr (h path)
  simp only [opened, hbind]

end Contents

namespace Sensors

/-- What `read` finds in the open files. -/
def contents (sensors : Sensors) (read : Handle → Option (List UInt8)) : Contents where
  fan := do
    let fan ← sensors.fan
    return (← read fan.file.handle, fan.max)
  linkTable := sensors.linkTable.bind fun file => read file.handle
  traffic := sensors.traffic.bind fun file => read file.handle
  powerCap := sensors.powerCap.bind fun file => read file.handle

/-- How far the files were read before has no influence. -/
theorem reports_dynamicInfo (sensors : Sensors) (tree : FileTree) (info : DynamicInfo) :
    (sensors.contents tree.read?).Reports info (sensors.dynamicInfo tree info) := by
  have hfan : sensors.fanSpeed? tree = (sensors.contents tree.read?).fanSpeed? := by
    simp only [fanSpeed?, Contents.fanSpeed?, contents, tree.reread_fst, Option.bind_eq_bind,
      Option.pure_def, Option.bind_assoc, Option.bind_some]
  have hlink : sensors.link? tree = (sensors.contents tree.read?).link? := by
    simp only [link?, Contents.link?, contents, tree.reread_fst, Option.bind_eq_bind,
      Option.bind_assoc]
  have htraffic : sensors.traffic? tree = (sensors.contents tree.read?).traffic? := by
    simp only [traffic?, Contents.traffic?, contents, tree.reread_fst, Option.bind_eq_bind,
      Option.bind_assoc]
  have hpower : sensors.powerLimit? tree = (sensors.contents tree.read?).powerLimit? := by
    simp only [powerLimit?, Contents.powerLimit?, contents, tree.reread_fst, Option.bind_eq_bind,
      Option.bind_assoc]
  rw [dynamicInfo, hfan, hlink, htraffic, hpower]
  exact ⟨rfl, rfl, rfl, rfl, rfl, rfl, rfl⟩

theorem contents_reread (sensors : Sensors) (tree : FileTree)
    (read : Handle → Option (List UInt8)) :
    (sensors.reread tree).contents read = sensors.contents read := by
  simp only [contents, reread, Option.bind_eq_bind, Option.bind_map, Function.comp_def,
    tree.handle_reread]

theorem contents_openFiles (sensors : Sensors) (tree : FileTree)
    (read : Handle → Option (List UInt8)) :
    (sensors.openFiles tree).contents read = Contents.opened sensors.hwmon tree read := by
  have hopen (path : Path) : ((tree.openFile? path).bind fun file => read file.handle) =
      (tree.open? path).bind read := by
    rw [FileTree.openFile?, Option.bind_map]
    rfl
  have hfan : (sensors.openFan? tree).bind
      (fun fan => (read fan.file.handle).bind fun bytes => some (bytes, fan.max)) =
        (Contents.opened sensors.hwmon tree read).fan := by
    rw [openFan?, Contents.opened]
    cases hhwmon : sensors.hwmon with
    | none => rfl
    | some hwmon =>
        simp only [hwmonWord?, hhwmon, Contents.fanNames?, Option.bind_eq_bind, Option.bind_some,
          Option.bind_assoc, Option.pure_def, FileTree.openFile?, Option.bind_map, Function.comp_def]
        split
        · simp only [Option.bind_assoc, Option.bind_some]
        · split
          · simp only [Option.bind_assoc, Option.bind_some]
          · rfl
  simp only [contents, openFiles, Option.bind_eq_bind, Option.pure_def, hopen, hfan,
    Option.bind_assoc]
  rfl

end Sensors

/-! ## Steps of the sensors and of the tree -/

inductive SensorStep
  | change (change : FileChange)
  /-- The static query, which opens the sensor files. -/
  | openFiles
  /-- A dynamic query. -/
  | refresh
  deriving DecidableEq

/-- The changes of the tree among some steps. -/
def SensorStep.changes (steps : List SensorStep) : List FileChange :=
  steps.filterMap fun step =>
    match step with
    | change c => some c
    | openFiles | refresh => none

structure Scene where
  tree : FileTree
  sensors : Sensors

namespace Scene

def step (scene : Scene) : SensorStep → Scene
  | .change c => { scene with tree := scene.tree.change c }
  | .openFiles => { scene with sensors := scene.sensors.openFiles scene.tree }
  | .refresh => { scene with sensors := scene.sensors.reread scene.tree }

def run (scene : Scene) (steps : List SensorStep) : Scene :=
  steps.foldl step scene

def dynamicInfo (scene : Scene) (info : DynamicInfo) : DynamicInfo :=
  scene.sensors.dynamicInfo scene.tree info

theorem tree_run (scene : Scene) (steps : List SensorStep) :
    (scene.run steps).tree = scene.tree.changeAll (SensorStep.changes steps) := by
  induction steps generalizing scene with
  | nil => rfl
  | cons first steps ih =>
      rw [run, List.foldl_cons, ← run, ih]
      cases first <;> rfl

theorem hwmon_run (scene : Scene) (steps : List SensorStep) :
    (scene.run steps).sensors.hwmon = scene.sensors.hwmon := by
  induction steps generalizing scene with
  | nil => rfl
  | cons first steps ih =>
      rw [run, List.foldl_cons, ← run, ih]
      cases first <;> rfl

/-- Until the files are opened anew the open files stay the same. -/
theorem contents_run {steps : List SensorStep} (h : SensorStep.openFiles ∉ steps) (scene : Scene)
    (read : Handle → Option (List UInt8)) :
    (scene.run steps).sensors.contents read = scene.sensors.contents read := by
  induction steps generalizing scene with
  | nil => rfl
  | cons first steps ih =>
      have hlater : SensorStep.openFiles ∉ steps := fun hmem => h (List.mem_cons_of_mem _ hmem)
      rw [run, List.foldl_cons, ← run, ih hlater]
      cases first with
      | change c => rfl
      | openFiles => exact absurd List.mem_cons_self h
      | refresh => exact scene.sensors.contents_reread scene.tree read

end Scene

/-- However files are written, replaced, removed, made and linked, and whenever the sensors are
queried, a dynamic query reports what follows from the present contents of the files that the last
static query opened, each by itself. Before the first one nothing is reported. -/
theorem dynamicInfo_of_steps (tree : FileTree) (steps : List SensorStep) (info : DynamicInfo) :
    let scene := Scene.run { tree, sensors := Sensors.ofTree tree } steps
    (SensorStep.openFiles ∉ steps → scene.dynamicInfo info = info) ∧
      ∀ before since, steps = before ++ SensorStep.openFiles :: since →
        SensorStep.openFiles ∉ since →
          let atOpening := tree.changeAll (SensorStep.changes before)
          (Contents.opened (hwmonDirectory? tree) atOpening
            (atOpening.contentsAfter? (SensorStep.changes since))).Reports info
              (scene.dynamicInfo info) := by
  intro scene
  have hreports := scene.sensors.reports_dynamicInfo scene.tree info
  refine ⟨?_, ?_⟩
  · intro hnever
    rw [Scene.contents_run hnever] at hreports
    exact hreports.eq_of_no_contents
  · intro before since hsteps hsince atOpening
    let earlier := Scene.run { tree, sensors := Sensors.ofTree tree } before
    have hrun : scene = (earlier.step .openFiles).run since := by
      simp only [scene, earlier, hsteps, Scene.run, List.foldl_append, List.foldl_cons]
    have hopening : earlier.tree = atOpening := Scene.tree_run _ before
    have htree : scene.tree = atOpening.changeAll (SensorStep.changes since) := by
      rw [hrun, Scene.tree_run, ← hopening]
      rfl
    have hcontents : scene.sensors.contents scene.tree.read? =
        Contents.opened (hwmonDirectory? tree) atOpening scene.tree.read? := by
      rw [hrun, Scene.contents_run hsince, ← hrun, Scene.step, Sensors.contents_openFiles,
        Scene.hwmon_run, hopening]
      rfl
    rw [hcontents] at hreports
    rw [← Contents.opened_congr _ fun path file hopen =>
      FileTree.read?_opened hopen (SensorStep.changes since), ← htree]
    exact hreports

/-- The fan and the table of link states are written to in place, the fan after it was read once. The
power cap is replaced and the traffic removed. -/
theorem dynamicInfo_of_steps_of_removed_file :
    let text (s : String) : List UInt8 := s.toUTF8.data.toList
    let tree : FileTree := ({} : FileTree).changeAll
      [.write ["hwmon", "hwmon3", "fan1_enable"] (text "1\n"),
        .write ["hwmon", "hwmon3", "fan1_max"] (text "3000\n"),
        .write ["hwmon", "hwmon3", "fan1_input"] (text "1500\n"),
        .write ["hwmon", "hwmon3", "power1_cap"] (text "203000000\n"),
        .write ["pp_dpm_pcie"] (text "0: 2.5GT/s, x8 619Mhz *\n"),
        .write ["pcie_bw"] (text "4 1 8\n")]
    let since : List SensorStep :=
      [.refresh,
        .change (.write ["hwmon", "hwmon3", "fan1_input"] (text "3000\n")),
        .change (.replace ["hwmon", "hwmon3", "power1_cap"] (text "1000\n")),
        .change (.remove ["pcie_bw"]),
        .change (.write ["pp_dpm_pcie"] (text "0: 2.5GT/s, x8 619Mhz\n1: 8.0GT/s, x16 619Mhz *\n"))]
    let info : DynamicInfo := { fanSpeed := some 1, pcieWidth := some 4 }
    let scene := Scene.run { tree, sensors := Sensors.ofTree tree } (.openFiles :: since)
    SensorStep.openFiles ∉ since ∧
      scene.dynamicInfo info =
        { info with
          fanSpeed := some 100
          pcieWidth := some 16
          pcieGeneration := some 3
          pcieReceived := some 32
          pcieSent := some 8
          powerLimit := some 203000 } := by
  intro text tree since info scene
  have hsince : SensorStep.openFiles ∉ since := by decide +kernel
  have hreports := (dynamicInfo_of_steps tree (.openFiles :: since) info).2 [] since rfl hsince
  refine ⟨hsince, ?_⟩
  rw [hreports.rest, hreports.fanSpeed, hreports.pcieWidth, hreports.pcieGeneration,
    hreports.pcieReceived, hreports.pcieSent, hreports.powerLimit]
  decide +kernel

end GpuTelemetry.Sysfs
