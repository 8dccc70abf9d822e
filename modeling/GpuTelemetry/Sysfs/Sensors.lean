import GpuTelemetry.Device.Info
import GpuTelemetry.Sysfs.FileTree
import GpuTelemetry.Sysfs.PcieLink
import GpuTelemetry.Text.Utf8

/-!
# Sensor files

The files of a PCI device and of its hardware monitor that tell fan speed, link
state, traffic, temperature limits and power cap. Those needed in every cycle
are opened together with the static query and read through the open file from
then on.
-/

namespace GpuTelemetry.Sysfs

structure FanSensor where
  file : OpenFile
  /-- The reading at full speed. -/
  max : UInt32

structure Sensors where
  /-- The directory of the hardware monitor. -/
  hwmon : Option Path
  fan : Option FanSensor := none
  linkTable : Option OpenFile := none
  traffic : Option OpenFile := none
  powerCap : Option OpenFile := none

namespace FileTree

/-- The present text of an open file, if it is UTF-8. Reading starts over, wherever it ended. -/
def reread (tree : FileTree) (file : OpenFile) : Option (List Char) × OpenFile :=
  let (bytes, file) := tree.readOn? { file with position := 0 }
  (bytes.bind Text.Utf8.decode?, file)

def openFile? (tree : FileTree) (path : Path) : Option OpenFile :=
  (tree.open? path).map fun handle => { handle }

def textAt? (tree : FileTree) (path : Path) : Option (List Char) := do
  (tree.reread (← tree.openFile? path)).1

end FileTree

/-- The number that a text spells, white space around it aside. -/
def wordOf? {α : Type} [Word α] (text : List Char) : Option α :=
  Word.read? (Text.trim text)

def FileTree.wordAt? {α : Type} [Word α] (tree : FileTree) (path : Path) : Option α := do
  wordOf? (← tree.textAt? path)

/-- The first hardware monitor in the order of the names. -/
def hwmonDirectory? (tree : FileTree) : Option Path := do
  let names ← tree.list? ["hwmon"]
  let names := names.filterMap fun (name, node) =>
    if node = .directory && (Text.stripStart? "hwmon".toList name.toList).isSome then some name
    else none
  let first ← names.foldl
    (fun best name =>
      match best with
      | some b => if name < b then some name else some b
      | none => some name)
    none
  return ["hwmon", first]

namespace Sensors

/-- The sensors of a device whose files are below the root of `tree`. -/
def ofTree (tree : FileTree) : Sensors :=
  { hwmon := hwmonDirectory? tree }

/-- A number in a file of the hardware monitor. -/
def hwmonWord? (sensors : Sensors) (tree : FileTree) (name : String) : Option UInt32 := do
  tree.wordAt? ((← sensors.hwmon) ++ [name])

/-- The fan is read by duty cycle where that is enabled, and else by speed where that is. -/
def openFan? (sensors : Sensors) (tree : FileTree) : Option FanSensor := do
  let hwmon ← sensors.hwmon
  let enabled (name : String) : Bool := (sensors.hwmonWord? tree name).any fun v => 0 < v
  let (sensor, limit) ←
    if enabled "pwm1_enable" then some ("pwm1", "pwm1_max")
    else if enabled "fan1_enable" then some ("fan1_input", "fan1_max")
    else none
  let max ← tree.wordAt? (hwmon ++ [limit])
  let file ← tree.openFile? (hwmon ++ [sensor])
  return { file, max }

/-- Opens the files that later readings use. -/
def openFiles (sensors : Sensors) (tree : FileTree) : Sensors :=
  { sensors with
    fan := sensors.openFan? tree
    linkTable := tree.openFile? ["pp_dpm_pcie"]
    traffic := tree.openFile? ["pcie_bw"]
    powerCap := sensors.hwmon.bind fun hwmon => tree.openFile? (hwmon ++ ["power1_cap"]) }

/-- Temperature limits, from millidegrees, and what the link can do at most. -/
def staticInfo (sensors : Sensors) (tree : FileTree) (info : StaticInfo) : StaticInfo :=
  let slowdown := (sensors.hwmonWord? tree "temp1_crit").map (· / 1000)
  let shutdown := (sensors.hwmonWord? tree "temp1_emergency").map (· / 1000)
  let width : Option UInt32 := tree.wordAt? ["max_link_width"]
  let generation := do
    let _ ← width
    largestGeneration? (← tree.textAt? ["max_link_speed"])
  { info with
    slowdownTemperature := slowdown.or info.slowdownTemperature
    shutdownTemperature := shutdown.or info.shutdownTemperature
    maxPcieWidth := width.or info.maxPcieWidth
    maxPcieGeneration := generation.or info.maxPcieGeneration }

/-- Fan speed in percent of its maximum. -/
def fanSpeed? (sensors : Sensors) (tree : FileTree) : Option UInt32 := do
  let fan ← sensors.fan
  let reading : UInt32 ← wordOf? (← (tree.reread fan.file).1)
  if fan.max = 0 then none
  else some (UInt32.ofNat (reading.toNat * 100 / fan.max.toNat))

def link? (sensors : Sensors) (tree : FileTree) : Option PcieLink := do
  PcieLink.active? (← (tree.reread (← sensors.linkTable)).1)

def traffic? (sensors : Sensors) (tree : FileTree) : Option (UInt64 × UInt64) := do
  pcieTraffic? (← (tree.reread (← sensors.traffic)).1)

/-- The power cap in milliwatts, from microwatts. -/
def powerLimit? (sensors : Sensors) (tree : FileTree) : Option UInt32 := do
  let cap : UInt64 ← wordOf? (← (tree.reread (← sensors.powerCap)).1)
  return UInt32.ofNat (cap.toNat / 1000)

def dynamicInfo (sensors : Sensors) (tree : FileTree) (info : DynamicInfo) : DynamicInfo :=
  let link := sensors.link? tree
  let traffic := sensors.traffic? tree
  { info with
    fanSpeed := (sensors.fanSpeed? tree).or info.fanSpeed
    pcieWidth := (link.map PcieLink.width).or info.pcieWidth
    pcieGeneration := (link.bind fun l => pcieGeneration l.speed).or info.pcieGeneration
    pcieReceived := (traffic.map Prod.fst).or info.pcieReceived
    pcieSent := (traffic.map Prod.snd).or info.pcieSent
    powerLimit := (sensors.powerLimit? tree).or info.powerLimit }

/-- The sensors after a reading of all open files. -/
def reread (sensors : Sensors) (tree : FileTree) : Sensors :=
  let read (file : OpenFile) : OpenFile := (tree.reread file).2
  { sensors with
    fan := sensors.fan.map fun fan => { fan with file := read fan.file }
    linkTable := sensors.linkTable.map read
    traffic := sensors.traffic.map read
    powerCap := sensors.powerCap.map read }

end Sensors

end GpuTelemetry.Sysfs
