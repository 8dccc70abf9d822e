import GpuTelemetry.Amd.Device
import Mathlib.Algebra.GroupWithZero.Nat

/-!
# The metrics of AMD devices

Five metrics are readings in another unit, brought to a word of 32 bits: one
product is cut off at the largest word, the quotients are reduced to the word.
The figures of the memory follow from three sizes that need not fit together.
-/

namespace GpuTelemetry

namespace Drm.MemoryInfo

/-- Bytes of the memory that are free, of the usable ones. -/
def free (memory : MemoryInfo) : Nat :=
  memory.usable.toNat - memory.used.toNat

/-- Bytes of the whole memory that are not free. -/
def occupied (memory : MemoryInfo) : Nat :=
  memory.total.toNat - min memory.free memory.total.toNat

theorem occupied_le (memory : MemoryInfo) : memory.occupied ≤ memory.total.toNat :=
  Nat.sub_le _ _

end Drm.MemoryInfo

namespace Amd

open Drm

namespace Device

/-- What the driver answers to the query for the memory. -/
def memory? (driver : Driver) (device : Device) : Option MemoryInfo :=
  (driver.device? device.index).bind ListedDevice.memory

/-- The metrics that the driver answers, with a rate for the use of the memory. -/
def queried (driver : Driver) (device : Device) (memoryUtilization : Option UInt32) : DynamicInfo :=
  let sensors := ((driver.device? device.index).map ListedDevice.sensors).getD {}
  let info := (driver.device? device.index).bind ListedDevice.gpuInfo
  { gpuClock := sensors.engineClock
    memoryClock := sensors.memoryClock
    gpuClockMax := info.map fun i => megahertz i.maxEngineClock
    memoryClockMax := info.map fun i => megahertz i.maxMemoryClock
    gpuUtilization := sensors.load
    totalMemory := (device.memory? driver).map MemoryInfo.total
    usedMemory := (device.memory? driver).map MemoryInfo.used
    freeMemory := (device.memory? driver).map Amd.freeMemory
    memoryUtilization
    temperature := sensors.temperature.map (· / 1000)
    powerDraw := sensors.power.map fun watts => Word.saturatingMul watts 1000 }

theorem dynamicInfo_eq (driver : Driver) (tree : Sysfs.FileTree) (device : Device) :
    device.dynamicInfo driver tree =
      (((device.memory? driver).map Amd.memoryUtilization).getD (.ok none)).map fun rate =>
        device.sensors.dynamicInfo tree (device.queried driver rate) := by
  rw [dynamicInfo, memory?]
  cases hmemory : (driver.device? device.index).bind ListedDevice.memory with
  | none =>
      simp only [queried, memory?, hmemory]
      rfl
  | some memory =>
      simp only [queried, memory?, hmemory, Option.map_some, Option.getD_some]
      cases memoryUtilization memory <;> rfl

end Device

/-! ## Units -/

/-- The metrics that are scaled from the unit of a reading. -/
inductive Conversion
  | fanSpeed
  | powerLimit
  | gpuClockMax
  | memoryClockMax
  | powerDraw
  deriving DecidableEq

namespace Conversion

def metric (info : DynamicInfo) : Conversion → Metric UInt32
  | fanSpeed => info.fanSpeed
  | powerLimit => info.powerLimit
  | gpuClockMax => info.gpuClockMax
  | memoryClockMax => info.memoryClockMax
  | powerDraw => info.powerDraw

/-- The number that a sensor file holds or the driver answers. -/
def reading? (driver : Driver) (tree : Sysfs.FileTree) (device : Device) : Conversion → Option Nat
  | fanSpeed => do
    let fan ← device.sensors.fan
    let reading : UInt32 ← Sysfs.wordOf? (← (tree.reread fan.file).1)
    return reading.toNat
  | powerLimit => do
    let microwatts : UInt64 ← Sysfs.wordOf? (← (tree.reread (← device.sensors.powerCap)).1)
    return microwatts.toNat
  | gpuClockMax => do
    let info ← (driver.device? device.index).bind ListedDevice.gpuInfo
    return info.maxEngineClock.toNat
  | memoryClockMax => do
    let info ← (driver.device? device.index).bind ListedDevice.gpuInfo
    return info.maxMemoryClock.toNat
  | powerDraw => do
    let listed ← driver.device? device.index
    let watts ← listed.sensors.power
    return watts.toNat

def factor : Conversion → Nat
  | fanSpeed => 100
  | powerDraw => 1000
  | powerLimit | gpuClockMax | memoryClockMax => 1

/-- What a reading is divided by. Without a fan the divisor of its speed is zero. -/
def divisor (device : Device) : Conversion → Nat
  | fanSpeed => (device.sensors.fan.map fun fan => fan.max.toNat).getD 0
  | powerDraw => 1
  | powerLimit | gpuClockMax | memoryClockMax => 1000

/-- The value of the metric as a natural number. -/
def exact (device : Device) (conversion : Conversion) (reading : Nat) : Nat :=
  reading * conversion.factor / conversion.divisor device

theorem exact_mono (device : Device) (conversion : Conversion) {a b : Nat} (h : a ≤ b) :
    conversion.exact device a ≤ conversion.exact device b :=
  Nat.div_le_div_right (Nat.mul_le_mul_right _ h)

/-- How the value becomes a word. -/
def store (conversion : Conversion) (value : Nat) : UInt32 :=
  if conversion = powerDraw then Word.saturate value else UInt32.ofNat value

theorem toNat_store (conversion : Conversion) (value : Nat) :
    (conversion.store value).toNat =
      if conversion = powerDraw then min value (2 ^ 32 - 1) else value % 2 ^ 32 := by
  rw [store]
  split
  · exact Word.toNat_saturate (α := UInt32) value
  · exact UInt32.toNat_ofNat'

variable {driver : Driver} {tree : Sysfs.FileTree} {device : Device} {info : DynamicInfo}

theorem metric_eq (h : device.dynamicInfo driver tree = .ok info) (conversion : Conversion) :
    conversion.metric info = (conversion.reading? driver tree device).bind fun reading =>
      if conversion.divisor device = 0 then none
      else some (conversion.store (conversion.exact device reading)) := by
  rw [device.dynamicInfo_eq] at h
  obtain ⟨rate, -, rfl⟩ := Fault.map_eq_ok_iff.mp h
  cases conversion with
  | fanSpeed =>
      have hzero (n : UInt32) : n.toNat = 0 ↔ n = 0 := UInt32.toNat_inj (b := 0)
      cases hfan : device.sensors.fan with
      | none =>
          simp [metric, reading?, Sysfs.Sensors.dynamicInfo, Device.queried,
            Sysfs.Sensors.fanSpeed?, hfan]
      | some fan =>
          simp [metric, reading?, Sysfs.Sensors.dynamicInfo, Device.queried,
            Sysfs.Sensors.fanSpeed?, hfan, hzero, Option.bind_assoc, store, exact, factor, divisor]
  | powerLimit =>
      simp [metric, reading?, Sysfs.Sensors.dynamicInfo, Device.queried, Sysfs.Sensors.powerLimit?,
        Option.bind_assoc, store, exact, factor, divisor]
  | gpuClockMax =>
      cases hclocks : (driver.device? device.index).bind ListedDevice.gpuInfo <;>
        simp [metric, reading?, Sysfs.Sensors.dynamicInfo, Device.queried, megahertz, hclocks,
          store, exact, factor, divisor]
  | memoryClockMax =>
      cases hclocks : (driver.device? device.index).bind ListedDevice.gpuInfo <;>
        simp [metric, reading?, Sysfs.Sensors.dynamicInfo, Device.queried, megahertz, hclocks,
          store, exact, factor, divisor]
  | powerDraw =>
      cases hlisted : driver.device? device.index with
      | none => simp [metric, reading?, Sysfs.Sensors.dynamicInfo, Device.queried, hlisted]
      | some listed =>
          cases hpower : listed.sensors.power with
          | none =>
              simp [metric, reading?, Sysfs.Sensors.dynamicInfo, Device.queried, hlisted, hpower]
          | some watts =>
              have hproduct : Word.saturatingMul watts 1000 =
                  (Word.saturate (watts.toNat * 1000) : UInt32) := rfl
              simp [metric, reading?, Sysfs.Sensors.dynamicInfo, Device.queried, hlisted, hpower,
                hproduct, store, exact, factor, divisor]

theorem exists_of_metric (h : device.dynamicInfo driver tree = .ok info) {conversion : Conversion}
    {metric : UInt32} (hmetric : conversion.metric info = some metric) {reading : Nat}
    (hreading : conversion.reading? driver tree device = some reading) :
    conversion.divisor device ≠ 0 ∧
      metric = conversion.store (conversion.exact device reading) := by
  rw [metric_eq h, hreading, Option.bind_some] at hmetric
  split at hmetric
  · cases hmetric
  next hdivisor =>
    exact ⟨hdivisor, (Option.some.inj hmetric).symm⟩

theorem isSome_metric_iff (h : device.dynamicInfo driver tree = .ok info)
    (conversion : Conversion) :
    (conversion.metric info).isSome ↔
      (conversion.reading? driver tree device).isSome ∧ conversion.divisor device ≠ 0 := by
  rw [metric_eq h]
  cases conversion.reading? driver tree device with
  | none => simp
  | some reading => by_cases hdivisor : conversion.divisor device = 0 <;> simp [hdivisor]

/-- Where the product is cut off or the quotient is a word, more is never stored as less. -/
theorem store_mono {conversion : Conversion} {a b : Nat} (hle : a ≤ b)
    (hfits : conversion = powerDraw ∨ b < 2 ^ 32) : conversion.store a ≤ conversion.store b := by
  rw [UInt32.le_iff_toNat_le, toNat_store, toNat_store]
  split
  · omega
  next hquotient =>
    have hword := hfits.resolve_left hquotient
    rw [Nat.mod_eq_of_lt hword, Nat.mod_eq_of_lt (Nat.lt_of_le_of_lt hle hword)]
    exact hle

theorem toNat_store_of_fits {conversion : Conversion} {value : Nat}
    (hfits : conversion = powerDraw ∨ value < 2 ^ 32) :
    (conversion.store value).toNat = min value (2 ^ 32 - 1) := by
  rw [toNat_store]
  split
  · rfl
  next hquotient =>
    have hword := hfits.resolve_left hquotient
    omega

end Conversion

/-- A metric in another unit is there just when its reading is and nothing is divided by zero. It is
the exact value, or the largest word beyond it, if it is a product or the value is a word, and then
no smaller reading gives a larger metric. A quotient that is no word is reduced to one. -/
theorem conversions_of_dynamicInfo {driver : Driver} {tree : Sysfs.FileTree} {device : Device}
    {info : DynamicInfo} (h : device.dynamicInfo driver tree = .ok info)
    (conversion : Conversion) :
    ((conversion.metric info).isSome ↔
      (conversion.reading? driver tree device).isSome ∧ conversion.divisor device ≠ 0) ∧
    ∀ metric reading, conversion.metric info = some metric →
      conversion.reading? driver tree device = some reading →
        (conversion = .powerDraw ∨ conversion.exact device reading < 2 ^ 32 →
          metric.toNat = min (conversion.exact device reading) (2 ^ 32 - 1) ∧
          ∀ (driver₂ : Driver) (tree₂ : Sysfs.FileTree) (device₂ : Device) (info₂ : DynamicInfo)
            (metric₂ : UInt32) (reading₂ : Nat), device₂.dynamicInfo driver₂ tree₂ = .ok info₂ →
            conversion.metric info₂ = some metric₂ →
            conversion.reading? driver₂ tree₂ device₂ = some reading₂ →
            conversion.divisor device₂ = conversion.divisor device → reading₂ ≤ reading →
              metric₂ ≤ metric) ∧
        (conversion ≠ .powerDraw →
          metric.toNat = conversion.exact device reading % 2 ^ 32) := by
  refine ⟨Conversion.isSome_metric_iff h conversion, ?_⟩
  intro metric reading hmetric hreading
  obtain ⟨-, rfl⟩ := Conversion.exists_of_metric h hmetric hreading
  refine ⟨?_, ?_⟩
  · intro hfits
    refine ⟨Conversion.toNat_store_of_fits hfits, ?_⟩
    intro driver₂ tree₂ device₂ info₂ metric₂ reading₂ h₂ hmetric₂ hreading₂ hdivisor hle
    obtain ⟨-, rfl⟩ := Conversion.exists_of_metric h₂ hmetric₂ hreading₂
    have hsame : conversion.exact device₂ reading₂ = conversion.exact device reading₂ := by
      rw [Conversion.exact, Conversion.exact, hdivisor]
    rw [hsame]
    exact Conversion.store_mono (conversion.exact_mono device hle) hfits
  · intro hquotient
    rw [Conversion.toNat_store, if_neg hquotient]

/-- The power is cut off at the largest word, the fan turns at a fifth of its full speed. -/
theorem conversions_of_large_power :
    let listed : ListedDevice :=
      { address := none
        ids := none
        renderNode := none
        primaryNode := none
        version := none
        sensors := { power := some 4294968 } }
    let driver : Driver := { devices := [listed], count := 1 }
    let tree : Sysfs.FileTree := { contents := [(0, "51\n".toUTF8.data.toList)] }
    let device : Device :=
      { index := 0
        description := ""
        sensors := { hwmon := none, fan := some { file := { handle := .file 0 }, max := 255 } } }
    ∃ info, device.dynamicInfo driver tree = .ok info ∧
      info.powerDraw.map UInt32.toNat = some 4294967295 ∧
      info.fanSpeed.map UInt32.toNat = some 20 ∧ info.powerLimit = none := by
  intro listed driver tree device
  have hrun : ∃ info, device.dynamicInfo driver tree = .ok info := ⟨_, rfl⟩
  obtain ⟨info, hinfo⟩ := hrun
  have hconverted (conversion : Conversion) (reading : Nat)
      (hreading : conversion.reading? driver tree device = some reading)
      (hdivisor : conversion.divisor device ≠ 0)
      (hfits : conversion = .powerDraw ∨ conversion.exact device reading < 2 ^ 32) :
      (conversion.metric info).map UInt32.toNat =
        some (min (conversion.exact device reading) (2 ^ 32 - 1)) := by
    obtain ⟨hset, hvalue⟩ := conversions_of_dynamicInfo hinfo conversion
    obtain ⟨metric, hmetric⟩ := Option.isSome_iff_exists.mp
      (hset.mpr ⟨Option.isSome_iff_exists.mpr ⟨reading, hreading⟩, hdivisor⟩)
    rw [hmetric, Option.map_some, ((hvalue metric reading hmetric hreading).1 hfits).1]
  refine ⟨info, hinfo, ?_, ?_, ?_⟩
  · have hpower := hconverted .powerDraw 4294968 (by decide +kernel) (by decide) (.inl rfl)
    exact hpower.trans (by decide)
  · have hfan := hconverted .fanSpeed 51 (by decide +kernel) (by decide) (.inr (by decide))
    exact hfan.trans (by decide)
  · cases hinfo
    rfl

/-- A clock of 2³² megahertz is stored as zero, a power cap as well, and a fan speed of 100 times the
largest word as less than that word. -/
theorem large_readings_wrap :
    let listed : ListedDevice :=
      { address := none
        ids := none
        renderNode := none
        primaryNode := none
        version := none
        gpuInfo := some
          { family := 143, maxEngineClock := 4294967296000, maxMemoryClock := 4294967295000 } }
    let driver : Driver := { devices := [listed], count := 1 }
    let tree : Sysfs.FileTree :=
      { contents :=
          [(0, "4294967295".toUTF8.data.toList), (1, "4294967296000".toUTF8.data.toList)] }
    let device : Device :=
      { index := 0
        description := ""
        sensors :=
          { hwmon := none
            fan := some { file := { handle := .file 0 }, max := 1 }
            powerCap := some { handle := .file 1 } } }
    ∃ info, device.dynamicInfo driver tree = .ok info ∧
      Conversion.gpuClockMax.exact device 4294967296000 = 4294967296 ∧
      info.gpuClockMax = some 0 ∧ info.memoryClockMax = some 4294967295 ∧
      info.powerLimit = some 0 ∧ info.fanSpeed = some 4294967196 := by
  intro listed driver tree device
  refine ⟨_, rfl, ?_⟩
  decide +kernel

/-! ## Memory -/

theorem toNat_freeMemory (memory : MemoryInfo) : (freeMemory memory).toNat = memory.free := by
  have hword : memory.free < UInt64.size :=
    Nat.lt_of_le_of_lt (Nat.sub_le _ _) memory.usable.toNat_lt
  exact UInt64.toNat_ofNat_of_lt' hword

theorem rate_le (memory : MemoryInfo) : 100 * memory.occupied / memory.total.toNat ≤ 100 := by
  apply Nat.div_le_of_le_mul
  rw [Nat.mul_comm memory.total.toNat]
  exact Nat.mul_le_mul_left 100 memory.occupied_le

theorem memoryUtilization_eq (memory : MemoryInfo) :
    memoryUtilization memory =
      if memory.total = 0 then .ok none
      else if 100 * memory.occupied < 2 ^ 64 then
        .ok (some (UInt32.ofNat (100 * memory.occupied / memory.total.toNat)))
      else .error .multiplicationOverflow := by
  have hused : memory.total.toNat - memory.free = memory.occupied := by
    rw [MemoryInfo.occupied]
    omega
  have hsize : 2 ^ 64 = UInt64.size := rfl
  rw [memoryUtilization]
  dsimp only
  rw [toNat_freeMemory, hused, Nat.mul_comm memory.occupied, hsize]

theorem memoryUtilization_eq_error_iff {memory : MemoryInfo} {fault : Fault} :
    memoryUtilization memory = .error fault ↔
      fault = .multiplicationOverflow ∧ 2 ^ 64 ≤ 100 * memory.occupied := by
  rw [memoryUtilization_eq]
  by_cases hempty : memory.total = 0
  · have hoccupied : memory.occupied ≤ 0 := by simpa [hempty] using memory.occupied_le
    rw [if_pos hempty]
    constructor
    · intro heq
      cases heq
    · rintro ⟨-, hover⟩
      omega
  rw [if_neg hempty]
  by_cases hfits : 100 * memory.occupied < 2 ^ 64
  · rw [if_pos hfits]
    constructor
    · intro heq
      cases heq
    · rintro ⟨-, hover⟩
      omega
  · rw [if_neg hfits]
    constructor
    · intro heq
      cases heq
      exact ⟨rfl, Nat.le_of_not_lt hfits⟩
    · rintro ⟨rfl, -⟩
      rfl

/-- Where the product stays within the word, a memory that is not empty has a rate. -/
theorem exists_memoryUtilization {memory : MemoryInfo} (hfits : 100 * memory.occupied < 2 ^ 64) :
    ∃ utilization, memoryUtilization memory = .ok utilization ∧
      (memory.total = 0 → utilization = none) ∧
      (memory.total ≠ 0 → ∃ rate, utilization = some rate ∧
        rate.toNat = 100 * memory.occupied / memory.total.toNat ∧ rate.toNat ≤ 100) := by
  rw [memoryUtilization_eq]
  by_cases hempty : memory.total = 0
  · rw [if_pos hempty]
    exact ⟨none, rfl, fun _ => rfl, fun hne => absurd hempty hne⟩
  · rw [if_neg hempty, if_pos hfits]
    have hrate := rate_le memory
    have hword : (UInt32.ofNat (100 * memory.occupied / memory.total.toNat)).toNat =
        100 * memory.occupied / memory.total.toNat :=
      UInt32.toNat_ofNat_of_lt' (Nat.lt_of_le_of_lt hrate (by decide))
    refine ⟨_, rfl, fun heq => absurd heq hempty, fun _ => ⟨_, rfl, hword, ?_⟩⟩
    rw [hword]
    exact hrate

/-- Whatever sizes the driver tells, the query faults just when a hundred times the occupied bytes
leave the word. Else it tells what is free, and the rate of what is not in a memory that is not
empty. -/
theorem memory_of_dynamicInfo {driver : Driver} {device : Device} {memory : MemoryInfo}
    (h : device.memory? driver = some memory) (tree : Sysfs.FileTree) :
    (∀ fault, device.dynamicInfo driver tree = .error fault ↔
      fault = .multiplicationOverflow ∧ 2 ^ 64 ≤ 100 * memory.occupied) ∧
    (100 * memory.occupied < 2 ^ 64 →
      ∃ info free, device.dynamicInfo driver tree = .ok info ∧
        info.totalMemory = some memory.total ∧ info.usedMemory = some memory.used ∧
        info.freeMemory = some free ∧ free.toNat = memory.usable.toNat - memory.used.toNat ∧
        (memory.total = 0 → info.memoryUtilization = none) ∧
        (memory.total ≠ 0 → ∃ rate, info.memoryUtilization = some rate ∧
          rate.toNat = 100 * memory.occupied / memory.total.toNat ∧ rate.toNat ≤ 100)) := by
  have hquery : device.dynamicInfo driver tree = (memoryUtilization memory).map fun rate =>
      device.sensors.dynamicInfo tree (device.queried driver rate) := by
    rw [device.dynamicInfo_eq, h, Option.map_some, Option.getD_some]
  rw [hquery]
  refine ⟨?_, ?_⟩
  · intro fault
    rw [Fault.map_eq_error_iff, memoryUtilization_eq_error_iff]
  · intro hfits
    obtain ⟨utilization, hok, hrate⟩ := exists_memoryUtilization hfits
    have hmemory {α : Type} (figure : MemoryInfo → α) :
        (device.memory? driver).map figure = some (figure memory) := by
      rw [h, Option.map_some]
    rw [hok]
    exact ⟨_, _, rfl, hmemory MemoryInfo.total, hmemory MemoryInfo.used, hmemory freeMemory,
      toNat_freeMemory memory, hrate⟩

/-- More bytes are usable than there are. -/
theorem memory_of_inconsistent_sizes :
    let memory : MemoryInfo := { total := 1000, usable := 1100, used := 800 }
    let listed : ListedDevice :=
      { address := none
        ids := none
        renderNode := none
        primaryNode := none
        version := none
        memory := some memory }
    let driver : Driver := { devices := [listed], count := 1 }
    let device : Device := { index := 0, description := "", sensors := { hwmon := none } }
    device.memory? driver = some memory ∧
      ∃ info, device.dynamicInfo driver {} = .ok info ∧
        info.freeMemory.map UInt64.toNat = some 300 ∧
        info.memoryUtilization.map UInt32.toNat = some 70 := by
  intro memory listed driver device
  have hmemory : device.memory? driver = some memory := rfl
  obtain ⟨info, free, hinfo, -, -, hfree, hfreeValue, -, hrate⟩ :=
    (memory_of_dynamicInfo hmemory {}).2 (by decide)
  obtain ⟨rate, hmetric, hvalue, -⟩ := hrate (by decide)
  refine ⟨hmemory, info, hinfo, ?_, ?_⟩
  · rw [hfree, Option.map_some, hfreeValue]
    decide
  · rw [hmetric, Option.map_some, hvalue]
    decide

/-- A memory of 10¹⁸ bytes of which none are usable. -/
theorem dynamicInfo_faults_of_large_memory :
    let memory : MemoryInfo := { total := 1000000000000000000, usable := 0, used := 0 }
    let listed : ListedDevice :=
      { address := none
        ids := none
        renderNode := none
        primaryNode := none
        version := none
        memory := some memory }
    let driver : Driver := { devices := [listed], count := 1 }
    let device : Device := { index := 0, description := "", sensors := { hwmon := none } }
    device.dynamicInfo driver {} = .error .multiplicationOverflow ∧
      100 * memory.occupied / memory.total.toNat = 100 :=
  ⟨rfl, rfl⟩

end Amd

end GpuTelemetry
