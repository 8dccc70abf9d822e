import GpuTelemetry.Numeral.Hexadecimal
import GpuTelemetry.Proofs.Fdinfo.Report
import GpuTelemetry.Proofs.Numeral.Writing
import GpuTelemetry.Proofs.Text.Lines
import Mathlib.Data.Bool.AllAny

/-!
# Reports as the kernel writes them

What a device, a client, its memory and its busy times look like in the notation
of the kernel. Each line of a report says its entry, and a line with any other key
says nothing. So a text that has the lines of a report in any order, and any other
lines between them, is read back as just this report.
-/

namespace GpuTelemetry

theorem Text.isVisible_of_hexValue? {c : Char} (h : (Numeral.hexValue? c).isSome = true) :
    IsVisible c := by
  have hends : ∀ d ∈ ['0', '9', 'a', 'f', 'A', 'F'], IsVisible d :=
    List.all_iff_forall_prop.mp (by decide)
  rw [Numeral.hexValue?] at h
  split at h
  next hdigit => exact isVisible_of_le (hends _ (by decide)) (hends _ (by decide)) hdigit
  next =>
  split at h
  next hlower => exact isVisible_of_le (hends _ (by decide)) (hends _ (by decide)) hlower
  next =>
  split at h
  next hupper => exact isVisible_of_le (hends _ (by decide)) (hends _ (by decide)) hupper
  next => cases h

namespace Fdinfo

/-! ## Lines of a report -/

/-- The address of a device in the form `dddd:bb:dd.f`, in hexadecimal digits of either case. -/
structure DeviceAddress where
  domain : List Char
  bus : List Char
  device : List Char
  function : Char
  length_domain : domain.length = 4
  length_bus : bus.length = 2
  length_device : device.length = 2
  isHexadecimal : ∀ c ∈ domain ++ bus ++ device ++ [function],
    (Numeral.hexValue? c).isSome = true

def DeviceAddress.text (address : DeviceAddress) : List Char :=
  address.domain ++ ':' :: (address.bus ++ ':' :: (address.device ++ ['.', address.function]))

theorem namedKeys_plain : ∀ key ∈ namedKeys, key ≠ [] ∧ ':' ∉ key ∧
    ∀ c ∈ key, Text.IsVisible c ∨ c = ' ' := by
  have hshape : ∀ key ∈ namedKeys, key ≠ [] ∧ ':' ∉ key := by decide
  have hchars : ∀ c ∈ namedKeys.flatten, Text.IsVisible c ∨ c = ' ' :=
    List.all_iff_forall_prop.mp (by decide)
  intro key hkey
  obtain ⟨hne, hcolon⟩ := hshape key hkey
  exact ⟨hne, hcolon, fun c hc => hchars c (List.mem_flatten_of_mem hkey hc)⟩

/-- What one line of a report gives. -/
inductive Item
  | device (address : DeviceAddress)
  | client (id : UInt64)
  | memory (kibibytes : Fin (2 ^ 54))
  | engineTime (engine : Engine) (time : UInt64)

namespace Item

def key : Item → List Char
  | .device _ => "drm-pdev".toList
  | .client _ => "drm-client-id".toList
  | .memory _ => "drm-memory-vram".toList
  | .engineTime engine _ => engine.timeKey

def value : Item → List Char
  | .device address => address.text
  | .client id => Numeral.write id.toNat
  | .memory kibibytes => Numeral.write kibibytes ++ " KiB".toList
  | .engineTime _ time => Numeral.write time.toNat ++ " ns".toList

def line (item : Item) : List Char :=
  item.key ++ ':' :: '\t' :: item.value

def entry : Item → Entry
  | .device address => .address address.text
  | .client id => .client id
  | .memory kibibytes => .memory (UInt64.ofNat (kibibytes.val * 1024))
  | .engineTime engine time => .engineTime engine time

theorem toNat_bytes (kibibytes : Fin (2 ^ 54)) :
    (UInt64.ofNat (kibibytes.val * 1024)).toNat = kibibytes.val * 1024 := by
  have hlt := kibibytes.isLt
  exact UInt64.toNat_ofNat_of_lt' (by rw [UInt64.size]; omega)

theorem tells (item : Item) : Tells item.key item.value item.entry := by
  cases item with
  | device address => exact .address (.inr rfl)
  | client id => exact .client (Word.spells_write id)
  | memory kibibytes =>
      have hcount : (UInt64.ofNat kibibytes.val).toNat = kibibytes.val := by
        have hlt := kibibytes.isLt
        exact UInt64.toNat_ofNat_of_lt' (by rw [UInt64.size]; omega)
      have hspells := Word.spells_write (UInt64.ofNat kibibytes.val)
      rw [show Word.toNat (UInt64.ofNat kibibytes.val) = kibibytes.val from hcount] at hspells
      exact .memory (.inr rfl) (.inr rfl) hspells (by rw [toNat_bytes, hcount])
  | engineTime engine time =>
      exact .engineTime rfl (Word.spells_write time)

theorem key_mem_namedKeys (item : Item) : item.key ∈ namedKeys := by
  cases item with
  | device address => exact (by decide : "drm-pdev".toList ∈ namedKeys)
  | client id => exact (by decide : "drm-client-id".toList ∈ namedKeys)
  | memory kibibytes => exact (by decide : "drm-memory-vram".toList ∈ namedKeys)
  | engineTime engine time => exact timeKey_mem_namedKeys engine

theorem visible_or_space_of_mem_value (item : Item) :
    ∀ c ∈ item.value, Text.IsVisible c ∨ c = ' ' := by
  have hwrite (n : Nat) : ∀ c ∈ Numeral.write n, Text.IsVisible c ∨ c = ' ' :=
    fun c hc => .inl (Text.isVisible_of_isDigit (Numeral.isDigit_of_mem_write hc))
  cases item with
  | device address =>
      have hhex := address.isHexadecimal
      simp only [List.forall_mem_append, List.forall_mem_singleton] at hhex
      obtain ⟨⟨⟨hdomain, hbus⟩, hdevice⟩, hfunction⟩ := hhex
      have hpart {s : List Char} (hs : ∀ c ∈ s, (Numeral.hexValue? c).isSome = true) :
          ∀ c ∈ s, Text.IsVisible c ∨ c = ' ' :=
        fun c hc => .inl (Text.isVisible_of_hexValue? (hs c hc))
      simp only [value, DeviceAddress.text, List.forall_mem_append, List.forall_mem_cons]
      exact ⟨hpart hdomain, by decide, hpart hbus, by decide, hpart hdevice, by decide,
        .inl (Text.isVisible_of_hexValue? hfunction), nofun⟩
  | client id => exact hwrite _
  | memory kibibytes =>
      exact List.forall_mem_append.mpr ⟨hwrite _, List.all_iff_forall_prop.mp (by decide)⟩
  | engineTime engine time =>
      exact List.forall_mem_append.mpr ⟨hwrite _, List.all_iff_forall_prop.mp (by decide)⟩

theorem head?_value (item : Item) : ∃ c ∈ item.value.head?, ¬ Text.IsWhiteSpace c := by
  have hvisible {c : Char} (hc : Text.IsVisible c) : ¬ Text.IsWhiteSpace c :=
    Text.isBlank_eq_false_iff.mp hc.isBlank_eq_false
  have hwrite (n : Nat) (rest : List Char) :
      ∃ c ∈ (Numeral.write n ++ rest).head?, ¬ Text.IsWhiteSpace c := by
    have hhead := Numeral.isDigit_of_mem_write (List.head_mem (Numeral.write_ne_nil n))
    refine ⟨_, ?_, hvisible (Text.isVisible_of_isDigit hhead)⟩
    rw [List.head?_append_of_ne_nil _ (Numeral.write_ne_nil n)]
    exact List.head_mem_head? _
  cases item with
  | device address =>
      have hlength := address.length_domain
      have hhex := address.isHexadecimal
      cases hdomain : address.domain with
      | nil => simp [hdomain] at hlength
      | cons c domain =>
          refine ⟨c, by simp [value, DeviceAddress.text, hdomain], ?_⟩
          exact hvisible (Text.isVisible_of_hexValue? (hhex c (by simp [hdomain])))
  | client id =>
      rw [value, ← List.append_nil (Numeral.write id.toNat)]
      exact hwrite _ _
  | memory kibibytes => exact hwrite _ _
  | engineTime engine time => exact hwrite _ _

theorem isPair_line (item : Item) : IsPair item.line item.key item.value := by
  obtain ⟨hne, hcolon, -⟩ := namedKeys_plain item.key item.key_mem_namedKeys
  exact ⟨['\t'], rfl, hne, hcolon, List.forall_mem_singleton.mpr (by decide), item.head?_value⟩

/-- A line has no line break in it. -/
theorem not_mem_line (item : Item) : '\n' ∉ item.line ∧ '\r' ∉ item.line := by
  have hline : ∀ c ∈ item.line, (Text.IsVisible c ∨ c = ' ') ∨ c = '\t' := by
    obtain ⟨-, -, hkey⟩ := namedKeys_plain item.key item.key_mem_namedKeys
    rw [line, List.forall_mem_append, List.forall_mem_cons, List.forall_mem_cons]
    exact ⟨fun c hc => .inl (hkey c hc), by decide, by decide,
      fun c hc => .inl (item.visible_or_space_of_mem_value c hc)⟩
  exact ⟨fun hc => absurd (hline _ hc) (by decide), fun hc => absurd (hline _ hc) (by decide)⟩

theorem says_line (item : Item) : Says item.line item.entry :=
  ⟨item.key, item.value, item.isPair_line, item.tells⟩

end Item

/-! ## Reports -/

/-- The keys that mean something. -/
def IsKnownKey (key : List Char) : Prop :=
  key ∈ namedKeys ∨ ∃ engine : Engine, ∃ digits,
    key = engine.name.toList ++ digits ∧ digits ≠ [] ∧ ∀ c ∈ digits, c.isDigit = true

/-- A line with a key that means nothing, or with none. -/
def IsForeign (line : List Char) : Prop :=
  '\n' ∉ line ∧ ∀ key rest, line = key ++ ':' :: rest → ':' ∉ key → ¬ IsKnownKey key

theorem Tells.isKnownKey {key value : List Char} {entry : Entry} (h : Tells key value entry) :
    IsKnownKey key := by
  cases h with
  | address hkey => rcases hkey with rfl | rfl <;> exact .inl (by decide)
  | client => exact .inl (by decide)
  | memory hkey => rcases hkey with rfl | rfl <;> exact .inl (by decide)
  | engineTime hkey => exact .inl (hkey ▸ timeKey_mem_namedKeys _)
  | enginePercent hne hall => exact .inr ⟨_, _, rfl, hne, hall⟩

theorem isKnownKey_iff {key : List Char} :
    IsKnownKey key ↔ key ∈ namedKeys ∨ (percentKey? key).isSome = true := by
  simp only [IsKnownKey, Option.isSome_iff_exists, percentKey?_eq_some_iff]

/-- The first colon ends the key, so a line is foreign if what stands before it is not known. -/
theorem isForeign_of_splitAt? {line key rest : List Char} (hnewline : '\n' ∉ line)
    (hsplit : Text.splitAt? ':' line = some (key, rest))
    (hkey : key ∉ namedKeys ∧ percentKey? key = none) : IsForeign line := by
  refine ⟨hnewline, fun other tail hline hcolon hknown => ?_⟩
  have hother := Text.splitAt?_append hcolon tail
  rw [← hline, hsplit] at hother
  cases hother
  rcases isKnownKey_iff.mp hknown with hmem | hsome
  · exact hkey.1 hmem
  · simp [hkey.2] at hsome

/-- A carriage return at the end does not make a line say anything. -/
theorem IsForeign.ofLine?_eq_none {line : List Char} (h : IsForeign line) :
    Entry.ofLine? (Text.withoutReturn line) = none := by
  refine Option.eq_none_iff_forall_ne_some.mpr fun entry hentry => ?_
  obtain ⟨key, value, ⟨blanks, hline, -, hcolon, -, -⟩, htells⟩ := ofLine?_eq_some_iff.mp hentry
  rw [Text.withoutReturn] at hline
  split at hline
  next hlast =>
    obtain ⟨front, rfl⟩ := List.getLast?_eq_some_iff.mp hlast
    rw [List.dropLast_concat] at hline
    refine h.2 key (blanks ++ value ++ ['\r']) ?_ hcolon htells.isKnownKey
    rw [hline, List.append_assoc, List.cons_append]
  next => exact h.2 key _ hline hcolon htells.isKnownKey

/-- What the kernel reports about a client: its device, its number, and its memory in units of 1024
bytes and the busy times of the engines so far as they are known. -/
structure KernelReport where
  address : DeviceAddress
  client : UInt64
  memory : Option (Fin (2 ^ 54))
  engines : EngineCounters

namespace KernelReport

variable {report : KernelReport}

def items (report : KernelReport) : List Item :=
  [.device report.address, .client report.client] ++ report.memory.toList.map .memory ++
    Engine.all.flatMap fun engine =>
      (report.engines.get engine).toList.map (.engineTime engine)

def listed (report : KernelReport) : List Entry :=
  report.items.map Item.entry

/-- Whether a text consists of the lines of a report, in any order, and foreign ones. -/
def IsWrittenAs (report : KernelReport) (text : List Char) : Prop :=
  ∃ lines foreign : List (List Char), lines.Perm (report.items.map Item.line ++ foreign) ∧
    (∀ line ∈ foreign, IsForeign line) ∧ text = lines.flatMap fun line => line ++ ['\n']

/-- The record that a report makes. -/
def record (report : KernelReport) (pid : UInt32) : GpuProcess where
  pid
  kind := if report.engines.compute.isSome then .compute else .graphical
  memory := report.memory.map fun kibibytes => UInt64.ofNat (kibibytes.val * 1024)
  engines := report.engines

theorem entries_perm_listed {text : List Char} (h : report.IsWrittenAs text) :
    (entries text).Perm report.listed := by
  obtain ⟨lines, foreign, hperm, hforeign, rfl⟩ := h
  have hplain : ∀ line ∈ lines, '\n' ∉ line := by
    intro line hline
    rcases List.mem_append.mp (hperm.mem_iff.mp hline) with hmem | hmem
    · obtain ⟨item, -, rfl⟩ := List.mem_map.mp hmem
      exact item.not_mem_line.1
    · exact (hforeign line hmem).1
  have hitem (item : Item) : Entry.ofLine? (Text.withoutReturn item.line) = some item.entry := by
    rw [Text.withoutReturn_of_not_mem item.not_mem_line.2]
    exact ofLine?_eq_some_iff.mpr item.says_line
  have hitems : (report.items.map Item.line).filterMap
      (fun line => Entry.ofLine? (Text.withoutReturn line)) = report.listed := by
    rw [listed, List.filterMap_map, ← List.filterMap_eq_map]
    exact List.filterMap_congr fun item _ => hitem item
  have hnone : foreign.filterMap (fun line => Entry.ofLine? (Text.withoutReturn line)) = [] :=
    List.filterMap_eq_nil_iff.mpr fun line hline => (hforeign line hline).ofLine?_eq_none
  have hread := hperm.filterMap fun line => Entry.ofLine? (Text.withoutReturn line)
  rw [List.filterMap_append, hitems, hnone, List.append_nil] at hread
  rw [entries, Text.lines_flatMap hplain, List.filterMap_map]
  exact hread

/-- What the entries of a report have for a field, piece by piece. -/
theorem filterMap_listed {α : Type} (value? : Entry → Option α) (report : KernelReport) :
    report.listed.filterMap value? =
      (value? (.address report.address.text)).toList ++ (value? (.client report.client)).toList ++
        (report.memory.bind fun kibibytes =>
          value? (.memory (UInt64.ofNat (kibibytes.val * 1024)))).toList ++
        Engine.all.flatMap (fun engine =>
          ((report.engines.get engine).bind fun time =>
            value? (.engineTime engine time)).toList) := by
  have hsingle (entry : Entry) : [entry].filterMap value? = (value? entry).toList := by
    cases h : value? entry <;> simp [h]
  have hoption {β : Type} (value : Option β) (item : β → Item) :
      ((value.toList.map item).map Item.entry).filterMap value? =
        (value.bind fun b => value? (item b).entry).toList := by
    cases value with
    | none => rfl
    | some b => exact hsingle _
  have hpair : [Item.device report.address, .client report.client].map Item.entry =
      [.address report.address.text] ++ [.client report.client] := rfl
  rw [listed, items, List.map_append, List.map_append, List.filterMap_append, List.filterMap_append,
    hpair, List.filterMap_append, hsingle, hsingle, hoption, List.map_flatMap,
    List.filterMap_flatMap]
  simp only [hoption]
  rfl

theorem filterMap_address? (report : KernelReport) :
    report.listed.filterMap Entry.address? = [report.address.text] := by
  simp [filterMap_listed, Entry.address?]

theorem filterMap_client? (report : KernelReport) :
    report.listed.filterMap Entry.client? = [report.client] := by
  simp [filterMap_listed, Entry.client?]

theorem filterMap_memory? (report : KernelReport) (pid : UInt32) :
    report.listed.filterMap Entry.memory? = (report.record pid).memory.toList := by
  rw [filterMap_listed, record]
  cases report.memory <;> simp [Entry.memory?]

theorem filterMap_time? (report : KernelReport) (engine : Engine) :
    report.listed.filterMap (Entry.time? engine) = (report.engines.get engine).toList := by
  cases engine <;> simp [filterMap_listed, Entry.time?, Engine.all]

theorem filterMap_percent? (report : KernelReport) (engines : List Engine) :
    report.listed.filterMap (Entry.percent? engines) = [] := by
  simp [filterMap_listed, Entry.percent?]

/-- A report has no two lines that compete for a field, so their order does not matter. -/
theorem sameReport {text : List Char} (h : report.IsWrittenAs text) (address : List Char) :
    SameReport address (entries text) report.listed := by
  have hperm := entries_perm_listed h
  have hsingle {α : Type} {value? : Entry → Option α} {value : Option α}
      (hvalue : report.listed.filterMap value? = value.toList) :
      (entries text).filterMap value? = report.listed.filterMap value? := by
    have hvalues := hperm.filterMap value?
    rw [hvalue] at hvalues ⊢
    cases value with
    | none => exact hvalues.eq_nil
    | some a => exact List.perm_singleton.mp hvalues
  have hclient : report.listed.filterMap Entry.client? = (some report.client).toList :=
    filterMap_client? report
  exact {
    about := (hperm.filterMap Entry.address?).all_eq
    clients := hsingle hclient
    memory := hsingle (filterMap_memory? report 0)
    times := fun engine => hsingle (filterMap_time? report engine)
    percents := fun engine => hperm.filterMap (Entry.percent? [engine]) }

theorem report_listed (report : KernelReport) (pid : UInt32) :
    Fdinfo.report pid report.listed = report.record pid := by
  have hlast {α : Type} (value : Option α) : value.toList.getLast? = value := by
    cases value <;> rfl
  have htime (engine : Engine) : lastTime? engine report.listed = report.engines.get engine := by
    rw [lastTime?, filterMap_time?, hlast]
  have hmemory : lastMemory? report.listed = (report.record pid).memory := by
    rw [lastMemory?, filterMap_memory? report pid, hlast]
  have hpercents (engines : List Engine) : percentSum? engines report.listed = none := by
    rw [percentSum?, filterMap_percent?]
    rfl
  have hcompute : report.listed.any Entry.isCompute = report.engines.compute.isSome := by
    rw [any_isCompute, filterMap_time?, filterMap_percent?, EngineCounters.get]
    cases report.engines.compute <;> rfl
  simp only [Fdinfo.report, htime, hmemory, hpercents, hcompute]
  rfl

end KernelReport

end Fdinfo

namespace FdinfoReader

open Fdinfo

variable {report : KernelReport} {text : List Char}

theorem accepts_of_isWrittenAs {reader : FdinfoReader} (h : report.IsWrittenAs text) :
    reader.accepts text = decide (report.address.text = reader.address) := by
  rw [accepts, (KernelReport.sameReport h reader.address).about, isAbout,
    KernelReport.filterMap_address?]
  simp

/-- A new reader for the device of a report finds just what is reported and remembers its client. A
new reader for another device rejects the text and remembers nothing. -/
theorem read_of_isWrittenAs (h : report.IsWrittenAs text) (pid : UInt32) (now : Nat) :
    (∃ reader : FdinfoReader,
      read { address := report.address.text } text { pid } now =
        .ok { reader, process := report.record pid, accepted := true } ∧
      reader.clients = { current := [(⟨report.client, pid⟩, ⟨report.engines, now⟩)] } ∧
      reader.trackedClients = 1) ∧
    (report.record pid).memory.map UInt64.toNat =
      report.memory.map (fun kibibytes => kibibytes.val * 1024) ∧
    ∀ other, other ≠ report.address.text →
      ∃ outcome, read { address := other } text { pid } now = .ok outcome ∧
        outcome.accepted = false ∧ outcome.reader.trackedClients = 0 := by
  have hsame := KernelReport.sameReport h report.address.text
  refine ⟨?_, ?_, ?_⟩
  · have haccepts : accepts { address := report.address.text } text = true := by
      rw [accepts_of_isWrittenAs h]
      exact decide_eq_true rfl
    have hkey : clientKey? pid (entries text) = some ⟨report.client, pid⟩ := by
      rw [clientKey?, clientId?, hsame.clients, KernelReport.filterMap_client?]
      rfl
    have hfill : fill { pid } (entries text) = report.record pid := by
      rw [fill_eq_report, hsame.report_eq, KernelReport.report_listed]
    refine ⟨noting { address := report.address.text } text { pid } now, ?_, ?_, ?_⟩
    · refine (read_eq_ok_iff haccepts).mpr ⟨?_, ?_⟩
      · rintro ⟨key, -, hseen⟩
        cases hseen
      · rw [recordOf, hfill, lastReading?, hkey]
        rfl
    · simp only [noting, hkey, readingOf, hfill]
      rfl
    · simp only [trackedClients, noting, hkey]
      rfl
  · rw [KernelReport.record, Option.map_map]
    refine congrArg (Option.map · report.memory) (funext fun kibibytes => ?_)
    exact Item.toNat_bytes kibibytes
  · intro other hother
    have hreject : accepts { address := other } text = false := by
      rw [accepts_of_isWrittenAs h]
      exact decide_eq_false hother.symm
    obtain ⟨left, hread⟩ := read_of_not_accepts hreject { pid } now
    exact ⟨_, hread, rfl, rfl⟩

/-- A report from the last line to the first, with a line of another driver in front. -/
theorem read_of_reversed_report :
    let text := ("drm-driver:\tamdgpu\ndrm-engine-gfx:\t123 ns\ndrm-memory-vram:\t2048 KiB\n" ++
      "drm-client-id:\t7\ndrm-pdev:\t0000:0B:00.0\n").toList
    let process : GpuProcess :=
      { pid := 10, memory := some 2097152, engines := { gfx := some 123 } }
    (∃ reader, read { address := "0000:0B:00.0".toList } text { pid := 10 } 5 =
        .ok { reader, process, accepted := true } ∧ reader.trackedClients = 1) ∧
      ∃ outcome, read { address := "0000:0b:00.0".toList } text { pid := 10 } 5 = .ok outcome ∧
        outcome.accepted = false ∧ outcome.reader.trackedClients = 0 := by
  intro text process
  let report : KernelReport :=
    { address :=
        { domain := "0000".toList, bus := "0B".toList, device := "00".toList, function := '0'
          length_domain := rfl, length_bus := rfl, length_device := rfl
          isHexadecimal := List.all_eq_true.mp (by decide) }
      client := 7
      memory := some 2048
      engines := { gfx := some 123 } }
  have hforeign : IsForeign "drm-driver:\tamdgpu".toList :=
    isForeign_of_splitAt? (by decide) rfl (by decide)
  have hwritten : report.IsWrittenAs text :=
    ⟨_, ["drm-driver:\tamdgpu".toList], List.reverse_perm _, List.forall_mem_singleton.mpr hforeign,
      by decide +kernel⟩
  obtain ⟨⟨reader, hread, -, htracked⟩, -, hother⟩ := read_of_isWrittenAs hwritten 10 5
  exact ⟨⟨reader, hread, htracked⟩, hother "0000:0b:00.0".toList (by decide)⟩

end FdinfoReader

end GpuTelemetry
