import GpuTelemetry.Proofs.Fdinfo.Grammar
import GpuTelemetry.Proofs.Fdinfo.Reading
import GpuTelemetry.Proofs.Text.Lines

/-!
# What a text reports

The record that a text describes, field by field and without going through the
text in order: the last line counts for memory, engine times and the client, all
lines count for the percentages, and one line is enough to make the process a
compute process. Reading an accepted text yields this record with the busy rates
put in. So lines that say nothing can be deleted, and lines that do not compete
for a field can change places.
-/

namespace GpuTelemetry

namespace Fdinfo

namespace Entry

def memory? : Entry → Option UInt64
  | .memory bytes => some bytes
  | _ => none

def isCompute : Entry → Bool
  | .engineTime engine _ | .enginePercent engine _ => engine = .compute
  | _ => false

end Entry

def lastMemory? (entries : List Entry) : Option UInt64 :=
  (entries.filterMap Entry.memory?).getLast?

/-- The record of a process that entries describe. -/
def report (pid : UInt32) (entries : List Entry) : GpuProcess where
  pid
  kind := if entries.any Entry.isCompute then .compute else .graphical
  memory := lastMemory? entries
  gpuUsage := percentSum? [.gfx, .compute] entries
  encodeUsage := percentSum? [.encode] entries
  decodeUsage := percentSum? [.decode] entries
  engines :=
    { gfx := lastTime? .gfx entries
      compute := lastTime? .compute entries
      encode := lastTime? .encode entries
      decode := lastTime? .decode entries }

theorem Progress.memory_add (progress : Progress) (entry : Entry) :
    (progress.add entry).process.memory = entry.memory?.or progress.process.memory := by
  cases entry with
  | engineTime engine time => cases engine <;> rfl
  | enginePercent engine percent => cases engine <;> rfl
  | _ => rfl

theorem Progress.kind_add (progress : Progress) (entry : Entry) :
    (progress.add entry).process.kind =
      if entry.isCompute then .compute else progress.process.kind := by
  cases entry with
  | engineTime engine time => cases engine <;> rfl
  | enginePercent engine percent => cases engine <;> rfl
  | _ => rfl

theorem memory_fill (pid : UInt32) (entries : List Entry) :
    (fill { pid } entries).memory = lastMemory? entries := by
  have hlast := Progress.foldl_add_replaced (fun progress => progress.process.memory) Entry.memory?
    Progress.memory_add { process := { pid } } entries
  exact hlast.trans Option.or_none

theorem kind_fill (pid : UInt32) (entries : List Entry) :
    (fill { pid } entries).kind = if entries.any Entry.isCompute then .compute else .graphical := by
  induction entries using List.reverseRecOn with
  | nil => rfl
  | append_singleton entries entry ih =>
      rw [fill, List.foldl_append, List.foldl_cons, List.foldl_nil, Progress.kind_add,
        List.any_append]
      cases hentry : entry.isCompute with
      | true => simp [hentry]
      | false =>
          rw [fill] at ih
          simp [hentry, ih]

theorem fill_eq_report (pid : UInt32) (entries : List Entry) :
    fill { pid } entries = report pid entries := by
  refine GpuProcess.ext_figures (kind_fill pid entries) (bare_fill _ entries) fun figure => ?_
  cases figure with
  | memory => exact congrArg (Option.map UInt64.toNat) (memory_fill pid entries)
  | gpuUsage => exact congrArg (Option.map UInt32.toNat) (gpuUsage_fill pid entries)
  | encodeUsage => exact congrArg (Option.map UInt32.toNat) (encodeUsage_fill pid entries)
  | decodeUsage => exact congrArg (Option.map UInt32.toNat) (decodeUsage_fill pid entries)
  | busyTime engine =>
      refine congrArg (Option.map UInt64.toNat) ((counter_fill engine { pid } entries).trans ?_)
      cases engine <;> exact Option.or_none

theorem kind_report_eq_compute_iff {pid : UInt32} {text : List Char} :
    (report pid (entries text)).kind = .compute ↔
      ∃ line ∈ Text.lines text, ∃ entry, Says line entry ∧ entry.isCompute = true := by
  have hany : (report pid (entries text)).kind = .compute ↔
      ∃ entry ∈ entries text, entry.isCompute = true := by
    rw [report, ← List.any_eq_true]
    cases (entries text).any Entry.isCompute <;> simp
  rw [hany]
  simp only [mem_entries_iff]
  constructor
  · rintro ⟨entry, ⟨line, hline, hsays⟩, hcompute⟩
    exact ⟨line, hline, entry, hsays, hcompute⟩
  · rintro ⟨line, hline, entry, hsays, hcompute⟩
    exact ⟨entry, ⟨line, hline, hsays⟩, hcompute⟩

/-! ## The last line of a kind -/

/-- Whether `a` is what the last line with a value of some kind says. -/
def LastSaid {α : Type} (text : List Char) (value? : Entry → Option α) (a : α) : Prop :=
  ∃ before line after entry, Text.lines text = before ++ line :: after ∧ Says line entry ∧
    value? entry = some a ∧ ∀ later ∈ after, ∀ other, Says later other → value? other = none

theorem getLast?_eq_some_iff_lastSaid {α : Type} {text : List Char} {value? : Entry → Option α}
    {a : α} : ((entries text).filterMap value?).getLast? = some a ↔ LastSaid text value? a := by
  have hmeans (line : List Char) (b : α) :
      (Entry.ofLine? line).bind value? = some b ↔
        ∃ entry, Says line entry ∧ value? entry = some b := by
    simp only [Option.bind_eq_some_iff, ofLine?_eq_some_iff]
  rw [entries, List.filterMap_filterMap, List.getLast?_filterMap, List.findSome?_eq_some_iff]
  constructor
  · rintro ⟨after, line, before, hlines, hline, hlater⟩
    obtain ⟨entry, hsays, hvalue⟩ := (hmeans line a).mp hline
    refine ⟨before.reverse, line, after.reverse, entry, ?_, hsays, hvalue, ?_⟩
    · simpa using congrArg List.reverse hlines
    · intro later hmem other hother
      have hnone := hlater later (List.mem_reverse.mp hmem)
      rwa [ofLine?_eq_some_iff.mpr hother, Option.bind_some] at hnone
  · rintro ⟨before, line, after, entry, hlines, hsays, hvalue, hlater⟩
    refine ⟨after.reverse, line, before.reverse, ?_, (hmeans line a).mpr ⟨entry, hsays, hvalue⟩, ?_⟩
    · simp [hlines]
    · intro later hmem
      refine Option.bind_eq_none_iff.mpr fun other hother => ?_
      exact hlater later (List.mem_reverse.mp hmem) other (ofLine?_eq_some_iff.mp hother)

/-! ## All lines of a kind -/

/-- The values of some kind that lines say, in order. -/
inductive Gathers {α : Type} (value? : Entry → Option α) : List (List Char) → List α → Prop
  | nothing : Gathers value? [] []
  | takes {line : List Char} {lines : List (List Char)} {entry : Entry} {a : α} {as : List α} :
    Says line entry → value? entry = some a → Gathers value? lines as →
    Gathers value? (line :: lines) (a :: as)
  | skips {line : List Char} {lines : List (List Char)} {as : List α} :
    (∀ entry, Says line entry → value? entry = none) → Gathers value? lines as →
    Gathers value? (line :: lines) as

theorem gathers_filterMap {α : Type} (value? : Entry → Option α) (lines : List (List Char)) :
    Gathers value? lines ((lines.filterMap Entry.ofLine?).filterMap value?) := by
  induction lines with
  | nil => exact .nothing
  | cons line lines ih =>
      cases hline : Entry.ofLine? line with
      | none =>
          rw [List.filterMap_cons_none hline]
          refine .skips (fun entry hsays => ?_) ih
          rw [ofLine?_eq_some_iff.mpr hsays] at hline
          cases hline
      | some entry =>
          have hsays := ofLine?_eq_some_iff.mp hline
          rw [List.filterMap_cons_some hline]
          cases hvalue : value? entry with
          | none =>
              rw [List.filterMap_cons_none hvalue]
              refine .skips (fun other hother => ?_) ih
              -- a line says one thing only
              rw [ofLine?_eq_some_iff.mpr hother] at hline
              exact Option.some.inj hline ▸ hvalue
          | some a =>
              rw [List.filterMap_cons_some hvalue]
              exact .takes hsays hvalue ih

/-- There is nothing else that lines say. -/
theorem Gathers.eq {α : Type} {value? : Entry → Option α} {lines : List (List Char)} {as : List α}
    (h : Gathers value? lines as) : as = (lines.filterMap Entry.ofLine?).filterMap value? := by
  induction h with
  | nothing => rfl
  | takes hsays hvalue _ ih =>
      rw [List.filterMap_cons_some (ofLine?_eq_some_iff.mpr hsays),
        List.filterMap_cons_some hvalue, ih]
  | @skips line lines _ hnone _ ih =>
      cases hline : Entry.ofLine? line with
      | none => rw [List.filterMap_cons_none hline, ih]
      | some entry =>
          rw [List.filterMap_cons_some hline,
            List.filterMap_cons_none (hnone entry (ofLine?_eq_some_iff.mp hline)), ih]

theorem eq_entries_of_gathers {text : List Char} {said : List Entry}
    (h : Gathers some (Text.lines text) said) : said = entries text := by
  rw [h.eq, List.filterMap_some, entries]

/-- Whether a usage is what some percentages add up to: their sum as far as a word holds it, and
nothing without any. -/
def AddsUp (percents : List UInt32) (usage : Metric UInt32) : Prop :=
  usage.map UInt32.toNat =
    if percents = [] then none else some (min (percents.map UInt32.toNat).sum (2 ^ 32 - 1))

theorem addsUp_percentSum? (engines : List Engine) (entries : List Entry) :
    AddsUp (entries.filterMap (Entry.percent? engines)) (percentSum? engines entries) := by
  rw [AddsUp, percentSum?]
  split
  next => rfl
  next => exact congrArg some (@Word.toNat_saturate UInt32 _ _)

/-- What a record of a process is to have from a text, apart from its busy rates. -/
structure Describes (text : List Char) (pid : UInt32) (record : GpuProcess) : Prop where
  memory : ∀ bytes, record.memory = some bytes ↔ LastSaid text Entry.memory? bytes
  engines : ∀ engine time,
    record.engines.get engine = some time ↔ LastSaid text (Entry.time? engine) time
  kind : record.kind = .compute ↔
    ∃ line ∈ Text.lines text, ∃ entry, Says line entry ∧ entry.isCompute = true
  bare : record.bare = { pid }

/-- What a record is to have for usages before any rate is put in. -/
structure SumsPercents (text : List Char) (record : GpuProcess) : Prop where
  gpu : ∃ percents, Gathers (Entry.percent? [.gfx, .compute]) (Text.lines text) percents ∧
    AddsUp percents record.gpuUsage
  encode : ∃ percents, Gathers (Entry.percent? [.encode]) (Text.lines text) percents ∧
    AddsUp percents record.encodeUsage
  decode : ∃ percents, Gathers (Entry.percent? [.decode]) (Text.lines text) percents ∧
    AddsUp percents record.decodeUsage

theorem describes_report (pid : UInt32) (text : List Char) :
    Describes text pid (report pid (entries text)) where
  memory _ := getLast?_eq_some_iff_lastSaid
  engines engine time := by
    rw [← getLast?_eq_some_iff_lastSaid]
    cases engine <;> exact Iff.rfl
  kind := kind_report_eq_compute_iff
  bare := rfl

/-- Rates only replace usages. -/
theorem Describes.ratedSince {text : List Char} {pid : UInt32} {record : GpuProcess}
    (h : Describes text pid record) (last : Option ClientReading) (now : Nat) :
    Describes text pid (record.ratedSince last now) := by
  cases last with
  | none => exact h
  | some last => exact ⟨h.memory, h.engines, h.kind, h.bare⟩

/-- The usages of a record whose client was read before: the busy rates since then, where there are
any, and those of `record` for the rest. -/
structure Rates (record : GpuProcess) (last : ClientReading) (now : Nat) (rated : GpuProcess) :
    Prop where
  gpu : rated.gpuUsage =
    (busyRate last.counters.compute record.engines.compute (now - last.time)).or
      ((busyRate last.counters.gfx record.engines.gfx (now - last.time)).or record.gpuUsage)
  encode : rated.encodeUsage =
    (busyRate last.counters.encode record.engines.encode (now - last.time)).or record.encodeUsage
  decode : rated.decodeUsage =
    (busyRate last.counters.decode record.engines.decode (now - last.time)).or record.decodeUsage

theorem rates_ratedSince (record : GpuProcess) (last : ClientReading) (now : Nat) :
    Rates record last now (record.ratedSince (some last) now) where
  gpu := Option.or_assoc
  encode := rfl
  decode := rfl

theorem sumsPercents_report (pid : UInt32) (text : List Char) :
    SumsPercents text (report pid (entries text)) where
  gpu := ⟨_, gathers_filterMap _ _, addsUp_percentSum? _ _⟩
  encode := ⟨_, gathers_filterMap _ _, addsUp_percentSum? _ _⟩
  decode := ⟨_, gathers_filterMap _ _, addsUp_percentSum? _ _⟩

/-! ## Texts that report the same -/

/-- `Thins kept lines` if `kept` is what is left of `lines` without some that say nothing. -/
inductive Thins : List (List Char) → List (List Char) → Prop
  | nil : Thins [] []
  | keep {kept lines : List (List Char)} (line : List Char) :
    Thins kept lines → Thins (line :: kept) (line :: lines)
  | drop {kept lines : List (List Char)} {line : List Char} :
    (∀ entry, ¬ Says line entry) → Thins kept lines → Thins kept (line :: lines)

theorem Thins.refl (lines : List (List Char)) : Thins lines lines := by
  induction lines with
  | nil => exact .nil
  | cons line lines ih => exact .keep line ih

theorem thins_append_cons {line : List Char} (h : ∀ entry, ¬ Says line entry)
    (front back : List (List Char)) : Thins (front ++ back) (front ++ line :: back) := by
  induction front with
  | nil => exact .drop h (Thins.refl back)
  | cons first front ih => exact .keep first ih

theorem Thins.filterMap_ofLine? {kept lines : List (List Char)} (h : Thins kept lines) :
    kept.filterMap Entry.ofLine? = lines.filterMap Entry.ofLine? := by
  induction h with
  | nil => rfl
  | keep line _ ih => rw [List.filterMap_cons, List.filterMap_cons, ih]
  | @drop kept lines line hline _ ih =>
      have hnone : Entry.ofLine? line = none :=
        Option.eq_none_iff_forall_ne_some.mpr fun entry hentry =>
          hline entry (ofLine?_eq_some_iff.mp hentry)
      rw [List.filterMap_cons_none hnone, ih]

/-- Whether two texts say the same about a device: both or neither name another address, they have
the same client lines, memory lines and times of each engine in the same order, and the same
percentages of each engine in any order. -/
structure SameReport (address : List Char) (first second : List Entry) : Prop where
  about : isAbout address first = isAbout address second
  clients : first.filterMap Entry.client? = second.filterMap Entry.client?
  memory : first.filterMap Entry.memory? = second.filterMap Entry.memory?
  times : ∀ engine, first.filterMap (Entry.time? engine) = second.filterMap (Entry.time? engine)
  percents : ∀ engine,
    (first.filterMap (Entry.percent? [engine])).Perm (second.filterMap (Entry.percent? [engine]))

theorem filterMap_percent?_pair {a b : Engine} (hne : a ≠ b) (entries : List Entry) :
    (entries.filterMap (Entry.percent? [a, b])).Perm
      (entries.filterMap (Entry.percent? [a]) ++ entries.filterMap (Entry.percent? [b])) := by
  induction entries with
  | nil => exact List.Perm.refl []
  | cons entry entries ih =>
      cases entry with
      | enginePercent engine percent =>
          by_cases ha : engine = a
          · subst ha
            simpa [Entry.percent?, hne] using ih
          · by_cases hb : engine = b
            · subst hb
              simpa [Entry.percent?, ha] using (ih.cons percent).trans List.perm_middle.symm
            · simpa [Entry.percent?, ha, hb] using ih
      | _ => exact ih

theorem percentSum?_of_perm {engines : List Engine} {first second : List Entry}
    (h : (first.filterMap (Entry.percent? engines)).Perm
      (second.filterMap (Entry.percent? engines))) :
    percentSum? engines first = percentSum? engines second := by
  have hempty : first.filterMap (Entry.percent? engines) = [] ↔
      second.filterMap (Entry.percent? engines) = [] :=
    ⟨fun hnil => (hnil ▸ h).nil_eq.symm, fun hnil => (hnil ▸ h).eq_nil⟩
  have hsum := (h.map UInt32.toNat).sum_nat
  simp only [percentSum?, hempty, hsum]

theorem Entry.isCompute_eq (entry : Entry) :
    entry.isCompute = ((entry.time? .compute).isSome || (entry.percent? [.compute]).isSome) := by
  cases entry with
  | engineTime engine time => cases engine <;> rfl
  | enginePercent engine percent => cases engine <;> rfl
  | _ => rfl

theorem any_isCompute (entries : List Entry) :
    entries.any Entry.isCompute =
      (!(entries.filterMap (Entry.time? .compute)).isEmpty ||
        !(entries.filterMap (Entry.percent? [.compute])).isEmpty) := by
  induction entries with
  | nil => rfl
  | cons entry entries ih =>
      rw [List.any_cons, List.filterMap_cons, List.filterMap_cons, Entry.isCompute_eq, ih]
      cases entry.time? .compute <;> cases entry.percent? [.compute] <;> simp

namespace SameReport

variable {address : List Char} {first second : List Entry}

theorem report_eq (h : SameReport address first second) (pid : UInt32) :
    report pid first = report pid second := by
  have hpair := (filterMap_percent?_pair (by decide) first).trans
    (((h.percents .gfx).append (h.percents .compute)).trans
      (filterMap_percent?_pair (by decide) second).symm)
  have hcompute : first.any Entry.isCompute = second.any Entry.isCompute := by
    rw [any_isCompute, any_isCompute, h.times, (h.percents .compute).isEmpty_eq]
  simp only [report, lastMemory?, lastTime?, h.memory, h.times, hcompute,
    percentSum?_of_perm hpair, percentSum?_of_perm (h.percents .encode),
    percentSum?_of_perm (h.percents .decode)]

theorem clientKey?_eq (h : SameReport address first second) (pid : UInt32) :
    clientKey? pid first = clientKey? pid second := by
  rw [clientKey?, clientKey?, clientId?, clientId?, h.clients]

end SameReport

end Fdinfo

namespace FdinfoReader

open Fdinfo

theorem accepts_eq_false_iff {reader : FdinfoReader} {text : List Char} :
    reader.accepts text = false ↔
      ∃ line ∈ Text.lines text, ∃ value, Says line (.address value) ∧ value ≠ reader.address := by
  have hentries : reader.accepts text = false ↔
      ∃ value, .address value ∈ entries text ∧ value ≠ reader.address := by
    simp only [accepts, isAbout, List.all_eq_false, List.mem_filterMap, decide_eq_true_eq]
    constructor
    · rintro ⟨value, ⟨entry, hentry, haddress⟩, hne⟩
      cases entry with
      | address other =>
          cases haddress
          exact ⟨value, hentry, hne⟩
      | _ => cases haddress
    · rintro ⟨value, hentry, hne⟩
      exact ⟨value, ⟨_, hentry, rfl⟩, hne⟩
  rw [hentries]
  simp only [mem_entries_iff]
  constructor
  · rintro ⟨value, ⟨line, hline, hsays⟩, hne⟩
    exact ⟨line, hline, value, hsays, hne⟩
  · rintro ⟨line, hline, value, hsays, hne⟩
    exact ⟨value, ⟨line, hline, hsays⟩, hne⟩

theorem exists_rejecting_iff {reader : FdinfoReader} {text : List Char} (process : GpuProcess)
    (now : Nat) :
    (∃ outcome, reader.read text process now = .ok outcome ∧ outcome.accepted = false) ↔
      reader.accepts text = false := by
  constructor
  · rintro ⟨outcome, hread, hrejected⟩
    rw [← accepted_of_read hread, hrejected]
  · intro htext
    obtain ⟨left, hread⟩ := read_of_not_accepts htext process now
    exact ⟨_, hread, rfl⟩

/-- Texts that say the same about the device of a reader are accepted with the same outcome, or
meet the same fault, or are both about another device. -/
theorem read_of_sameReport {reader : FdinfoReader} {text other : List Char}
    (h : SameReport reader.address (entries text) (entries other)) (pid : UInt32) (now : Nat) :
    (∀ outcome, outcome.accepted = true →
      (reader.read other { pid } now = .ok outcome ↔ reader.read text { pid } now = .ok outcome)) ∧
    (∀ fault,
      reader.read other { pid } now = .error fault ↔
        reader.read text { pid } now = .error fault) := by
  have habout : reader.accepts other = reader.accepts text := h.about.symm
  cases htext : reader.accepts text with
  | false =>
      rw [htext] at habout
      obtain ⟨left, hread⟩ := read_of_not_accepts htext { pid } now
      obtain ⟨otherLeft, hother⟩ := read_of_not_accepts habout { pid } now
      rw [hread, hother]
      constructor
      · intro outcome haccepted
        constructor <;> rintro ⟨⟩ <;> cases haccepted
      · exact fun fault => ⟨nofun, nofun⟩
  | true =>
      rw [htext] at habout
      have hkey : clientKey? pid (entries other) = clientKey? pid (entries text) :=
        (h.clientKey?_eq pid).symm
      have hfill : fill { pid } (entries other) = fill { pid } (entries text) := by
        rw [fill_eq_report, fill_eq_report, h.report_eq]
      have hsame : reader.read other { pid } now = reader.read text { pid } now := by
        rw [read_eq_of_accepts habout, read_eq_of_accepts htext]
        simp only [noting, recordOf, readingOf, lastReading?, hkey, hfill]
      rw [hsame]
      exact ⟨fun _ _ => Iff.rfl, fun _ => Iff.rfl⟩

/-- The reading of the client that the last client line names, in the cycle before. -/
theorem lastReading?_of_lastSaid {reader : FdinfoReader} {text : List Char} {id : UInt64}
    (h : LastSaid text Entry.client? id) (pid : UInt32) :
    reader.lastReading? pid text = Generations.find? ⟨id, pid⟩ reader.clients.previous := by
  have hid : clientId? (entries text) = some id := getLast?_eq_some_iff_lastSaid.mpr h
  rw [lastReading?, clientKey?, hid]
  rfl

theorem clientId?_eq_none_of_not_lastSaid {text : List Char}
    (h : ∀ id, ¬ LastSaid text Entry.client? id) : clientId? (entries text) = none :=
  Option.eq_none_iff_forall_ne_some.mpr fun id hid => h id (getLast?_eq_some_iff_lastSaid.mp hid)

/-- What one text means, for any reader and any process. The reading fails only on a client that was
read before in the running cycle. -/
theorem read_tells (reader : FdinfoReader) (text : List Char) (pid : UInt32) (now : Nat) :
    Text.Divides text (Text.lines text) ∧
    ((∃ outcome, reader.read text { pid } now = .ok outcome ∧ outcome.accepted = false) ↔
      ∃ line ∈ Text.lines text, ∃ value, Says line (.address value) ∧ value ≠ reader.address) ∧
    (∀ outcome, reader.read text { pid } now = .ok outcome → outcome.accepted = true →
      ∃ record, Describes text pid record ∧ SumsPercents text record ∧
        Describes text pid outcome.process ∧
        ((∀ id, ¬ LastSaid text Entry.client? id) →
          outcome.process = record ∧ outcome.reader = reader) ∧
        ∀ id, LastSaid text Entry.client? id →
          (Generations.find? ⟨id, pid⟩ reader.clients.previous = none →
            outcome.process = record) ∧
          (∀ last, Generations.find? ⟨id, pid⟩ reader.clients.previous = some last →
            Rates record last now outcome.process) ∧
          ∀ key, Generations.find? key outcome.reader.clients.current =
            if key = ⟨id, pid⟩ then some ⟨record.engines, now⟩
            else Generations.find? key reader.clients.current) ∧
    (∀ fault, reader.read text { pid } now = .error fault ↔
      (∀ line ∈ Text.lines text, ∀ value, Says line (.address value) → value = reader.address) ∧
        ∃ id, LastSaid text Entry.client? id ∧
          (Generations.find? ⟨id, pid⟩ reader.clients.current).isSome = true ∧
          fault = .clientReadTwice ⟨id, pid⟩) ∧
    (∀ line entry, Entry.ofLine? line = some entry ↔ Says line entry) ∧
    (∀ other, Thins (Text.lines other) (Text.lines text) →
      reader.read other { pid } now = reader.read text { pid } now) ∧
    (∀ other first second, Gathers some (Text.lines text) first →
      Gathers some (Text.lines other) second → SameReport reader.address first second →
      (∀ outcome, outcome.accepted = true →
        (reader.read other { pid } now = .ok outcome ↔
          reader.read text { pid } now = .ok outcome)) ∧
      ∀ fault, reader.read other { pid } now = .error fault ↔
        reader.read text { pid } now = .error fault) := by
  refine ⟨Text.divides_lines text, ?_, ?_, fun fault => ?_, fun _ _ => ofLine?_eq_some_iff, ?_, ?_⟩
  · rw [exists_rejecting_iff, accepts_eq_false_iff]
  · intro outcome hread haccepted
    have htext : reader.accepts text = true := accepted_of_read hread ▸ haccepted
    obtain ⟨-, rfl⟩ := (read_eq_ok_iff htext).mp hread
    have hdescribes := describes_report pid text
    refine ⟨report pid (entries text), hdescribes, sumsPercents_report pid text, ?_, ?_, ?_⟩
    · rw [recordOf, fill_eq_report]
      exact hdescribes.ratedSince _ _
    · intro hnone
      have hid := clientId?_eq_none_of_not_lastSaid hnone
      rw [recordOf, fill_eq_report]
      simp [noting, lastReading?, clientKey?, hid, GpuProcess.ratedSince]
    · intro id hsaid
      have hid : clientId? (entries text) = some id := getLast?_eq_some_iff_lastSaid.mpr hsaid
      rw [recordOf, fill_eq_report, lastReading?_of_lastSaid hsaid]
      refine ⟨fun hunread => ?_, fun last hlast => ?_, fun key => ?_⟩
      · rw [hunread]
        rfl
      · rw [hlast]
        exact rates_ratedSince _ last now
      · rw [find?_noting_current, readingOf, fill_eq_report]
        simp only [clientKey?, hid, Option.map_some, Option.some.injEq, eq_comm]
  · rw [read_eq_error_iff, ← Bool.not_eq_false, accepts_eq_false_iff]
    simp only [clientKey?, clientId?, Option.map_eq_some_iff, getLast?_eq_some_iff_lastSaid,
      not_exists, not_and, not_not]
    refine and_congr_right fun _ => ⟨?_, ?_⟩
    · rintro ⟨_, ⟨id, hsaid, rfl⟩, hseen, hfault⟩
      exact ⟨id, hsaid, hseen, hfault⟩
    · rintro ⟨id, hsaid, hseen, hfault⟩
      exact ⟨_, ⟨id, hsaid, rfl⟩, hseen, hfault⟩
  · intro other hthins
    have hentries : entries other = entries text := hthins.filterMap_ofLine?
    rw [read, read, hentries]
  · intro other first second hfirst hsecond hsame
    rw [eq_entries_of_gathers hfirst, eq_entries_of_gathers hsecond] at hsame
    exact read_of_sameReport hsame pid now

/-- A text with percentages in three notations, one of which is no number, and with an amount of
memory in a foreign unit, which may be left out. The percentages may change places. -/
theorem read_tells_of_percents :
    let text := ("drm-pdev:\t0000:0b:00.0\ngfx0:\t12.5%\nvram mem:\t2 kB\ncompute1:\t1e2%\n" ++
      "enc0:\tNaN%\r\nvram mem:\t3 MB\ndrm-client-id:\t7\ndrm-engine-dec:\t90 ns").toList
    let thinned := ("drm-pdev:\t0000:0b:00.0\ngfx0:\t12.5%\nvram mem:\t2 kB\ncompute1:\t1e2%\n" ++
      "enc0:\tNaN%\r\ndrm-client-id:\t7\ndrm-engine-dec:\t90 ns").toList
    let moved := ("drm-client-id:\t7\nenc0:\tNaN%\ncompute1:\t1e2%\nvram mem:\t2 kB\n" ++
      "drm-engine-dec:\t90 ns\ngfx0:\t12.5%\ndrm-pdev:\t0000:0b:00.0\n").toList
    let reader : FdinfoReader := { address := "0000:0b:00.0".toList }
    let process : GpuProcess :=
      { pid := 10, kind := .compute, memory := some 2048, gpuUsage := some 113,
        encodeUsage := some 0, engines := { decode := some 90 } }
    ∃ left : FdinfoReader,
      reader.read text { pid := 10 } 5 = .ok { reader := left, process, accepted := true } ∧
      reader.read thinned { pid := 10 } 5 = .ok { reader := left, process, accepted := true } ∧
      reader.read moved { pid := 10 } 5 = .ok { reader := left, process, accepted := true } ∧
      Describes text 10 process ∧ SumsPercents text process ∧ LastSaid text Entry.client? 7 ∧
      Generations.find? ⟨7, 10⟩ left.clients.current = some ⟨{ decode := some 90 }, 5⟩ := by
  intro text thinned moved reader process
  have hentries : entries text = [.address reader.address, .enginePercent .gfx 13, .memory 2048,
      .enginePercent .compute 100, .enginePercent .encode 0, .client 7, .engineTime .decode 90] := by
    decide +kernel
  have hmoved : entries moved = [.client 7, .enginePercent .encode 0, .enginePercent .compute 100,
      .memory 2048, .engineTime .decode 90, .enginePercent .gfx 13, .address reader.address] := by
    decide +kernel
  have hread : reader.read text { pid := 10 } 5 =
      .ok
        { reader := { reader with clients := { current := [(⟨7, 10⟩, ⟨{ decode := some 90 }, 5⟩)] } }
          process, accepted := true } := by
    rw [read, hentries]
    rfl
  have hforeign : ∀ entry, ¬ Says "vram mem:\t3 MB".toList entry := fun entry hsays => by
    have hnone : Entry.ofLine? "vram mem:\t3 MB".toList = none := by decide
    rw [ofLine?_eq_some_iff.mpr hsays] at hnone
    cases hnone
  have hlines : Thins (Text.lines thinned) (Text.lines text) := by
    have hsplit : Text.lines text = (Text.lines thinned).take 5 ++
        "vram mem:\t3 MB".toList :: (Text.lines thinned).drop 5 := by decide +kernel
    have hthinned := thins_append_cons hforeign ((Text.lines thinned).take 5)
      ((Text.lines thinned).drop 5)
    rwa [List.take_append_drop, ← hsplit] at hthinned
  have hsaid : LastSaid text Entry.client? 7 := by
    rw [← getLast?_eq_some_iff_lastSaid, hentries]
    rfl
  have hgathers (any : List Char) : Gathers some (Text.lines any) (entries any) := by
    have hgathered := gathers_filterMap some (Text.lines any)
    rwa [List.filterMap_some] at hgathered
  have hreport : SameReport reader.address (entries text) (entries moved) := by
    rw [hentries, hmoved]
    exact {
      about := rfl
      clients := rfl
      memory := rfl
      times := fun engine => by cases engine <;> rfl
      percents := fun engine => by cases engine <;> decide }
  obtain ⟨-, -, haccepted, -, -, hthins, hsame⟩ := read_tells reader text 10 5
  obtain ⟨record, -, hsums, hdescribes, -, hclient⟩ := haccepted _ hread rfl
  obtain ⟨hunread, -, hkept⟩ := hclient 7 hsaid
  have hrecord : record = process := (hunread rfl).symm
  have hsame' := hsame moved _ _ (hgathers text) (hgathers moved) hreport
  refine ⟨_, hread, (hthins thinned hlines).trans hread, (hsame'.1 _ rfl).mpr hread,
    hdescribes, hrecord ▸ hsums, hsaid, ?_⟩
  rw [hkept, if_pos rfl, hrecord]

end FdinfoReader

end GpuTelemetry
