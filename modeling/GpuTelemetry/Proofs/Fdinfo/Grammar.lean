import GpuTelemetry.Fdinfo.Entry
import GpuTelemetry.Proofs.Numeral.Binary64
import GpuTelemetry.Proofs.Numeral.Decimal
import GpuTelemetry.Proofs.Text.Blank

/-!
# What a line says

The grammar of the meaningful lines, with no reference to how they are read. A
line is a key, a colon, white space and a value, and one rule for each kind of
entry says which keys and values it has. The reader finds an entry in a line just
when the grammar has one there, so a line never says two things.
-/

namespace GpuTelemetry

namespace Text

theorem splitAt?_append {mark : Char} {a : List Char} (h : mark ∉ a) (b : List Char) :
    splitAt? mark (a ++ mark :: b) = some (a, b) := by
  induction a with
  | nil => simp [splitAt?]
  | cons c cs ih =>
      rw [List.mem_cons, not_or] at h
      rw [List.cons_append, splitAt?, if_neg (Ne.symm h.1), ih h.2]
      rfl

end Text

namespace Fdinfo

/-- Whether a line is a key, a colon, white space and a value. The first colon ends the key, and
the value begins with something that is not white space. -/
def IsPair (line key value : List Char) : Prop :=
  ∃ blanks, line = key ++ ':' :: (blanks ++ value) ∧ key ≠ [] ∧ ':' ∉ key ∧
    (∀ c ∈ blanks, Text.IsWhiteSpace c) ∧ ∃ c ∈ value.head?, ¬ Text.IsWhiteSpace c

def Engine.name : Engine → String
  | .gfx => "gfx"
  | .compute => "compute"
  | .encode => "enc"
  | .decode => "dec"

def Engine.timeKey (engine : Engine) : List Char :=
  "drm-engine-".toList ++ engine.name.toList

/-- The entries that a key and a value make. -/
inductive Tells : List Char → List Char → Entry → Prop
  | address {key value : List Char} :
    key = "pdev".toList ∨ key = "drm-pdev".toList → Tells key value (.address value)
  | client {value : List Char} {id : UInt64} :
    Word.Spells value id → Tells "drm-client-id".toList value (.client id)
  | memory {key amount unit : List Char} {count bytes : UInt64} :
    key = "vram mem".toList ∨ key = "drm-memory-vram".toList →
    unit = " kB".toList ∨ unit = " KiB".toList → Word.Spells amount count →
    bytes.toNat = count.toNat * 1024 → Tells key (amount ++ unit) (.memory bytes)
  | engineTime {key amount : List Char} {engine : Engine} {time : UInt64} :
    key = engine.timeKey → Word.Spells amount time →
    Tells key (amount ++ " ns".toList) (.engineTime engine time)
  | enginePercent {digits amount : List Char} {engine : Engine} {decimal : Decimal}
    {percent : UInt32} :
    digits ≠ [] → (∀ c ∈ digits, c.isDigit = true) → Decimal.Spells amount decimal →
    decimal.RoundsTo percent →
    Tells (engine.name.toList ++ digits) (amount ++ ['%']) (.enginePercent engine percent)

/-- Whether a line says an entry. -/
def Says (line : List Char) (entry : Entry) : Prop :=
  ∃ key value, IsPair line key value ∧ Tells key value entry

theorem keyValue?_eq_some_iff {line key value : List Char} :
    keyValue? line = some (key, value) ↔ IsPair line key value := by
  constructor
  · intro h
    obtain ⟨⟨k, rest⟩, hsplit, h⟩ := Option.bind_eq_some_iff.mp h
    obtain ⟨hline, hmark⟩ := Text.splitAt?_eq_some hsplit
    dsimp only at h
    split at h
    next => cases h
    next hne =>
      cases h
      simp only [Bool.or_eq_true, List.isEmpty_iff, not_or] at hne
      have hhead := Text.head?_trimStart hne.2
      obtain ⟨blanks, hrest, hblanks⟩ := (Text.trimStart_eq_iff hhead).mp rfl
      simp only [Text.isBlank_iff, Text.isBlank_eq_false_iff] at hblanks hhead
      exact ⟨blanks, by rw [hline, ← hrest], hne.1, hmark, hblanks, hhead⟩
  · rintro ⟨blanks, rfl, hkey, hmark, hblanks, hhead⟩
    simp only [← Text.isBlank_iff, Bool.not_eq_true] at hblanks hhead
    have htrim : Text.trimStart (blanks ++ value) = value :=
      (Text.trimStart_eq_iff hhead).mpr ⟨blanks, rfl, hblanks⟩
    have hvalue : value ≠ [] := by
      rintro rfl
      obtain ⟨c, hc, -⟩ := hhead
      cases hc
    simp [keyValue?, Text.splitAt?_append hmark, htrim, hkey, hvalue]

/-! ## Values -/

theorem kibibytes?_eq_some_iff {value : List Char} {bytes : UInt64} :
    kibibytes? value = some bytes ↔
      ∃ amount unit, ∃ count : UInt64, value = amount ++ unit ∧
        (unit = " kB".toList ∨ unit = " KiB".toList) ∧ Word.Spells amount count ∧
        bytes.toNat = count.toNat * 1024 := by
  have hamount (amount : List Char) :
      ((Text.stripEnd? " kB".toList value).or (Text.stripEnd? " KiB".toList value)) = some amount ↔
        ∃ unit, value = amount ++ unit ∧ (unit = " kB".toList ∨ unit = " KiB".toList) := by
    rw [Option.or_eq_some_iff]
    constructor
    · rintro (h | ⟨-, h⟩)
      · exact ⟨_, Text.stripEnd?_eq_some_iff.mp h, .inl rfl⟩
      · exact ⟨_, Text.stripEnd?_eq_some_iff.mp h, .inr rfl⟩
    · rintro ⟨unit, rfl, rfl | rfl⟩
      · exact .inl (Text.stripEnd?_eq_some_iff.mpr rfl)
      · -- a text does not end in both units
        refine .inr ⟨?_, Text.stripEnd?_eq_some_iff.mpr rfl⟩
        simp [Text.stripEnd?, Text.stripStart?]
  have hword (count : UInt64) :
      (if count.toNat * 1024 < UInt64.size then some (UInt64.ofNat (count.toNat * 1024))
        else none) = some bytes ↔ bytes.toNat = count.toNat * 1024 := by
    constructor
    · intro h
      split at h
      next hlt =>
        cases h
        exact UInt64.toNat_ofNat_of_lt' hlt
      next => cases h
    · intro h
      have hlt : count.toNat * 1024 < UInt64.size := h ▸ bytes.toNat_lt
      rw [if_pos hlt, ← h, UInt64.ofNat_toNat]
  simp only [kibibytes?, Option.bind_eq_bind, Option.bind_eq_some_iff, hamount, hword,
    Word.read?_eq_some_iff]
  constructor
  · rintro ⟨amount, ⟨unit, hvalue, hunit⟩, count, hspells, hbytes⟩
    exact ⟨amount, unit, count, hvalue, hunit, hspells, hbytes⟩
  · rintro ⟨amount, unit, count, hvalue, hunit, hspells, hbytes⟩
    exact ⟨amount, ⟨unit, hvalue, hunit⟩, count, hspells, hbytes⟩

theorem nanoseconds?_eq_some_iff {value : List Char} {time : UInt64} :
    nanoseconds? value = some time ↔
      ∃ amount, value = amount ++ " ns".toList ∧ Word.Spells amount time := by
  simp only [nanoseconds?, Option.bind_eq_bind, Option.bind_eq_some_iff,
    Text.stripEnd?_eq_some_iff, Word.read?_eq_some_iff]

theorem percent?_eq_some_iff {value : List Char} {percent : UInt32} :
    percent? value = some percent ↔
      ∃ amount decimal, value = amount ++ ['%'] ∧ Decimal.Spells amount decimal ∧
        decimal.RoundsTo percent := by
  simp only [percent?, Option.bind_eq_bind, Option.bind_eq_some_iff, Text.stripEnd?_eq_some_iff,
    Option.pure_def, Option.some.injEq, Decimal.read?_eq_some_iff, Decimal.toWord_round_eq_iff]
  constructor
  · rintro ⟨amount, hvalue, decimal, hspells, hpercent⟩
    exact ⟨amount, decimal, hvalue, hspells, hpercent⟩
  · rintro ⟨amount, decimal, hvalue, hspells, hpercent⟩
    exact ⟨amount, hvalue, decimal, hspells, hpercent⟩

/-! ## Keys -/

def Engine.all : List Engine :=
  [.gfx, .compute, .encode, .decode]

theorem mem_map_engines_iff {key : Engine → List Char} {k : List Char} {engine : Engine} :
    (k, engine) ∈ Engine.all.map (fun other => (key other, other)) ↔ k = key engine := by
  cases engine <;> simp [Engine.all]

theorem mem_timeKeys_iff {key : List Char} {engine : Engine} :
    (key, engine) ∈ timeKeys ↔ key = engine.timeKey := by
  have hkeys : timeKeys = Engine.all.map fun other => (other.timeKey, other) := by decide
  rw [hkeys, mem_map_engines_iff]

theorem mem_percentKeys_iff {name : List Char} {engine : Engine} :
    (name, engine) ∈ percentKeys ↔ name = engine.name.toList := by
  have hkeys : percentKeys = Engine.all.map fun other => (other.name.toList, other) := by decide
  rw [hkeys, mem_map_engines_iff]

theorem timeKey?_eq_some_iff {key : List Char} {engine : Engine} :
    timeKey? key = some engine ↔ key = engine.timeKey := by
  constructor
  · intro h
    obtain ⟨entry, hfind, rfl⟩ := Option.map_eq_some_iff.mp h
    have hkey : entry.1 = key := by simpa using List.find?_some hfind
    exact hkey ▸ mem_timeKeys_iff.mp (List.mem_of_find?_eq_some hfind)
  · rintro rfl
    cases engine <;> decide

/-- No two of the names begin alike, so a key has at most one of them in front of its number. -/
theorem percentKey?_append (engine : Engine) {d : Char} {ds : List Char} (hd : d.isDigit = true)
    (hds : ∀ c ∈ ds, c.isDigit = true) :
    percentKey? (engine.name.toList ++ d :: ds) = some engine := by
  cases engine <;>
    simp +contextual [percentKey?, percentKeys, Engine.name, Text.stripStart?, hd, hds]

theorem percentKey?_eq_some_iff {key : List Char} {engine : Engine} :
    percentKey? key = some engine ↔
      ∃ digits, key = engine.name.toList ++ digits ∧ digits ≠ [] ∧
        ∀ c ∈ digits, c.isDigit = true := by
  constructor
  · intro h
    obtain ⟨⟨name, other⟩, hmem, h⟩ := List.exists_of_findSome?_eq_some h
    cases hstrip : Text.stripStart? name key with
    | none => simp [hstrip] at h
    | some digits =>
        cases digits with
        | nil => simp [hstrip] at h
        | cons d ds =>
            simp only [hstrip] at h
            split at h
            next hall =>
              cases h
              rw [Text.eq_append_of_stripStart? hstrip, mem_percentKeys_iff.mp hmem]
              exact ⟨d :: ds, rfl, by simp, List.all_eq_true.mp hall⟩
            next => cases h
  · rintro ⟨digits, rfl, hne, hall⟩
    obtain ⟨d, ds, rfl⟩ := List.exists_cons_of_ne_nil hne
    obtain ⟨hd, hds⟩ := List.forall_mem_cons.mp hall
    exact percentKey?_append engine hd hds

/-- The keys that are known by their whole name. -/
def namedKeys : List (List Char) :=
  ["pdev".toList, "drm-pdev".toList, "drm-client-id".toList, "vram mem".toList,
    "drm-memory-vram".toList] ++ Engine.all.map Engine.timeKey

theorem timeKey_mem_namedKeys (engine : Engine) : engine.timeKey ∈ namedKeys := by
  cases engine <;> decide

theorem percentKey?_of_mem_namedKeys {key : List Char} (h : key ∈ namedKeys) :
    percentKey? key = none := by
  revert key
  decide

/-! ## Lines -/

theorem tells_of_ofKeyValue? {key value : List Char} {entry : Entry}
    (h : Entry.ofKeyValue? key value = some entry) : Tells key value entry := by
  rw [Entry.ofKeyValue?] at h
  split at h
  next haddress =>
    cases h
    exact .address haddress
  next =>
  split at h
  next hclient =>
    obtain ⟨id, hid, rfl⟩ := Option.map_eq_some_iff.mp h
    exact hclient ▸ .client (Word.read?_eq_some_iff.mp hid)
  next =>
  split at h
  next hmemory =>
    obtain ⟨bytes, hbytes, rfl⟩ := Option.map_eq_some_iff.mp h
    obtain ⟨amount, unit, count, rfl, hunit, hcount, hsize⟩ := kibibytes?_eq_some_iff.mp hbytes
    exact .memory hmemory hunit hcount hsize
  next =>
  split at h
  next engine htime =>
    obtain ⟨time, hread, rfl⟩ := Option.map_eq_some_iff.mp h
    obtain ⟨amount, rfl, hspells⟩ := nanoseconds?_eq_some_iff.mp hread
    exact .engineTime (timeKey?_eq_some_iff.mp htime) hspells
  next =>
    obtain ⟨engine, hkey, h⟩ := Option.bind_eq_some_iff.mp h
    obtain ⟨percent, hread, rfl⟩ := Option.map_eq_some_iff.mp h
    obtain ⟨digits, rfl, hne, hall⟩ := percentKey?_eq_some_iff.mp hkey
    obtain ⟨amount, decimal, rfl, hspells, hrounds⟩ := percent?_eq_some_iff.mp hread
    exact .enginePercent hne hall hspells hrounds

/-- The keys of the five kinds of entries are different, so each test lets the right ones pass. -/
theorem Tells.ofKeyValue? {key value : List Char} {entry : Entry} (h : Tells key value entry) :
    Entry.ofKeyValue? key value = some entry := by
  cases h with
  | address hkey => rw [Entry.ofKeyValue?, if_pos hkey]
  | client hid =>
      rw [Entry.ofKeyValue?, if_neg (by decide), if_pos rfl, Word.read?_eq_some_iff.mpr hid]
      rfl
  | memory hkey hunit hcount hsize =>
      have hbytes := kibibytes?_eq_some_iff.mpr ⟨_, _, _, rfl, hunit, hcount, hsize⟩
      rcases hkey with rfl | rfl <;>
        rw [Entry.ofKeyValue?, if_neg (by decide), if_neg (by decide), if_pos (by decide),
          hbytes] <;>
        rfl
  | @engineTime key amount engine time hkey htime =>
      have hread := nanoseconds?_eq_some_iff.mpr ⟨_, rfl, htime⟩
      have hengine := timeKey?_eq_some_iff.mpr hkey
      subst hkey
      cases engine <;>
        rw [Entry.ofKeyValue?, if_neg (by decide), if_neg (by decide), if_neg (by decide), hengine,
          hread] <;> rfl
  | @enginePercent digits amount engine decimal percent hne hall hspells hrounds =>
      have hread := percent?_eq_some_iff.mpr ⟨amount, decimal, rfl, hspells, hrounds⟩
      have hengine : percentKey? (engine.name.toList ++ digits) = some engine :=
        percentKey?_eq_some_iff.mpr ⟨digits, rfl, hne, hall⟩
      have hnamed : engine.name.toList ++ digits ∉ namedKeys := by
        intro hmem
        rw [percentKey?_of_mem_namedKeys hmem] at hengine
        cases hengine
      have htime : timeKey? (engine.name.toList ++ digits) = none := by
        refine Option.eq_none_iff_forall_ne_some.mpr fun other hother => hnamed ?_
        exact timeKey?_eq_some_iff.mp hother ▸ timeKey_mem_namedKeys other
      simp only [namedKeys, List.mem_append, List.mem_cons, List.not_mem_nil, or_false,
        not_or] at hnamed
      obtain ⟨⟨hpdev, hdrm, hclient, hvram, hmemory⟩, -⟩ := hnamed
      rw [Entry.ofKeyValue?, if_neg (not_or.mpr ⟨hpdev, hdrm⟩), if_neg hclient,
        if_neg (not_or.mpr ⟨hvram, hmemory⟩), htime, hengine]
      exact congrArg (Option.map (Entry.enginePercent engine)) hread

theorem ofKeyValue?_eq_some_iff {key value : List Char} {entry : Entry} :
    Entry.ofKeyValue? key value = some entry ↔ Tells key value entry :=
  ⟨tells_of_ofKeyValue?, Tells.ofKeyValue?⟩

/-- The reader finds in a line what the grammar has there. -/
theorem ofLine?_eq_some_iff {line : List Char} {entry : Entry} :
    Entry.ofLine? line = some entry ↔ Says line entry := by
  simp only [Entry.ofLine?, Option.bind_eq_bind, Option.bind_eq_some_iff, Prod.exists,
    keyValue?_eq_some_iff, ofKeyValue?_eq_some_iff]
  rfl

theorem mem_entries_iff {text : List Char} {entry : Entry} :
    entry ∈ entries text ↔ ∃ line ∈ Text.lines text, Says line entry := by
  simp only [entries, List.mem_filterMap, ofLine?_eq_some_iff]

end Fdinfo

end GpuTelemetry
