import GpuTelemetry.Proofs.Json.Grammar
import GpuTelemetry.Proofs.Snapshot.Rearranging
import Mathlib.Data.Bool.AllAny

/-!
# Snapshots in any layout

A text of a snapshot may be written in every way that JSON has for its value, and
its records may be rearranged: it is read as the snapshot. A record that lacks a
member it must have, or has one twice, is not read, and neither is a record that
contains such a record.
-/

namespace GpuTelemetry

open Json

/-- The kinds of records in a snapshot. -/
inductive RecordKind
  | snapshot
  | device
  | staticInfo
  | dynamicInfo
  | process

namespace RecordKind

def memberNames : RecordKind → List String
  | snapshot => Snapshot.memberNames
  | device => DeviceSnapshot.memberNames
  | staticInfo => StaticInfo.memberNames
  | dynamicInfo => DynamicInfo.memberNames
  | process => GpuProcess.memberNames

/-- The members that may not be left out. -/
def requiredNames : RecordKind → List String
  | snapshot => ["timestamp", "devices"]
  | device => ["vendor", "static_info", "dynamic_info", "processes"]
  | staticInfo | dynamicInfo => []
  | process => ["pid", "process_type"]

def isReadable (value : Json) : RecordKind → Bool
  | snapshot => (Snapshot.ofJson? value).isSome
  | device => (DeviceSnapshot.ofJson? value).isSome
  | staticInfo => (StaticInfo.ofJson? value).isSome
  | dynamicInfo => (DynamicInfo.ofJson? value).isSome
  | process => (GpuProcess.ofJson? value).isSome

/-- Whether a record of some kind that has a value for a member contains an inner record. -/
inductive Contains : RecordKind → String → Json → RecordKind → Json → Prop
  | device {items : List Json} {record : Json} :
    record ∈ items → Contains snapshot "devices" (array items) device record
  | staticInfo (record : Json) : Contains device "static_info" record staticInfo record
  | dynamicInfo (record : Json) : Contains device "dynamic_info" record dynamicInfo record
  | process {items : List Json} {record : Json} :
    record ∈ items → Contains device "processes" (array items) process record

/-- The forms of a record that cannot be read, whatever the values of its members are. -/
inductive Flawed : RecordKind → Json → Prop
  | omitted {kind : RecordKind} {members : List (Option (List Char) × Json)} {name : String} :
    name ∈ kind.requiredNames → some name.toList ∉ members.map Prod.fst →
    Flawed kind (object members)
  | repeated {kind : RecordKind} {members : List (Option (List Char) × Json)} {name : String} :
    name ∈ kind.memberNames → 1 < (members.map Prod.fst).count (some name.toList) →
    Flawed kind (object members)
  | length {kind : RecordKind} {items : List Json} :
    items.length ≠ kind.memberNames.length → Flawed kind (array items)
  | member {kind inner : RecordKind} {members : List (Option (List Char) × Json)} {name : String}
      {value record : Json} :
    (some name.toList, value) ∈ members → Contains kind name value inner record →
    Flawed inner record → Flawed kind (object members)
  | item {kind inner : RecordKind} {items : List Json} {name : String} {value record : Json} :
    (name, value) ∈ kind.memberNames.zip items → Contains kind name value inner record →
    Flawed inner record → Flawed kind (array items)

/-- What is known of the values of a record that is readable. -/
structure Fits (kind : RecordKind) (values : Members) : Prop where
  required : ∀ name ∈ kind.requiredNames, (name, none) ∉ kind.memberNames.zip values
  contained : ∀ name value inner record, (name, some value) ∈ kind.memberNames.zip values →
    Contains kind name value inner record → inner.isReadable record = true

theorem exists_of_mapM {α β : Type} {f : α → Option β} {l : List α} {values : List β}
    (h : l.mapM f = some values) : ∀ a ∈ l, ∃ b, f a = some b ∧ (a, b) ∈ l.zip values := by
  induction l generalizing values with
  | nil => exact List.forall_mem_nil _
  | cons a l ih =>
      rw [List.mapM_cons] at h
      obtain ⟨b, hb, h⟩ := Option.bind_eq_some_iff.mp h
      obtain ⟨rest, hrest, h⟩ := Option.bind_eq_some_iff.mp h
      cases h
      refine List.forall_mem_cons.mpr ⟨⟨b, hb, List.mem_cons_self⟩, fun other hother => ?_⟩
      obtain ⟨c, hc, hmem⟩ := ih hrest other hother
      exact ⟨c, hc, List.mem_cons_of_mem _ hmem⟩

theorem isSome_of_list? {α : Type} {read : Json → Option α} {items : List Json} {l : List α}
    (h : list? read (array items) = some l) : ∀ item ∈ items, (read item).isSome = true := by
  intro item hitem
  obtain ⟨a, ha, -⟩ := exists_of_mapM h item hitem
  exact Option.isSome_of_eq_some ha

theorem exists_fits_snapshot {value : Json} (h : snapshot.isReadable value = true) :
    ∃ values, members? snapshot.memberNames value = some values ∧ snapshot.Fits values := by
  obtain ⟨_, h⟩ := Option.isSome_iff_exists.mp h
  obtain ⟨values, hmembers, h⟩ := Option.bind_eq_some_iff.mp h
  refine ⟨values, hmembers, ?_⟩
  split at h
  next timestamp devices =>
    obtain ⟨_, -, h⟩ := Option.bind_eq_some_iff.mp h
    obtain ⟨_, hdevices, -⟩ := Option.bind_eq_some_iff.mp h
    refine ⟨by simp [memberNames, requiredNames, Snapshot.memberNames], ?_⟩
    intro name value inner record hvalue hcontains
    cases hcontains with
    | @device items _ hrecord =>
        obtain rfl : array items = devices := by
          simpa [memberNames, Snapshot.memberNames] using hvalue
        exact isSome_of_list? hdevices record hrecord
  next => cases h

theorem exists_fits_device {value : Json} (h : device.isReadable value = true) :
    ∃ values, members? device.memberNames value = some values ∧ device.Fits values := by
  obtain ⟨_, h⟩ := Option.isSome_iff_exists.mp h
  obtain ⟨values, hmembers, h⟩ := Option.bind_eq_some_iff.mp h
  refine ⟨values, hmembers, ?_⟩
  split at h
  next vendor info state processes =>
    obtain ⟨_, -, h⟩ := Option.bind_eq_some_iff.mp h
    obtain ⟨_, hstatic, h⟩ := Option.bind_eq_some_iff.mp h
    obtain ⟨_, hdynamic, h⟩ := Option.bind_eq_some_iff.mp h
    obtain ⟨_, hprocesses, -⟩ := Option.bind_eq_some_iff.mp h
    refine ⟨by simp [memberNames, requiredNames, DeviceSnapshot.memberNames], ?_⟩
    intro name value inner record hvalue hcontains
    cases hcontains with
    | staticInfo =>
        obtain rfl : value = info := by
          simpa [memberNames, DeviceSnapshot.memberNames] using hvalue
        exact Option.isSome_of_eq_some hstatic
    | dynamicInfo =>
        obtain rfl : value = state := by
          simpa [memberNames, DeviceSnapshot.memberNames] using hvalue
        exact Option.isSome_of_eq_some hdynamic
    | @process items _ hrecord =>
        obtain rfl : array items = processes := by
          simpa [memberNames, DeviceSnapshot.memberNames] using hvalue
        exact isSome_of_list? hprocesses record hrecord
  next => cases h

theorem exists_fits_staticInfo {value : Json} (h : staticInfo.isReadable value = true) :
    ∃ values, members? staticInfo.memberNames value = some values ∧ staticInfo.Fits values := by
  obtain ⟨_, h⟩ := Option.isSome_iff_exists.mp h
  obtain ⟨values, hmembers, -⟩ := Option.bind_eq_some_iff.mp h
  exact ⟨values, hmembers, nofun, nofun⟩

theorem exists_fits_dynamicInfo {value : Json} (h : dynamicInfo.isReadable value = true) :
    ∃ values, members? dynamicInfo.memberNames value = some values ∧ dynamicInfo.Fits values := by
  obtain ⟨_, h⟩ := Option.isSome_iff_exists.mp h
  obtain ⟨values, hmembers, -⟩ := Option.bind_eq_some_iff.mp h
  exact ⟨values, hmembers, nofun, nofun⟩

theorem exists_fits_process {value : Json} (h : process.isReadable value = true) :
    ∃ values, members? process.memberNames value = some values ∧ process.Fits values := by
  obtain ⟨_, h⟩ := Option.isSome_iff_exists.mp h
  obtain ⟨values, hmembers, h⟩ := Option.bind_eq_some_iff.mp h
  refine ⟨values, hmembers, ?_, nofun⟩
  split at h
  next => simp [memberNames, requiredNames, GpuProcess.memberNames]
  next => cases h

theorem exists_fits {kind : RecordKind} {value : Json} (h : kind.isReadable value = true) :
    ∃ values, members? kind.memberNames value = some values ∧ kind.Fits values := by
  cases kind with
  | snapshot => exact exists_fits_snapshot h
  | device => exact exists_fits_device h
  | staticInfo => exact exists_fits_staticInfo h
  | dynamicInfo => exact exists_fits_dynamicInfo h
  | process => exact exists_fits_process h

/-! ## Members of an object -/

theorem exists_member? {names : List String} {members : List (Option (List Char) × Json)}
    {values : Members} (h : members? names (object members) = some values) {name : String}
    (hname : name ∈ names) :
    ∃ value, member? members name = some value ∧ (name, value) ∈ names.zip values := by
  rw [members?] at h
  split at h
  next => exact exists_of_mapM h name hname
  next => cases h

theorem length_valuesOf (name : String) (members : List (Option (List Char) × Json)) :
    (valuesOf name members).length = (members.map Prod.fst).count (some name.toList) := by
  induction members with
  | nil => rfl
  | cons member members ih =>
      rw [List.map_cons, List.count_cons, ← ih, valuesOf, List.filterMap_cons]
      by_cases hname : member.1 = some name.toList
      · simp [hname, valuesOf]
      · simp [hname, valuesOf]

theorem mem_valuesOf_iff {name : String} {members : List (Option (List Char) × Json)}
    {value : Json} : value ∈ valuesOf name members ↔ (some name.toList, value) ∈ members := by
  simp [valuesOf]

theorem requiredNames_subset (kind : RecordKind) : kind.requiredNames ⊆ kind.memberNames := by
  cases kind <;> decide

theorem Contains.mem_memberNames {kind inner : RecordKind} {name : String} {value record : Json}
    (h : Contains kind name value inner record) : name ∈ kind.memberNames := by
  cases h <;> decide

theorem Flawed.not_isReadable {kind : RecordKind} {value : Json} (h : Flawed kind value) :
    ¬ kind.isReadable value = true := by
  induction h with
  | @omitted kind members name hname habsent =>
      intro hread
      obtain ⟨values, hmembers, hfits⟩ := exists_fits hread
      obtain ⟨given, hgiven, hmem⟩ := exists_member? hmembers (requiredNames_subset kind hname)
      have hlength := length_valuesOf name members
      rw [member?_eq_some_iff.mp hgiven, List.count_eq_zero.mpr habsent] at hlength
      cases given with
      | none => exact hfits.required name hname hmem
      | some value => cases hlength
  | @repeated kind members name hname hcount =>
      intro hread
      obtain ⟨values, hmembers, -⟩ := exists_fits hread
      obtain ⟨given, hgiven, -⟩ := exists_member? hmembers hname
      rw [← length_valuesOf, member?_eq_some_iff.mp hgiven] at hcount
      cases given with
      | none => simp at hcount
      | some value => simp at hcount
  | @length kind items hlength =>
      intro hread
      obtain ⟨values, hmembers, -⟩ := exists_fits hread
      rw [members?, if_neg hlength] at hmembers
      cases hmembers
  | @member kind inner members name value record hmember hcontains _ ih =>
      intro hread
      obtain ⟨values, hmembers, hfits⟩ := exists_fits hread
      obtain ⟨given, hgiven, hmem⟩ := exists_member? hmembers hcontains.mem_memberNames
      -- the member is given once, so its value is the one with the inner record
      have hvalue : value ∈ valuesOf name members := mem_valuesOf_iff.mpr hmember
      rw [member?_eq_some_iff.mp hgiven, Option.mem_toList] at hvalue
      obtain rfl := Option.mem_def.mp hvalue
      exact ih (hfits.contained name value inner record hmem hcontains)
  | @item kind inner items name value record hitem hcontains _ ih =>
      intro hread
      obtain ⟨values, hmembers, hfits⟩ := exists_fits hread
      rw [members?] at hmembers
      split at hmembers
      next =>
        cases hmembers
        have hmem : (name, some value) ∈ kind.memberNames.zip (items.map some) := by
          rw [List.zip_map_right]
          exact List.mem_map_of_mem hitem
        exact ih (hfits.contained name value inner record hmem hcontains)
      next => cases hmembers

end RecordKind

namespace Snapshot

/-- A text that is written for a value in any way is read as each snapshot that the value is a
rearrangement of, and not at all if the value is flawed. -/
theorem read?_of_spells {given : Json} {text : String} (htext : Spells given text.toList) :
    (∀ snapshot : Snapshot, Rearranges snapshot.toJson given → read? text = some snapshot) ∧
    (RecordKind.snapshot.Flawed given → read? text = none) := by
  have hread : read? text = ofJson? given := by
    rw [read?, htext.read?_eq_some]
    rfl
  constructor
  · intro snapshot hgiven
    rw [hread, ofJson?_of_rearranges hgiven]
  · intro hflawed
    rw [hread]
    exact Option.not_isSome_iff_eq_none.mp hflawed.not_isReadable

/-- A device as an array, with an escape in its vendor, nothing in its static record and an unknown
member in its dynamic one, and with the time stamp behind it; and a time stamp given twice. -/
theorem read?_of_rearranged_device :
    read? "\x7b\"devices\":[[\"\\u0061\",\x7b \x7d,\x7b\"x\":1e3\x7d,[]]],\"timestamp\" :7\x7d" =
      some ⟨7, [⟨"a", {}, {}, []⟩]⟩ ∧
    read? "\x7b\"timestamp\" :7,\"timestamp\" :7,\"devices\":[]\x7d" = none := by
  have hspace : IsGap [' '] := List.forall_mem_singleton.mpr (by decide)
  have hname (name after : List Char) (h : ∀ c ∈ name, c ≠ '"' ∧ c ≠ '\\' ∧ 0x20 ≤ c.toNat)
      (hafter : IsGap after) : SpellsName (some name) ('"' :: (name ++ '"' :: after)) :=
    ⟨[], name, after, rfl, isGap_nil, spellsText_self h, hafter⟩
  have hdevices := hname "devices".toList [] (List.all_iff_forall_prop.mp (by decide)) isGap_nil
  have htimestamp := hname "timestamp".toList [' ']
    (List.all_iff_forall_prop.mp (by decide)) hspace
  have hseven : Spells (.integer false 7) ['7'] := .number false 7 .absent .absent
  have hempty : Spells (.array []) ['[', ']'] := .noItems isGap_nil
  let timestamp : MemberText :=
    ⟨some "timestamp".toList, .integer false 7, "\"timestamp\" ".toList, ['7']⟩
  constructor
  · let device : Json :=
      .array [.string (some ['a']), .object [], .object [(some ['x'], .fraction)], .array []]
    have hdevice : Spells device "[\"\\u0061\",\x7b \x7d,\x7b\"x\":1e3\x7d,[]]".toList := by
      have hescape : ∀ part ∈ [('a', "\\u0061".toList)], SpellsChar part.1 part.2 :=
        List.forall_mem_singleton.mpr (.unit (@SpellsUnit.number '0' '0' '6' '1' 0 0 6 1
          (.inl rfl) (.inl rfl) (.inl rfl) (.inl rfl)))
      have hthousand : Spells .fraction ['1', 'e', '3'] :=
        .number false 1 .absent
          (.given (.inl rfl) (.inl rfl) ⟨by simp, List.forall_mem_singleton.mpr rfl⟩)
      have hdynamic := @Spells.members ⟨some ['x'], .fraction, "\"x\"".toList, "1e3".toList⟩ []
        (List.forall_mem_singleton.mpr
          (hname ['x'] [] (List.all_iff_forall_prop.mp (by decide)) isGap_nil))
        (List.forall_mem_singleton.mpr hthousand)
      refine @Spells.items (_, "\"\\u0061\"".toList) [(_, "\x7b \x7d".toList),
        (_, "\x7b\"x\":1e3\x7d".toList), (_, ['[', ']'])] ?_
      simp only [List.forall_mem_cons]
      exact ⟨.quoted (.text hescape), .noMembers hspace, hdynamic, hempty, nofun⟩
    have hlist := @Spells.items (device, _) [] (List.forall_mem_singleton.mpr hdevice)
    have htext := @Spells.members
      ⟨some "devices".toList, .array [device], "\"devices\"".toList,
        "[[\"\\u0061\",\x7b \x7d,\x7b\"x\":1e3\x7d,[]]]".toList⟩ [timestamp]
      (List.forall_mem_cons.mpr ⟨hdevices, List.forall_mem_singleton.mpr htimestamp⟩)
      (List.forall_mem_cons.mpr ⟨hlist, List.forall_mem_singleton.mpr hseven⟩)
    refine (read?_of_spells htext).1 ⟨7, [⟨"a", {}, {}, []⟩]⟩ ?_
    have hstatic : Rearranges ({} : StaticInfo).toJson (.object []) :=
      @rearranges_of_null StaticInfo.memberNames [] nofun
    have hdynamic : Rearranges ({} : DynamicInfo).toJson (.object [(some ['x'], .fraction)]) :=
      @rearranges_of_null DynamicInfo.memberNames [(['x'], .fraction)] (by decide)
    have hrecord : Rearranges (DeviceSnapshot.toJson ⟨"a", {}, {}, []⟩) device := by
      refine @Rearranges.positional
        [⟨"vendor", .string (some ['a']), some (.string (some ['a']))⟩,
          ⟨"static_info", ({} : StaticInfo).toJson, some (.object [])⟩,
          ⟨"dynamic_info", ({} : DynamicInfo).toJson, some (.object [(some ['x'], .fraction)])⟩,
          ⟨"processes", .array [], some (.array [])⟩] _ ?_ rfl
      simp only [List.forall_mem_cons, Option.mem_def, Option.some.injEq, forall_eq']
      exact ⟨.refl _, hstatic, hdynamic, .refl _, nofun⟩
    refine @Rearranges.members
      [⟨"timestamp", .integer false 7, some (.integer false 7)⟩,
        ⟨"devices", .array [DeviceSnapshot.toJson ⟨"a", {}, {}, []⟩], some (.array [device])⟩] []
      _ ?_ ?_ nofun (List.Perm.swap _ _ [])
    · simp only [List.forall_mem_cons, Option.mem_def, Option.some.injEq, forall_eq']
      have hlist := @Rearranges.items [(_, device)] (List.forall_mem_singleton.mpr hrecord)
      exact ⟨.refl _, hlist, nofun⟩
    · simp
  · have htext := @Spells.members timestamp
      [timestamp, ⟨some "devices".toList, .array [], "\"devices\"".toList, ['[', ']']⟩]
      (by simp only [List.forall_mem_cons]; exact ⟨htimestamp, htimestamp, hdevices, nofun⟩)
      (by simp only [List.forall_mem_cons]; exact ⟨hseven, hseven, hempty, nofun⟩)
    refine (read?_of_spells htext).2 (@RecordKind.Flawed.repeated _ _ "timestamp" ?_ ?_)
    · decide
    · decide

end Snapshot

end GpuTelemetry
