import GpuTelemetry.Proofs.Snapshot.Fields
import Mathlib.Data.List.Forall2

/-!
# Records that are given in another order

The members of a record may change places, and members of other names may stand
between them. A member that is null may be left out, and the values of all members
may be given as an array in their order. Each of these can be done at any level of
a snapshot, and none of them changes what is read.
-/

namespace GpuTelemetry

namespace Json

/-- A member of a record, and the value that stands for it in another text unless it is left out. -/
structure Slot where
  name : String
  value : Json
  given : Option Json

def Slot.member? (slot : Slot) : Option (Option (List Char) × Json) :=
  slot.given.map fun value => (some slot.name.toList, value)

/-- `Rearranges value given` if `given` is the value with some of its records rearranged. -/
inductive Rearranges : Json → Json → Prop
  | refl (value : Json) : Rearranges value value
  | items {parts : List (Json × Json)} :
    (∀ part ∈ parts, Rearranges part.1 part.2) →
    Rearranges (array (parts.map Prod.fst)) (array (parts.map Prod.snd))
  | members {slots : List Slot} {unknown : List (List Char × Json)}
      {given : List (Option (List Char) × Json)} :
    (∀ slot ∈ slots, ∀ value ∈ slot.given, Rearranges slot.value value) →
    (∀ slot ∈ slots, slot.given = none → slot.value = null) →
    (∀ member ∈ unknown, ∀ slot ∈ slots, member.1 ≠ slot.name.toList) →
    given.Perm
      (slots.filterMap Slot.member? ++ unknown.map fun member => (some member.1, member.2)) →
    Rearranges (ofMembers (slots.map fun slot => (slot.name, slot.value))) (object given)
  | positional {slots : List Slot} {values : List Json} :
    (∀ slot ∈ slots, ∀ value ∈ slot.given, Rearranges slot.value value) →
    slots.map Slot.given = values.map some →
    Rearranges (ofMembers (slots.map fun slot => (slot.name, slot.value))) (array values)

/-- A record in which all members are null may be given without any of them. -/
theorem rearranges_of_null {names : List String} {unknown : List (List Char × Json)}
    (h : ∀ member ∈ unknown, ∀ name ∈ names, member.1 ≠ name.toList) :
    Rearranges (ofMembers (names.map fun name => (name, null)))
      (object (unknown.map fun member => (some member.1, member.2))) := by
  let slots := names.map fun name => (⟨name, null, none⟩ : Slot)
  have hslots : slots.map (fun slot => (slot.name, slot.value)) =
      names.map fun name => (name, null) := by
    simp [slots]
  have hunknown : ∀ member ∈ unknown, ∀ slot ∈ slots, member.1 ≠ slot.name.toList :=
    fun member hmember => List.forall_mem_map.mpr (h member hmember)
  have hnone : slots.filterMap Slot.member? = [] := by
    simp [slots, Slot.member?]
  rw [← hslots]
  refine .members ?_ ?_ hunknown ?_
  · exact List.forall_mem_map.mpr fun _ _ => nofun
  · exact List.forall_mem_map.mpr fun _ _ _ => rfl
  · rw [hnone, List.nil_append]

/-- What may be given for a member of a record with some value. -/
inductive Stands : Json → Option Json → Prop
  | given {value given : Json} : Rearranges value given → Stands value (some given)
  | omitted : Stands null none

/-! ## Members -/

section Members

variable {slots : List Slot}

theorem member?_eq_some_iff {members : List (Option (List Char) × Json)} {name : String}
    {given : Option Json} :
    member? members name = some given ↔ valuesOf name members = given.toList := by
  rw [member?]
  cases given with
  | none => split <;> simp_all
  | some value => split <;> simp_all

theorem valuesOf_append (name : String) (first second : List (Option (List Char) × Json)) :
    valuesOf name (first ++ second) = valuesOf name first ++ valuesOf name second :=
  List.filterMap_append

theorem valuesOf_filterMap_cons (name : String) (slot : Slot) :
    valuesOf name ((slot :: slots).filterMap Slot.member?) =
      (if slot.name = name then slot.given.toList else []) ++
        valuesOf name (slots.filterMap Slot.member?) := by
  cases hgiven : slot.given with
  | none => simp [Slot.member?, hgiven]
  | some value =>
      by_cases hname : slot.name = name
      · simp [Slot.member?, hgiven, valuesOf, hname]
      · simp [Slot.member?, hgiven, valuesOf, hname, String.toList_inj]

theorem valuesOf_filterMap_of_not_mem {name : String} (h : name ∉ slots.map Slot.name) :
    valuesOf name (slots.filterMap Slot.member?) = [] := by
  induction slots with
  | nil => rfl
  | cons slot slots ih =>
      rw [List.map_cons, List.mem_cons, not_or] at h
      rw [valuesOf_filterMap_cons, if_neg (Ne.symm h.1), ih h.2]
      rfl

theorem valuesOf_filterMap_of_mem (hnames : (slots.map Slot.name).Nodup) {slot : Slot}
    (hslot : slot ∈ slots) :
    valuesOf slot.name (slots.filterMap Slot.member?) = slot.given.toList := by
  induction slots with
  | nil => cases hslot
  | cons first slots ih =>
      obtain ⟨hfirst, hnames⟩ := List.nodup_cons.mp hnames
      rw [valuesOf_filterMap_cons]
      rcases List.mem_cons.mp hslot with rfl | hslot
      · rw [if_pos rfl, valuesOf_filterMap_of_not_mem hfirst, List.append_nil]
      · have hne : first.name ≠ slot.name := by
          intro heq
          exact hfirst (heq ▸ List.mem_map_of_mem hslot)
        rw [if_neg hne, ih hnames hslot]
        rfl

/-- The members that are given for a record are found again in any order, and among any others. -/
theorem members?_of_perm {unknown : List (List Char × Json)}
    {given : List (Option (List Char) × Json)} (hnames : (slots.map Slot.name).Nodup)
    (hunknown : ∀ member ∈ unknown, ∀ slot ∈ slots, member.1 ≠ slot.name.toList)
    (hgiven : given.Perm
      (slots.filterMap Slot.member? ++ unknown.map fun member => (some member.1, member.2))) :
    members? (slots.map Slot.name) (object given) = some (slots.map Slot.given) := by
  have hall : given.all (fun member => member.1.isSome) = true := by
    rw [hgiven.all_eq, List.all_append, List.all_eq_true.mpr, List.all_eq_true.mpr]
    · rfl
    · exact List.forall_mem_map.mpr fun _ _ => rfl
    · intro member hmember
      obtain ⟨slot, -, hslot⟩ := List.mem_filterMap.mp hmember
      obtain ⟨value, -, rfl⟩ := Option.map_eq_some_iff.mp hslot
      rfl
  rw [members?, if_pos hall, List.mapM_map]
  refine mapM_eq_some_map fun slot hslot => ?_
  have hother : valuesOf slot.name (unknown.map fun member => (some member.1, member.2)) = [] := by
    refine List.filterMap_eq_nil_iff.mpr (List.forall_mem_map.mpr fun member hmember => ?_)
    simp [hunknown member hmember slot hslot]
  have hvalues : (valuesOf slot.name given).Perm slot.given.toList := by
    have hperm : (valuesOf slot.name given).Perm (valuesOf slot.name _) := hgiven.filterMap _
    rwa [valuesOf_append, valuesOf_filterMap_of_mem hnames hslot, hother, List.append_nil] at hperm
  refine member?_eq_some_iff.mpr ?_
  cases hslotGiven : slot.given with
  | none =>
      rw [hslotGiven] at hvalues
      exact hvalues.eq_nil
  | some value =>
      rw [hslotGiven] at hvalues
      exact List.perm_singleton.mp hvalues

end Members

theorem members?_ofMembers {members : List (String × Json)}
    (hnames : (members.map Prod.fst).Nodup) :
    members? (members.map Prod.fst) (ofMembers members) =
      some (members.map fun member => some member.2) := by
  let slots := members.map fun member => (⟨member.1, member.2, some member.2⟩ : Slot)
  have hslotNames : slots.map Slot.name = members.map Prod.fst := by simp [slots]
  have hvalues : slots.map Slot.given = members.map fun member => some member.2 := by simp [slots]
  have hgiven : slots.filterMap Slot.member? =
      members.map fun member => (some member.1.toList, member.2) := by
    simp [slots, List.filterMap_map, Slot.member?, Function.comp_def]
  have hunknown : ∀ member ∈ ([] : List (List Char × Json)), ∀ slot ∈ slots,
      member.1 ≠ slot.name.toList := nofun
  have hread := members?_of_perm (hslotNames ▸ hnames) hunknown (.refl _)
  rwa [List.map_nil, List.append_nil, hslotNames, hvalues, hgiven] at hread

theorem ofMembers_injective {first second : List (String × Json)}
    (h : ofMembers first = ofMembers second) : first = second := by
  have hinjective : Function.Injective
      fun member : String × Json => (some member.1.toList, member.2) := by
    intro a b hab
    simp only [Prod.mk.injEq, Option.some.injEq, String.toList_inj] at hab
    exact Prod.ext hab.1 hab.2
  exact List.map_injective_iff.mpr hinjective (Json.object.inj h)

/-- However the members of a record are given, there is a value for each, or none for null. -/
theorem Rearranges.exists_members {members : List (String × Json)} {given : Json}
    (h : Rearranges (ofMembers members) given) (hnames : (members.map Prod.fst).Nodup) :
    ∃ values, members? (members.map Prod.fst) given = some values ∧
      List.Forall₂ Stands (members.map Prod.snd) values := by
  have hslots {slots : List Slot} (hstands : ∀ slot ∈ slots, Stands slot.value slot.given) :
      List.Forall₂ Stands ((slots.map fun slot => (slot.name, slot.value)).map Prod.snd)
        (slots.map Slot.given) := by
    rw [List.map_map, List.forall₂_map_left_iff, List.forall₂_map_right_iff]
    exact List.forall₂_same.mpr hstands
  have hslotNames (slots : List Slot) :
      (slots.map fun slot => (slot.name, slot.value)).map Prod.fst = slots.map Slot.name := by
    simp
  generalize hrecord : ofMembers members = record at h
  cases h with
  | refl =>
      refine ⟨_, hrecord ▸ members?_ofMembers hnames, ?_⟩
      rw [List.forall₂_map_left_iff, List.forall₂_map_right_iff]
      exact List.forall₂_same.mpr fun member _ => .given (.refl member.2)
  | items => cases hrecord
  | @members slots unknown given hvalues homitted hunknown hgiven =>
      obtain rfl := ofMembers_injective hrecord
      rw [hslotNames] at hnames ⊢
      refine ⟨_, members?_of_perm hnames hunknown hgiven, hslots fun slot hslot => ?_⟩
      cases hslotGiven : slot.given with
      | none => exact homitted slot hslot hslotGiven ▸ .omitted
      | some value => exact .given (hvalues slot hslot value hslotGiven)
  | @positional slots values hvalues hgiven =>
      obtain rfl := ofMembers_injective hrecord
      have hlength : values.length = slots.length := by
        simpa using (congrArg List.length hgiven).symm
      rw [hslotNames]
      refine ⟨slots.map Slot.given, ?_, hslots fun slot hslot => ?_⟩
      · rw [members?, List.length_map, if_pos hlength, hgiven]
      · have hmem : slot.given ∈ values.map some := hgiven ▸ List.mem_map_of_mem hslot
        obtain ⟨value, -, hvalue⟩ := List.mem_map.mp hmem
        rw [← hvalue]
        exact .given (hvalues slot hslot value hvalue.symm)

/-! ## Single values -/

/-- Whether a value has no parts. -/
def isScalar : Json → Bool
  | array _ | object _ => false
  | _ => true

theorem Rearranges.eq_of_isScalar {value given : Json} (h : Rearranges value given)
    (hscalar : value.isScalar = true) : given = value := by
  cases h with
  | refl => rfl
  | items => cases hscalar
  | members => cases hscalar
  | positional => cases hscalar

/-- A value without parts stands for itself, and what is not null is not left out. -/
theorem Stands.eq_some {value : Json} {given : Option Json} (h : Stands value given)
    (hscalar : value.isScalar = true) (hnull : value ≠ null) : given = some value := by
  cases h with
  | given hvalue => rw [hvalue.eq_of_isScalar hscalar]
  | omitted => exact absurd rfl hnull

/-- A metric is the same whether it is given as null or left out. -/
theorem Stands.metric?_eq {α : Type} {read : Json → Option α} {value : Json} {given : Option Json}
    (h : Stands value given) (hscalar : value.isScalar = true) :
    metric? read given = metric? read (some value) := by
  cases h with
  | given hvalue => rw [hvalue.eq_of_isScalar hscalar]
  | omitted => rfl

theorem Stands.wordMetric?_eq {α : Type} [Word α] {metric : Metric α} {given : Option Json}
    (h : Stands (ofWord? metric) given) : wordMetric? given = some metric := by
  have hscalar : (ofWord? metric).isScalar = true := by cases metric <;> rfl
  exact (h.metric?_eq hscalar).trans (wordMetric?_ofWord? metric)

theorem Stands.textMetric?_eq {metric : Metric String} {given : Option Json}
    (h : Stands (ofText? metric) given) : textMetric? given = some metric := by
  have hscalar : (ofText? metric).isScalar = true := by cases metric <;> rfl
  exact (h.metric?_eq hscalar).trans (textMetric?_ofText? metric)

/-- A record or a list is not left out. -/
theorem Stands.exists_some {value : Json} {given : Option Json} (h : Stands value given)
    (hnull : value ≠ null) : ∃ other, given = some other ∧ Rearranges value other := by
  cases h with
  | given hvalue => exact ⟨_, rfl, hvalue⟩
  | omitted => exact absurd rfl hnull

theorem mapM_of_rearranges {α : Type} {write : α → Json} {read : Json → Option α}
    (hread : ∀ a given, Rearranges (write a) given → read given = some a) {l : List α}
    {parts : List (Json × Json)} (hwritten : parts.map Prod.fst = l.map write)
    (hparts : ∀ part ∈ parts, Rearranges part.1 part.2) :
    (parts.map Prod.snd).mapM read = some l := by
  induction l generalizing parts with
  | nil =>
      obtain rfl := List.map_eq_nil_iff.mp hwritten
      rfl
  | cons a l ih =>
      obtain ⟨part, rest, rfl, hpart, hrest⟩ := List.map_eq_cons_iff.mp hwritten
      obtain ⟨hfirst, htail⟩ := List.forall_mem_cons.mp hparts
      rw [List.map_cons, List.mapM_cons, hread a part.2 (hpart ▸ hfirst), ih hrest htail]
      rfl

theorem Rearranges.list?_eq {α : Type} {write : α → Json} {read : Json → Option α}
    (hread : ∀ a given, Rearranges (write a) given → read given = some a) {l : List α}
    {given : Json} (h : Rearranges (array (l.map write)) given) : list? read given = some l := by
  generalize hvalue : array (l.map write) = value at h
  cases h with
  | refl =>
      rw [← hvalue]
      exact list?_map (fun a => hread a _ (.refl _)) l
  | @items parts hparts =>
      exact mapM_of_rearranges hread (Json.array.inj hvalue).symm hparts
  | members => cases hvalue
  | positional => cases hvalue

end Json

open Json

/-! ## Records -/

theorem StaticInfo.nodup_memberNames : memberNames.Nodup := by
  simp [memberNames]

theorem StaticInfo.ofJson?_of_rearranges {info : StaticInfo} {given : Json}
    (h : Rearranges info.toJson given) : ofJson? given = some info := by
  obtain ⟨values, hmembers, hvalues⟩ := h.exists_members nodup_memberNames
  refine Option.bind_eq_some_iff.mpr ⟨_, hmembers, ?_⟩
  -- there is one value for each member
  iterate 5 obtain _ | ⟨_, hvalues⟩ := hvalues
  obtain _ | _ := hvalues
  refine Option.bind_eq_some_iff.mpr ⟨_, Stands.textMetric?_eq (by assumption), ?_⟩
  iterate 4 refine Option.bind_eq_some_iff.mpr ⟨_, Stands.wordMetric?_eq (by assumption), ?_⟩
  rfl

theorem DynamicInfo.nodup_memberNames : memberNames.Nodup := by
  simp [memberNames]

theorem DynamicInfo.ofJson?_of_rearranges {info : DynamicInfo} {given : Json}
    (h : Rearranges info.toJson given) : ofJson? given = some info := by
  obtain ⟨values, hmembers, hvalues⟩ := h.exists_members nodup_memberNames
  refine Option.bind_eq_some_iff.mpr ⟨_, hmembers, ?_⟩
  iterate 19 obtain _ | ⟨_, hvalues⟩ := hvalues
  obtain _ | _ := hvalues
  iterate 19 refine Option.bind_eq_some_iff.mpr ⟨_, Stands.wordMetric?_eq (by assumption), ?_⟩
  rfl

theorem GpuProcess.nodup_memberNames : memberNames.Nodup := by
  simp [memberNames]

theorem GpuProcess.ofJson?_of_rearranges {process : GpuProcess} {given : Json}
    (h : Rearranges process.toJson given) : ofJson? given = some process := by
  obtain ⟨values, hmembers, hvalues⟩ := h.exists_members nodup_memberNames
  refine Option.bind_eq_some_iff.mpr ⟨_, hmembers, ?_⟩
  obtain _ | ⟨hpid, hvalues⟩ := hvalues
  obtain _ | ⟨hkind, hvalues⟩ := hvalues
  obtain rfl := hpid.eq_some rfl nofun
  obtain rfl := hkind.eq_some rfl nofun
  iterate 14 obtain _ | ⟨_, hvalues⟩ := hvalues
  obtain _ | _ := hvalues
  have hword : word? (ofNat process.pid.toNat) = some process.pid := word?_ofNat process.pid
  refine Option.bind_eq_some_iff.mpr ⟨_, hword, ?_⟩
  refine Option.bind_eq_some_iff.mpr ⟨_, kind?_ofText _, ?_⟩
  iterate 12 refine Option.bind_eq_some_iff.mpr ⟨_, Stands.wordMetric?_eq (by assumption), ?_⟩
  iterate 2 refine Option.bind_eq_some_iff.mpr ⟨_, Stands.textMetric?_eq (by assumption), ?_⟩
  rfl

theorem DeviceSnapshot.nodup_memberNames : memberNames.Nodup := by
  simp [memberNames]

theorem DeviceSnapshot.ofJson?_of_rearranges {device : DeviceSnapshot} {given : Json}
    (h : Rearranges device.toJson given) : ofJson? given = some device := by
  obtain ⟨values, hmembers, hvalues⟩ := h.exists_members nodup_memberNames
  refine Option.bind_eq_some_iff.mpr ⟨_, hmembers, ?_⟩
  obtain _ | ⟨hvendor, hvalues⟩ := hvalues
  obtain _ | ⟨hstatic, hvalues⟩ := hvalues
  obtain _ | ⟨hdynamic, hvalues⟩ := hvalues
  obtain _ | ⟨hprocesses, hvalues⟩ := hvalues
  obtain _ | _ := hvalues
  obtain rfl := hvendor.eq_some rfl nofun
  obtain ⟨staticInfo, rfl, hstaticInfo⟩ := hstatic.exists_some nofun
  obtain ⟨dynamicInfo, rfl, hdynamicInfo⟩ := hdynamic.exists_some nofun
  obtain ⟨processes, rfl, hlist⟩ := hprocesses.exists_some nofun
  have hread := Rearranges.list?_eq (fun _ _ => GpuProcess.ofJson?_of_rearranges) hlist
  refine Option.bind_eq_some_iff.mpr ⟨_, text?_ofText device.vendor, ?_⟩
  refine Option.bind_eq_some_iff.mpr ⟨_, StaticInfo.ofJson?_of_rearranges hstaticInfo, ?_⟩
  refine Option.bind_eq_some_iff.mpr ⟨_, DynamicInfo.ofJson?_of_rearranges hdynamicInfo, ?_⟩
  exact Option.bind_eq_some_iff.mpr ⟨_, hread, rfl⟩

theorem Snapshot.nodup_memberNames : memberNames.Nodup := by
  simp [memberNames]

theorem Snapshot.ofJson?_of_rearranges {snapshot : Snapshot} {given : Json}
    (h : Rearranges snapshot.toJson given) : ofJson? given = some snapshot := by
  obtain ⟨values, hmembers, hvalues⟩ := h.exists_members nodup_memberNames
  refine Option.bind_eq_some_iff.mpr ⟨_, hmembers, ?_⟩
  obtain _ | ⟨htimestamp, hvalues⟩ := hvalues
  obtain _ | ⟨hdevices, hvalues⟩ := hvalues
  obtain _ | _ := hvalues
  have hscalar : (ofInt snapshot.timestamp.toInt).isScalar = true := by
    cases snapshot.timestamp.toInt <;> rfl
  have hnull : ofInt snapshot.timestamp.toInt ≠ null := by
    cases snapshot.timestamp.toInt <;> nofun
  obtain rfl := htimestamp.eq_some hscalar hnull
  obtain ⟨devices, rfl, hlist⟩ := hdevices.exists_some nofun
  have hread := Rearranges.list?_eq (fun _ _ => DeviceSnapshot.ofJson?_of_rearranges) hlist
  refine Option.bind_eq_some_iff.mpr ⟨_, int64?_ofInt snapshot.timestamp, ?_⟩
  exact Option.bind_eq_some_iff.mpr ⟨_, hread, rfl⟩

end GpuTelemetry
