import GpuTelemetry.Proofs.Json.Values
import GpuTelemetry.Proofs.Snapshot.Rearranging

/-!
# Snapshots that are read as they were rendered

No string of a snapshot stands for no text, so its rendered text is one of the
ways to write it, and the snapshot itself is the least rearranged form of it. What
is absent stays so, and so does zero and the empty text.
-/

namespace GpuTelemetry

namespace Json

/-! ## Values without broken strings -/

@[simp] theorem plain_ofNat (n : Nat) : Plain (ofNat n) :=
  .integer false n

@[simp] theorem plain_ofText (text : String) : Plain (ofText text) :=
  .string text.toList

@[simp] theorem plain_ofInt (n : Int) : Plain (ofInt n) := by
  cases n with
  | ofNat m => exact .integer false m
  | negSucc m => exact .integer true (m + 1)

@[simp] theorem plain_ofWord? {α : Type} [Word α] (metric : Metric α) : Plain (ofWord? metric) := by
  cases metric with
  | none => exact .null
  | some a => exact plain_ofNat (Word.toNat a)

@[simp] theorem plain_ofText? (metric : Metric String) : Plain (ofText? metric) := by
  cases metric with
  | none => exact .null
  | some text => exact plain_ofText text

theorem plain_ofMembers {members : List (String × Json)} (h : ∀ m ∈ members, Plain m.2) :
    Plain (ofMembers members) := by
  refine .object ?_ ?_
  · intro member hmember
    obtain ⟨m, -, rfl⟩ := List.mem_map.mp hmember
    rfl
  · intro member hmember
    obtain ⟨m, hm, rfl⟩ := List.mem_map.mp hmember
    exact h m hm

theorem plain_map {α : Type} {write : α → Json} (h : ∀ a, Plain (write a)) (l : List α) :
    Plain (array (l.map write)) := by
  refine .array fun item hitem => ?_
  obtain ⟨a, -, rfl⟩ := List.mem_map.mp hitem
  exact h a

end Json

open Json

/-! ## Records -/

@[simp] theorem StaticInfo.plain_toJson (info : StaticInfo) : Plain info.toJson :=
  plain_ofMembers (by simp)

@[simp] theorem DynamicInfo.plain_toJson (info : DynamicInfo) : Plain info.toJson :=
  plain_ofMembers (by simp)

@[simp] theorem GpuProcess.plain_toJson (process : GpuProcess) : Plain process.toJson :=
  plain_ofMembers (by simp)

@[simp] theorem DeviceSnapshot.plain_toJson (device : DeviceSnapshot) : Plain device.toJson :=
  plain_ofMembers (by simp [plain_map GpuProcess.plain_toJson])

namespace Snapshot

theorem plain_toJson (snapshot : Snapshot) : Plain snapshot.toJson :=
  plain_ofMembers (by simp [plain_map DeviceSnapshot.plain_toJson])

theorem ofJson?_toJson (snapshot : Snapshot) : ofJson? snapshot.toJson = some snapshot :=
  ofJson?_of_rearranges (.refl snapshot.toJson)

theorem read?_rendered (pretty : Bool) (snapshot : Snapshot) :
    read? (snapshot.render pretty) = some snapshot := by
  have hlayout : (if pretty then indented else compact).Spaced := by
    cases pretty with
    | false => exact Layout.spaced_compact
    | true => exact Layout.spaced_indented
  rw [read?, render, String.toList_ofList, read?_print hlayout snapshot.plain_toJson,
    Option.bind_eq_bind, Option.bind_some, ofJson?_toJson]

/-- Both texts of a snapshot are read as exactly that snapshot, so the texts of different snapshots
differ, even if only one of them is indented. Every metric comes back as it was: it is null only
when it is absent, so that no present value, zero and the empty text included, is taken for an
absent one. -/
theorem read_render :
    (∀ (snapshot : Snapshot) (pretty : Bool), read? (snapshot.render pretty) = some snapshot) ∧
    (∀ (snapshot other : Snapshot) (pretty pretty' : Bool),
      snapshot.render pretty = other.render pretty' → snapshot = other) ∧
    (∀ {α : Type} [Word α] (metric : Metric α),
      wordMetric? (some (ofWord? metric)) = some metric ∧
      (ofWord? metric = .null ↔ metric = none)) ∧
    ∀ metric : Metric String,
      textMetric? (some (ofText? metric)) = some metric ∧
      (ofText? metric = .null ↔ metric = none) := by
  refine ⟨fun snapshot pretty => read?_rendered pretty snapshot, ?_, ?_, ?_⟩
  · intro snapshot other pretty pretty' htexts
    have hread := read?_rendered pretty snapshot
    rw [htexts, read?_rendered pretty' other] at hread
    exact (Option.some.inj hread).symm
  · intro α _ metric
    exact ⟨wordMetric?_ofWord? metric, ofWord?_eq_null_iff metric⟩
  · intro metric
    exact ⟨textMetric?_ofText? metric, ofText?_eq_null_iff metric⟩

/-- A snapshot of one device, taken before 1970. -/
def ofOneDevice (name : Metric String) (clock : Metric UInt32) : Snapshot where
  timestamp := -1
  devices :=
    [{ vendor := "a \"b\" \\ c\n"
       staticInfo := { deviceName := name }
       dynamicInfo := { gpuClock := clock }
       processes := [] }]

theorem read_render_of_absent_metrics :
    read? ((ofOneDevice none none).render true) = some (ofOneDevice none none) ∧
    read? ((ofOneDevice (some "") (some 0)).render false) = some (ofOneDevice (some "") (some 0)) ∧
    (ofOneDevice none none).render false ≠ (ofOneDevice (some "") (some 0)).render false := by
  refine ⟨read_render.1 _ true, read_render.1 _ false, fun htexts => ?_⟩
  have hsame : ofOneDevice none none = ofOneDevice (some "") (some 0) :=
    read_render.2.1 _ _ false false htexts
  exact absurd hsame (by decide)

end Snapshot

end GpuTelemetry
