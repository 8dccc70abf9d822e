import GpuTelemetry.Generations
import Mathlib.Data.Finset.Dedup
import Mathlib.Data.Set.Card

/-!
# Stores in which every key has one entry

Taking a key out of the previous generation before it is given an entry in the
running one keeps all keys of a store apart, within a generation and between the
two. Such a store is told by looking up keys, and its size is the number of the
keys that it contains.
-/

namespace GpuTelemetry.Generations

variable {κ α : Type}

def keys (store : Generations κ α) : List κ :=
  (store.previous ++ store.current).map Prod.fst

/-- No key has two entries. -/
def Distinct (store : Generations κ α) : Prop :=
  store.keys.Nodup

theorem distinct_empty : Distinct ({} : Generations κ α) :=
  List.nodup_nil

theorem Distinct.rotate {store : Generations κ α} (h : store.Distinct) : store.rotate.Distinct := by
  rw [Distinct, keys, List.map_append] at h
  rw [Distinct, keys, rotate_previous, rotate_current, List.append_nil]
  exact h.of_append_right

theorem Distinct.not_mem_both {store : Generations κ α} (h : store.Distinct) (key : κ) :
    ¬(key ∈ store.previous.map Prod.fst ∧ key ∈ store.current.map Prod.fst) := by
  rw [Distinct, keys, List.map_append] at h
  rintro ⟨hprevious, hcurrent⟩
  exact List.disjoint_of_nodup_append h hprevious hcurrent

variable [DecidableEq κ]

theorem find?_eq_none_iff {key : κ} {entries : List (κ × α)} :
    find? key entries = none ↔ key ∉ entries.map Prod.fst := by
  induction entries with
  | nil => simp
  | cons entry entries ih =>
      rw [find?_cons, List.map_cons, List.mem_cons, not_or]
      split
      next h => simp [h]
      next h => rw [ih, and_iff_right (Ne.symm h)]

/-- Entries under different keys are just what looking up their keys finds. -/
theorem mem_iff_find? {entries : List (κ × α)} (h : (entries.map Prod.fst).Nodup) {key : κ}
    {value : α} : (key, value) ∈ entries ↔ find? key entries = some value := by
  induction entries with
  | nil => simp
  | cons entry entries ih =>
      obtain ⟨hfresh, hrest⟩ := List.nodup_cons.mp h
      rw [find?_cons, List.mem_cons]
      split
      next hkey =>
        have hother : (key, value) ∉ entries := by
          intro hmem
          exact hfresh (hkey ▸ List.mem_map_of_mem hmem)
        rw [or_iff_left hother, Option.some.injEq, Prod.eq_iff_fst_eq_snd_eq]
        exact ⟨fun heq => heq.2.symm, fun heq => ⟨hkey.symm, heq.symm⟩⟩
      next hkey =>
        rw [or_iff_right, ih hrest]
        rintro rfl
        exact hkey rfl

theorem map_fst_without (key : κ) (entries : List (κ × α)) :
    (without key entries).map Prod.fst = (entries.map Prod.fst).filter (· ≠ key) := by
  rw [without, List.filter_map]
  rfl

namespace Distinct

variable {store : Generations κ α}

theorem mem_current_iff (h : store.Distinct) {key : κ} {value : α} :
    (key, value) ∈ store.current ↔ find? key store.current = some value := by
  rw [Distinct, keys, List.map_append] at h
  exact mem_iff_find? h.of_append_right

theorem mem_previous_iff (h : store.Distinct) {key : κ} {value : α} :
    (key, value) ∈ store.previous ↔ find? key store.previous = some value := by
  rw [Distinct, keys, List.map_append] at h
  exact mem_iff_find? h.of_append_left

theorem takePrevious (h : store.Distinct) (key : κ) : (store.takePrevious key).2.Distinct := by
  refine h.sublist ?_
  rw [keys, keys, List.map_append, List.map_append, Generations.takePrevious, map_fst_without]
  exact List.filter_sublist.append_right _

/-- A key that is not in the previous generation may be given an entry in the running one. -/
theorem insert (h : store.Distinct) {key : κ} (hkey : find? key store.previous = none) (value : α) :
    (store.insert key value).Distinct := by
  rw [find?_eq_none_iff] at hkey
  rw [Distinct, keys, List.map_append] at h ⊢
  rw [Generations.insert, List.map_cons, map_fst_without, List.nodup_middle, List.nodup_cons]
  constructor
  · simp [hkey]
  · exact h.sublist (List.filter_sublist.append_left _)

theorem replace (h : store.Distinct) (key : κ) (value : α) :
    ((store.takePrevious key).2.insert key value).Distinct := by
  apply (h.takePrevious key).insert
  rw [find?_takePrevious_previous, if_pos rfl]

theorem size_eq_ncard (h : store.Distinct) :
    store.size = {key | store.contains key = true}.ncard := by
  have hkeys : {key | store.contains key = true} = (store.keys.toFinset : Set κ) := by
    ext key
    rw [Set.mem_ofPred_eq, contains, Bool.or_eq_true, Option.isSome_iff_ne_none,
      Option.isSome_iff_ne_none, ne_eq, ne_eq, find?_eq_none_iff, find?_eq_none_iff, not_not,
      not_not, List.coe_toFinset, Set.mem_ofPred_eq, keys, List.map_append, List.mem_append]
  rw [hkeys, Set.ncard_coe_finset, List.toFinset_card_of_nodup h, keys, List.length_map,
    List.length_append, size]

end Distinct

end GpuTelemetry.Generations
