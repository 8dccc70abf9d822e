import GpuTelemetry.Snapshot.Decoding

/-!
# Fields of a record

The values of single fields come back as they were written. An absent metric
becomes null, which no present value does, so zero and the empty text stay
present.
-/

namespace GpuTelemetry

namespace Json

/-! ## Metrics and numbers -/

section Metrics

variable {α : Type} [Word α]

theorem ofWord?_eq_null_iff (metric : Metric α) : ofWord? metric = null ↔ metric = none := by
  cases metric with
  | none => exact ⟨fun _ => rfl, fun _ => rfl⟩
  | some a => exact ⟨nofun, nofun⟩

theorem ofText?_eq_null_iff (metric : Metric String) : ofText? metric = null ↔ metric = none := by
  cases metric with
  | none => exact ⟨fun _ => rfl, fun _ => rfl⟩
  | some text => exact ⟨nofun, nofun⟩

theorem word?_ofNat (a : α) : word? (ofNat (Word.toNat a)) = some a := by
  rw [word?, ofNat, natBelow?, if_pos (Word.toNat_lt a), Option.map_some, Word.ofNat_toNat]

theorem text?_ofText (text : String) : text? (ofText text) = some text := by
  rw [ofText, text?, String.ofList_toList]

theorem wordMetric?_ofWord? (metric : Metric α) :
    wordMetric? (some (ofWord? metric)) = some metric := by
  cases metric with
  | none => rfl
  | some a => exact congrArg (Option.map some) (word?_ofNat a)

theorem textMetric?_ofText? (metric : Metric String) :
    textMetric? (some (ofText? metric)) = some metric := by
  cases metric with
  | none => rfl
  | some text => exact congrArg (Option.map some) (text?_ofText text)

end Metrics

theorem int64?_ofInt (n : Int64) : int64? (ofInt n.toInt) = some n := by
  have hlower := n.le_toInt
  have hupper := n.toInt_lt
  have hword := n.ofInt_toInt
  have hsize : 1 <<< 63 = 2 ^ 63 := by decide
  cases hn : n.toInt with
  | ofNat m =>
      rw [hn] at hupper hword
      have hm : m < 1 <<< 63 := by
        rw [hsize]
        exact Int.ofNat_lt.mp hupper
      rw [ofInt, int64?, if_pos hm]
      exact congrArg some hword
  | negSucc m =>
      rw [hn] at hlower hword
      have hm : (0 < m + 1 && m + 1 ≤ 1 <<< 63) = true := by
        rw [hsize]
        simp only [Bool.and_eq_true, decide_eq_true_eq]
        omega
      rw [ofInt, int64?, if_pos hm]
      exact congrArg some hword

theorem kind?_ofText (kind : ProcessKind) :
    ProcessKind.ofJson? (ofText kind.name) = some kind := by
  cases kind <;> rfl

/-! ## Lists -/

theorem mapM_eq_some_map {α β : Type} {f : α → Option β} {g : α → β} {l : List α}
    (h : ∀ a ∈ l, f a = some (g a)) : l.mapM f = some (l.map g) := by
  induction l with
  | nil => rfl
  | cons a l ih =>
      obtain ⟨ha, hl⟩ := List.forall_mem_cons.mp h
      rw [List.mapM_cons, ha, ih hl]
      rfl

theorem list?_map {α : Type} {write : α → Json} {read : Json → Option α}
    (h : ∀ a, read (write a) = some a) (l : List α) :
    list? read (array (l.map write)) = some l := by
  rw [list?, List.mapM_map]
  simpa using mapM_eq_some_map (f := read ∘ write) (g := id) (l := l) fun a _ => h a

end Json

end GpuTelemetry
