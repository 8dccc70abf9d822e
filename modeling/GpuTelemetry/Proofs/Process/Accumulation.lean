import GpuTelemetry.Proofs.Process.Figures

/-!
# Adding up any number of records

Records that are added to one record after the other leave it with the exact total
of every figure, whatever order they come in, unless one of the totals is too large
for its figure. In that case there is an overflow in every order.
-/

namespace GpuTelemetry

/-- The sum of the values that some records have for a figure. -/
def Figure.total (figure : Figure) (records : List GpuProcess) : Nat :=
  (records.filterMap figure.value).sum

theorem Figure.total_perm (figure : Figure) {a b : List GpuProcess} (h : a.Perm b) :
    figure.total a = figure.total b :=
  (h.filterMap figure.value).sum_nat

theorem Figure.size_pos (figure : Figure) : 0 < figure.size := by
  cases figure <;> exact Nat.two_pow_pos _

theorem sum_map_getD (values : List (Option Nat)) :
    (values.map (Option.getD · 0)).sum = (values.filterMap id).sum := by
  induction values with
  | nil => rfl
  | cons value values ih => cases value <;> simp [ih]

theorem exactSum_eq_none_iff {values : List (Option Nat)} :
    exactSum values = none ↔ ∀ value ∈ values, value = none := by
  simp [exactSum]

theorem eq_sum_of_exactSum_eq_some {values : List (Option Nat)} {n : Nat}
    (h : exactSum values = some n) : n = (values.filterMap id).sum := by
  rw [exactSum, sum_map_getD] at h
  split at h
  · cases h
  · exact (Option.some.inj h).symm

namespace GpuProcess

variable {records : List GpuProcess}

theorem eq_total_of_exactSum {figure : Figure} {n : Nat}
    (h : exactSum (records.map figure.value) = some n) : n = figure.total records := by
  rw [eq_sum_of_exactSum_eq_some h, Figure.total, List.filterMap_map]
  rfl

/-- The totals of some records fit their figures just when one record can hold them all. -/
theorem exists_isSum_iff_total_lt :
    (∃ sum : GpuProcess, sum.IsSum records) ↔
      ∀ figure : Figure, figure.total records < figure.size := by
  rw [exists_isSum_iff]
  constructor
  · intro h figure
    cases hsum : exactSum (records.map figure.value) with
    | none =>
        have hnone : records.filterMap figure.value = [] := by
          rw [List.filterMap_eq_nil_iff]
          exact List.forall_mem_map.mp (exactSum_eq_none_iff.mp hsum)
        rw [Figure.total, hnone]
        exact figure.size_pos
    | some n =>
        have hlt := h figure n hsum
        rwa [eq_total_of_exactSum hsum] at hlt
  · intro h figure n hsum
    rw [eq_total_of_exactSum hsum]
    exact h figure

/-- A record with the figures of another one. -/
def withFigures (target figures : GpuProcess) : GpuProcess :=
  { target with
    memory := figures.memory
    gpuUsage := figures.gpuUsage
    encodeUsage := figures.encodeUsage
    decodeUsage := figures.decodeUsage
    engines := figures.engines }

theorem value_withFigures (target figures : GpuProcess) (figure : Figure) :
    figure.value (target.withFigures figures) = figure.value figures := by
  cases figure <;> rfl

theorem value_of_kind (record : GpuProcess) (kind : ProcessKind) (figure : Figure) :
    figure.value { record with kind } = figure.value record := by
  cases figure <;> rfl

theorem getLast?_map_kind (target : GpuProcess) (order : List GpuProcess) :
    ((target :: order).map kind).getLast? = some ((order.getLast?.map kind).getD target.kind) := by
  cases order with
  | nil => rfl
  | cons first rest => simp [List.getLast?_cons]

/-- The kind is all that depends on the order in which records are added. -/
theorem foldlM_accumulate_of_isSum {target figures : GpuProcess}
    (h : figures.IsSum (target :: records)) {order : List GpuProcess}
    (horder : order.Perm records) :
    order.foldlM accumulate target =
      .ok { target.withFigures figures with
        kind := (order.getLast?.map kind).getD target.kind } := by
  rw [foldlM_accumulate_eq_ok_iff]
  refine ⟨(getLast?_map_kind target order).symm, rfl, ?_⟩
  have hsum := h.perm (horder.symm.cons target)
  intro figure
  rw [value_of_kind, value_withFigures, hsum figure]

theorem fault_of_foldlM_accumulate {target : GpuProcess} {fault : Fault}
    (h : records.foldlM accumulate target = .error fault) : fault = .additionOverflow := by
  induction records generalizing target with
  | nil => cases h
  | cons record records ih =>
      rw [List.foldlM_cons, Fault.bind_eq_error_iff] at h
      rcases h with h | ⟨sum, -, h⟩
      · exact fault_of_accumulate h
      · exact ih h

theorem foldlM_accumulate_of_size_le {target : GpuProcess} {figure : Figure}
    (h : figure.size ≤ figure.total (target :: records)) :
    records.foldlM accumulate target = .error .additionOverflow := by
  cases hfold : records.foldlM accumulate target with
  | error fault => rw [fault_of_foldlM_accumulate hfold]
  | ok sum =>
      have hsum : sum.IsSum (target :: records) := (foldlM_accumulate_eq_ok_iff.mp hfold).2.2
      have hlt := exists_isSum_iff_total_lt.mp ⟨sum, hsum⟩ figure
      exact absurd h (Nat.not_le.mpr hlt)

/-- Adding records to one faults just when the exact total of a figure is too large for it, and then
it overflows in every order. Otherwise every order ends with the same record up to its kind, which
is that of the last record: a figure that is absent everywhere stays absent, any other one is the
exact total, and the rest of the record is as it was. -/
theorem totals_of_accumulate (target : GpuProcess) (records : List GpuProcess) :
    ((∃ fault, records.foldlM accumulate target = .error fault) ↔
      ∃ figure : Figure, figure.size ≤ figure.total (target :: records)) ∧
    ((∃ figure : Figure, figure.size ≤ figure.total (target :: records)) →
      ∀ order : List GpuProcess, order.Perm records →
        order.foldlM accumulate target = .error .additionOverflow) ∧
    ((∀ figure : Figure, figure.total (target :: records) < figure.size) →
      ∃ sum : GpuProcess,
        sum = { target with
          memory := sum.memory
          gpuUsage := sum.gpuUsage
          encodeUsage := sum.encodeUsage
          decodeUsage := sum.decodeUsage
          engines := sum.engines } ∧
        (∀ figure : Figure,
          (figure.value sum = none ↔ ∀ record ∈ target :: records, figure.value record = none) ∧
          ∀ n, figure.value sum = some n → n = figure.total (target :: records)) ∧
        ∀ order : List GpuProcess, order.Perm records →
          order.foldlM accumulate target =
            .ok { sum with kind := (order.getLast?.map kind).getD target.kind }) := by
  have hfails : (∃ figure : Figure, figure.size ≤ figure.total (target :: records)) →
      ∀ order : List GpuProcess, order.Perm records →
        order.foldlM accumulate target = .error .additionOverflow := by
    rintro ⟨figure, hfigure⟩ order horder
    rw [← figure.total_perm (horder.cons target)] at hfigure
    exact foldlM_accumulate_of_size_le hfigure
  refine ⟨⟨?_, ?_⟩, hfails, ?_⟩
  · rintro ⟨fault, hfault⟩
    by_contra hnone
    simp only [not_exists, Nat.not_le] at hnone
    obtain ⟨figures, hfigures⟩ := exists_isSum_iff_total_lt.mpr hnone
    rw [foldlM_accumulate_of_isSum hfigures (List.Perm.refl records)] at hfault
    cases hfault
  · intro htotal
    exact ⟨_, hfails htotal records (List.Perm.refl records)⟩
  · intro hfits
    obtain ⟨figures, hfigures⟩ := exists_isSum_iff_total_lt.mpr hfits
    refine ⟨target.withFigures figures, rfl, ?_, fun order => foldlM_accumulate_of_isSum hfigures⟩
    intro figure
    rw [value_withFigures, hfigures figure]
    constructor
    · rw [exactSum_eq_none_iff]
      exact List.forall_mem_map
    · intro n hn
      exact eq_total_of_exactSum hn

/-- Two records fill a usage up to its largest value, and with a third one it overflows. -/
theorem totals_of_three_records :
    let target : GpuProcess := { pid := 7, gpuUsage := some 4294967290, userName := some "u" }
    let first : GpuProcess := { pid := 7, kind := .compute, memory := some 5, gpuUsage := some 3 }
    let second : GpuProcess := { pid := 7, gpuUsage := some 2 }
    let third : GpuProcess := { pid := 8, gpuUsage := some 1 }
    (∃ sum, [second, first].foldlM accumulate target = .ok sum ∧ sum.kind = .compute ∧
      Figure.gpuUsage.value sum = some 4294967295 ∧ sum.userName = some "u") ∧
    [third, second, first].foldlM accumulate target = .error .additionOverflow := by
  intro target first second third
  obtain ⟨-, -, hends⟩ := totals_of_accumulate target [first, second]
  obtain ⟨-, hfails, -⟩ := totals_of_accumulate target [first, second, third]
  have hfits : ∀ figure : Figure, figure.total [target, first, second] < figure.size := by
    intro figure
    cases figure with
    | memory | gpuUsage | encodeUsage | decodeUsage => decide
    | busyTime engine => cases engine <;> decide
  have htotal : Figure.gpuUsage.size ≤ Figure.gpuUsage.total [target, first, second, third] := by
    decide
  constructor
  · obtain ⟨sum, hsum, hvalues, horders⟩ := hends hfits
    obtain ⟨hnone, hsome⟩ := hvalues .gpuUsage
    refine ⟨_, horders [second, first] (by decide), rfl, ?_, congrArg userName hsum⟩
    rw [value_of_kind]
    cases hvalue : Figure.gpuUsage.value sum with
    | none =>
        have habsent := hnone.mp hvalue target List.mem_cons_self
        cases habsent
    | some n =>
        rw [hsome n hvalue]
        rfl
  · exact hfails ⟨.gpuUsage, htotal⟩ [third, second, first] (by decide)

end GpuProcess

end GpuTelemetry
