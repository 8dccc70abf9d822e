import GpuTelemetry.Fdinfo.Entry
import GpuTelemetry.Process.Record
import Mathlib.Algebra.GroupWithZero.Nat
import Mathlib.Data.List.Basic

/-!
# The figures of a process record

A record has eight figures about the usage of a device. Adding records adds every
one of them exactly, with an absent value counting as nothing, and is possible
just when each sum fits into its word. So whether a list of records can be added
up, and to which figures, does not depend on the order of the list.
-/

namespace GpuTelemetry

namespace EngineCounters

def get (counters : EngineCounters) : Fdinfo.Engine → Metric UInt64
  | .gfx => counters.gfx
  | .compute => counters.compute
  | .encode => counters.encode
  | .decode => counters.decode

theorem ext_get {a b : EngineCounters} (h : ∀ engine, a.get engine = b.get engine) : a = b := by
  have hgfx := h .gfx
  have hcompute := h .compute
  have hencode := h .encode
  have hdecode := h .decode
  cases a
  cases b
  simp only [get] at hgfx hcompute hencode hdecode
  subst hgfx hcompute hencode hdecode
  rfl

end EngineCounters

/-- The sum of the values that are present, absent where none is. -/
def exactSum (values : List (Option Nat)) : Option Nat :=
  if values.all Option.isNone then none else some (values.map (Option.getD · 0)).sum

/-- What a record says about the usage of the device. -/
inductive Figure
  | memory
  | gpuUsage
  | encodeUsage
  | decodeUsage
  | busyTime (engine : Fdinfo.Engine)
  deriving DecidableEq

def Figure.value : Figure → GpuProcess → Option Nat
  | .memory, process => process.memory.map UInt64.toNat
  | .gpuUsage, process => process.gpuUsage.map UInt32.toNat
  | .encodeUsage, process => process.encodeUsage.map UInt32.toNat
  | .decodeUsage, process => process.decodeUsage.map UInt32.toNat
  | .busyTime engine, process => (process.engines.get engine).map UInt64.toNat

/-- The number of values that a record can hold for a figure. -/
def Figure.size : Figure → Nat
  | .memory | .busyTime _ => 2 ^ 64
  | .gpuUsage | .encodeUsage | .decodeUsage => 2 ^ 32

namespace GpuProcess

/-- A record without its kind and its figures. -/
def bare (process : GpuProcess) : GpuProcess :=
  { process with
    kind := .graphical
    memory := none
    gpuUsage := none
    encodeUsage := none
    decodeUsage := none
    engines := {} }

theorem pid_eq_of_bare_eq {a b : GpuProcess} (h : a.bare = b.bare) : a.pid = b.pid := by
  have hpid := congrArg GpuProcess.pid h
  exact hpid

end GpuProcess

/-! ## Exact sums -/

@[simp] theorem exactSum_nil : exactSum [] = none := rfl

theorem merge_add_assoc (a b c : Option Nat) :
    Option.merge (· + ·) (Option.merge (· + ·) a b) c =
      Option.merge (· + ·) a (Option.merge (· + ·) b c) := by
  cases a <;> cases b <;> cases c <;> simp [Nat.add_assoc]

theorem sum_getD_of_all_isNone {values : List (Option Nat)}
    (hall : values.all Option.isNone = true) : (values.map (Option.getD · 0)).sum = 0 := by
  induction values with
  | nil => rfl
  | cons value values ih =>
      rw [List.all_cons, Bool.and_eq_true] at hall
      rw [List.map_cons, List.sum_cons, ih hall.2, Option.isNone_iff_eq_none.mp hall.1]
      rfl

theorem exactSum_cons (value : Option Nat) (values : List (Option Nat)) :
    exactSum (value :: values) = Option.merge (· + ·) value (exactSum values) := by
  cases value with
  | none => simp [exactSum]
  | some n =>
      by_cases hall : values.all Option.isNone = true
      · simp [exactSum, hall, sum_getD_of_all_isNone hall]
      · simp [exactSum, hall]

theorem exactSum_singleton (value : Option Nat) : exactSum [value] = value := by
  rw [exactSum_cons, exactSum_nil, Option.merge_none_right]

theorem exactSum_append (a b : List (Option Nat)) :
    exactSum (a ++ b) = Option.merge (· + ·) (exactSum a) (exactSum b) := by
  induction a with
  | nil => simp
  | cons value a ih => rw [List.cons_append, exactSum_cons, ih, exactSum_cons, merge_add_assoc]

theorem exactSum_perm {a b : List (Option Nat)} (h : a.Perm b) : exactSum a = exactSum b := by
  have hall : a.all Option.isNone = b.all Option.isNone := h.all_eq
  have hsum : (a.map (Option.getD · 0)).sum = (b.map (Option.getD · 0)).sum := (h.map _).sum_nat
  rw [exactSum, exactSum, hall, hsum]

namespace Metric

variable {α : Type} [Word α]

/-- An addition succeeds just when there is a word for the exact sum, which is the answer then. -/
theorem add_eq_ok_iff {target other result : Metric α} :
    target.add other = .ok result ↔
      result.map Word.toNat =
        Option.merge (· + ·) (target.map Word.toNat) (other.map Word.toNat) := by
  have hinj : Function.Injective (Word.toNat : α → Nat) := fun _ _ => Word.toNat_injective
  have hzero : Word.toNat (Word.ofNat 0 : α) = 0 := Word.toNat_ofNat 0 Word.size_pos
  cases other with
  | none =>
      rw [add_none, Option.map_none, Option.merge_none_right]
      constructor
      · intro h
        cases h
        rfl
      · intro h
        rw [Option.map_injective hinj h]
  | some b =>
      rw [add, Fault.map_eq_ok_iff]
      constructor
      · rintro ⟨c, hc, rfl⟩
        have hsum := sum_eq_ok_iff.mp hc
        cases target with
        | none => simpa [hzero] using hsum.symm
        | some a => simpa using hsum.symm
      · intro h
        cases result with
        | none => cases target <;> simp at h
        | some c =>
            refine ⟨c, sum_eq_ok_iff.mpr ?_, rfl⟩
            cases target with
            | none => simpa [hzero] using h.symm
            | some a => simpa using h.symm

/-- A sum that fits together with more fits without it. -/
theorem exists_add_eq_ok {target other total : Metric α} {rest : Option Nat}
    (htotal : total.map Word.toNat = Option.merge (· + ·)
      (Option.merge (· + ·) (target.map Word.toNat) (other.map Word.toNat)) rest) :
    ∃ result, target.add other = .ok result := by
  cases other with
  | none => exact ⟨target, rfl⟩
  | some b =>
      cases target with
      | none => exact ⟨some b, add_eq_ok_iff.mpr rfl⟩
      | some a =>
          have hfit : Word.toNat a + Word.toNat b < Word.size α := by
            cases total with
            | none => cases rest <;> simp at htotal
            | some t =>
                have hlt := Word.toNat_lt t
                cases rest with
                | none =>
                    simp only [Option.map_some, Option.merge_some_some, Option.merge_none_right,
                      Option.some.injEq] at htotal
                    omega
                | some n =>
                    simp only [Option.map_some, Option.merge_some_some, Option.some.injEq] at htotal
                    omega
          refine ⟨some (Word.ofNat (Word.toNat a + Word.toNat b)), add_eq_ok_iff.mpr ?_⟩
          rw [Option.map_some, Word.toNat_ofNat _ hfit]
          rfl

theorem fault_of_add {α : Type} [Word α] {target other : Metric α} {fault : Fault}
    (h : target.add other = .error fault) : fault = .additionOverflow := by
  cases other with
  | none => cases h
  | some b =>
      have hsum := Fault.map_eq_error_iff.mp h
      unfold sum at hsum
      split at hsum
      · cases hsum
      · cases hsum
        rfl

end Metric

/-! ## Adding records -/

theorem EngineCounters.accumulate_eq_ok_iff {target other sum : EngineCounters} :
    target.accumulate other = .ok sum ↔
      ∀ engine, (sum.get engine).map UInt64.toNat =
        Option.merge (· + ·) ((target.get engine).map UInt64.toNat)
          ((other.get engine).map UInt64.toNat) := by
  simp only [accumulate, Fault.bind_eq_ok_iff]
  constructor
  · rintro ⟨gfx, hgfx, compute, hcompute, encode, hencode, decode, hdecode, hsum⟩ engine
    cases hsum
    cases engine with
    | gfx => exact Metric.add_eq_ok_iff.mp hgfx
    | compute => exact Metric.add_eq_ok_iff.mp hcompute
    | encode => exact Metric.add_eq_ok_iff.mp hencode
    | decode => exact Metric.add_eq_ok_iff.mp hdecode
  · intro h
    exact ⟨sum.gfx, Metric.add_eq_ok_iff.mpr (h .gfx),
      sum.compute, Metric.add_eq_ok_iff.mpr (h .compute),
      sum.encode, Metric.add_eq_ok_iff.mpr (h .encode),
      sum.decode, Metric.add_eq_ok_iff.mpr (h .decode), rfl⟩

theorem EngineCounters.exists_accumulate_eq_ok {target other total : EngineCounters}
    {rest : Fdinfo.Engine → Option Nat}
    (htotal : ∀ engine, (total.get engine).map UInt64.toNat = Option.merge (· + ·)
      (Option.merge (· + ·) ((target.get engine).map UInt64.toNat)
        ((other.get engine).map UInt64.toNat)) (rest engine)) :
    ∃ sum, target.accumulate other = .ok sum := by
  obtain ⟨gfx, hgfx⟩ := Metric.exists_add_eq_ok (htotal .gfx)
  obtain ⟨compute, hcompute⟩ := Metric.exists_add_eq_ok (htotal .compute)
  obtain ⟨encode, hencode⟩ := Metric.exists_add_eq_ok (htotal .encode)
  obtain ⟨decode, hdecode⟩ := Metric.exists_add_eq_ok (htotal .decode)
  simp only [accumulate, Fault.bind_eq_ok_iff]
  exact ⟨_, gfx, hgfx, compute, hcompute, encode, hencode, decode, hdecode, rfl⟩

theorem EngineCounters.fault_of_accumulate {target other : EngineCounters} {fault : Fault}
    (h : target.accumulate other = .error fault) : fault = .additionOverflow := by
  simp only [accumulate, Fault.bind_eq_error_iff] at h
  rcases h with h | ⟨_, -, h | ⟨_, -, h | ⟨_, -, h | ⟨_, -, h⟩⟩⟩⟩
  · exact Metric.fault_of_add h
  · exact Metric.fault_of_add h
  · exact Metric.fault_of_add h
  · exact Metric.fault_of_add h
  · cases h

namespace GpuProcess

theorem ext_figures {a b : GpuProcess} (hkind : a.kind = b.kind) (hbare : a.bare = b.bare)
    (hfigures : ∀ figure : Figure, figure.value a = figure.value b) : a = b := by
  have hword64 : Function.Injective UInt64.toNat := fun _ _ => UInt64.toNat_inj.mp
  have hword32 : Function.Injective UInt32.toNat := fun _ _ => UInt32.toNat_inj.mp
  have hmemory : a.memory = b.memory := Option.map_injective hword64 (hfigures .memory)
  have hgpu : a.gpuUsage = b.gpuUsage := Option.map_injective hword32 (hfigures .gpuUsage)
  have hencode : a.encodeUsage = b.encodeUsage :=
    Option.map_injective hword32 (hfigures .encodeUsage)
  have hdecode : a.decodeUsage = b.decodeUsage :=
    Option.map_injective hword32 (hfigures .decodeUsage)
  have hengines : a.engines = b.engines := EngineCounters.ext_get fun engine =>
    Option.map_injective hword64 (hfigures (.busyTime engine))
  cases a
  cases b
  simp only [bare, GpuProcess.mk.injEq] at hkind hbare hmemory hgpu hencode hdecode hengines ⊢
  simp [hkind, hbare, hmemory, hgpu, hencode, hdecode, hengines]

/-- What a successful addition yields, and that there is no other reason for one to fail than the
lack of such a record. -/
theorem accumulate_eq_ok_iff {target other sum : GpuProcess} :
    target.accumulate other = .ok sum ↔
      sum.kind = other.kind ∧ sum.bare = target.bare ∧
        ∀ figure : Figure, figure.value sum =
          Option.merge (· + ·) (figure.value target) (figure.value other) := by
  simp only [accumulate, Fault.bind_eq_ok_iff]
  constructor
  · rintro ⟨memory, hmemory, gpu, hgpu, encode, hencode, decode, hdecode, engines, hengines, hsum⟩
    cases hsum
    refine ⟨rfl, rfl, ?_⟩
    intro figure
    cases figure with
    | memory => exact Metric.add_eq_ok_iff.mp hmemory
    | gpuUsage => exact Metric.add_eq_ok_iff.mp hgpu
    | encodeUsage => exact Metric.add_eq_ok_iff.mp hencode
    | decodeUsage => exact Metric.add_eq_ok_iff.mp hdecode
    | busyTime engine => exact EngineCounters.accumulate_eq_ok_iff.mp hengines engine
  · rintro ⟨hkind, hbare, hfigures⟩
    refine ⟨sum.memory, Metric.add_eq_ok_iff.mpr (hfigures .memory),
      sum.gpuUsage, Metric.add_eq_ok_iff.mpr (hfigures .gpuUsage),
      sum.encodeUsage, Metric.add_eq_ok_iff.mpr (hfigures .encodeUsage),
      sum.decodeUsage, Metric.add_eq_ok_iff.mpr (hfigures .decodeUsage),
      sum.engines,
      EngineCounters.accumulate_eq_ok_iff.mpr fun engine => hfigures (.busyTime engine), ?_⟩
    refine congrArg Except.ok (ext_figures hkind.symm hbare.symm ?_)
    intro figure
    cases figure <;> rfl

theorem exists_accumulate_eq_ok {target other total : GpuProcess} {rest : Figure → Option Nat}
    (htotal : ∀ figure : Figure, figure.value total = Option.merge (· + ·)
      (Option.merge (· + ·) (figure.value target) (figure.value other)) (rest figure)) :
    ∃ sum, target.accumulate other = .ok sum := by
  obtain ⟨memory, hmemory⟩ := Metric.exists_add_eq_ok (htotal .memory)
  obtain ⟨gpu, hgpu⟩ := Metric.exists_add_eq_ok (htotal .gpuUsage)
  obtain ⟨encode, hencode⟩ := Metric.exists_add_eq_ok (htotal .encodeUsage)
  obtain ⟨decode, hdecode⟩ := Metric.exists_add_eq_ok (htotal .decodeUsage)
  obtain ⟨engines, hengines⟩ :=
    EngineCounters.exists_accumulate_eq_ok fun engine => htotal (.busyTime engine)
  simp only [accumulate, Fault.bind_eq_ok_iff]
  exact ⟨_, memory, hmemory, gpu, hgpu, encode, hencode, decode, hdecode, engines, hengines, rfl⟩

theorem fault_of_accumulate {target other : GpuProcess} {fault : Fault}
    (h : target.accumulate other = .error fault) : fault = .additionOverflow := by
  simp only [accumulate, Fault.bind_eq_error_iff] at h
  rcases h with h | ⟨_, -, h | ⟨_, -, h | ⟨_, -, h | ⟨_, -, h | ⟨_, -, h⟩⟩⟩⟩⟩
  · exact Metric.fault_of_add h
  · exact Metric.fault_of_add h
  · exact Metric.fault_of_add h
  · exact Metric.fault_of_add h
  · exact EngineCounters.fault_of_accumulate h
  · cases h

/-- Whether a record holds the exact sums of the figures of some records. -/
def IsSum (sum : GpuProcess) (records : List GpuProcess) : Prop :=
  ∀ figure : Figure, figure.value sum = exactSum (records.map figure.value)

theorem IsSum.perm {sum : GpuProcess} {a b : List GpuProcess} (h : sum.IsSum a) (hab : a.Perm b) :
    sum.IsSum b := fun figure =>
  (h figure).trans (exactSum_perm (hab.map figure.value))

theorem isSum_singleton {sum record : GpuProcess} :
    sum.IsSum [record] ↔ ∀ figure : Figure, figure.value sum = figure.value record := by
  simp only [IsSum, List.map_cons, List.map_nil, exactSum_singleton]

theorem value_lt_size {figure : Figure} {record : GpuProcess} {n : Nat}
    (h : figure.value record = some n) : n < figure.size := by
  cases figure with
  | memory | busyTime _ =>
      obtain ⟨word, -, rfl⟩ := Option.map_eq_some_iff.mp h
      exact word.toNat_lt
  | gpuUsage | encodeUsage | decodeUsage =>
      obtain ⟨word, -, rfl⟩ := Option.map_eq_some_iff.mp h
      exact word.toNat_lt

/-- A record can hold the sums of some records just when each sum fits its figure. -/
theorem exists_isSum_iff {records : List GpuProcess} :
    (∃ sum : GpuProcess, sum.IsSum records) ↔
      ∀ figure : Figure, ∀ total, exactSum (records.map figure.value) = some total →
        total < figure.size := by
  constructor
  · rintro ⟨sum, hsum⟩ figure total htotal
    exact value_lt_size ((hsum figure).trans htotal)
  · intro hfits
    let total (figure : Figure) : Option Nat := exactSum (records.map figure.value)
    let sum : GpuProcess :=
      { pid := 0
        memory := (total .memory).map UInt64.ofNat
        gpuUsage := (total .gpuUsage).map UInt32.ofNat
        encodeUsage := (total .encodeUsage).map UInt32.ofNat
        decodeUsage := (total .decodeUsage).map UInt32.ofNat
        engines :=
          { gfx := (total (.busyTime .gfx)).map UInt64.ofNat
            compute := (total (.busyTime .compute)).map UInt64.ofNat
            encode := (total (.busyTime .encode)).map UInt64.ofNat
            decode := (total (.busyTime .decode)).map UInt64.ofNat } }
    have hword64 (value : Option Nat) (h : ∀ n, value = some n → n < 2 ^ 64) :
        (value.map UInt64.ofNat).map UInt64.toNat = value := by
      cases value with
      | none => rfl
      | some n => exact congrArg some (UInt64.toNat_ofNat_of_lt' (h n rfl))
    have hword32 (value : Option Nat) (h : ∀ n, value = some n → n < 2 ^ 32) :
        (value.map UInt32.ofNat).map UInt32.toNat = value := by
      cases value with
      | none => rfl
      | some n => exact congrArg some (UInt32.toNat_ofNat_of_lt' (h n rfl))
    refine ⟨sum, ?_⟩
    intro figure
    cases figure with
    | memory => exact hword64 _ (hfits .memory)
    | gpuUsage => exact hword32 _ (hfits .gpuUsage)
    | encodeUsage => exact hword32 _ (hfits .encodeUsage)
    | decodeUsage => exact hword32 _ (hfits .decodeUsage)
    | busyTime engine =>
        cases engine with
        | gfx => exact hword64 _ (hfits (.busyTime .gfx))
        | compute => exact hword64 _ (hfits (.busyTime .compute))
        | encode => exact hword64 _ (hfits (.busyTime .encode))
        | decode => exact hword64 _ (hfits (.busyTime .decode))

/-- Adding records one after the other yields their exact sum, and fails only where no record can
hold that. -/
theorem foldlM_accumulate_eq_ok_iff {first sum : GpuProcess} {others : List GpuProcess} :
    others.foldlM accumulate first = .ok sum ↔
      some sum.kind = ((first :: others).map kind).getLast? ∧ sum.bare = first.bare ∧
        sum.IsSum (first :: others) := by
  induction others generalizing first with
  | nil =>
      rw [List.foldlM_nil, isSum_singleton]
      constructor
      · intro h
        cases h
        exact ⟨rfl, rfl, fun _ => rfl⟩
      · rintro ⟨hkind, hbare, hfigures⟩
        exact congrArg Except.ok
          (ext_figures (Option.some.inj hkind).symm hbare.symm fun figure => (hfigures figure).symm)
  | cons other others ih =>
      have hcons (figure : Figure) : exactSum ((first :: other :: others).map figure.value) =
          Option.merge (· + ·) (Option.merge (· + ·) (figure.value first) (figure.value other))
            (exactSum (others.map figure.value)) := by
        rw [List.map_cons, List.map_cons, exactSum_cons, exactSum_cons, merge_add_assoc]
      rw [List.foldlM_cons, Fault.bind_eq_ok_iff]
      constructor
      · rintro ⟨middle, hmiddle, hrest⟩
        obtain ⟨hkind, hbare, hfigures⟩ := accumulate_eq_ok_iff.mp hmiddle
        obtain ⟨hsumKind, hsumBare, hsum⟩ := ih.mp hrest
        refine ⟨?_, hsumBare.trans hbare, ?_⟩
        · rw [hsumKind, List.map_cons, hkind, List.map_cons, List.map_cons, List.getLast?_cons_cons]
        · intro figure
          rw [hcons, hsum figure, List.map_cons, exactSum_cons, hfigures]
      · rintro ⟨hsumKind, hsumBare, hsum⟩
        obtain ⟨middle, hmiddle⟩ := exists_accumulate_eq_ok
          fun figure => (hsum figure).trans (hcons figure)
        obtain ⟨hkind, hbare, hfigures⟩ := accumulate_eq_ok_iff.mp hmiddle
        refine ⟨middle, hmiddle, ih.mpr ⟨?_, hsumBare.trans hbare.symm, ?_⟩⟩
        · rw [hsumKind, List.map_cons, List.map_cons, List.map_cons, hkind,
            List.getLast?_cons_cons]
        · intro figure
          rw [hsum figure, hcons, List.map_cons, exactSum_cons, hfigures]

end GpuProcess

end GpuTelemetry
