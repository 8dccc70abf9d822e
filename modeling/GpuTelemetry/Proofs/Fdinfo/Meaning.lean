import GpuTelemetry.Fdinfo.Reader
import GpuTelemetry.Proofs.Process.Figures
import Mathlib.Data.List.Induction

/-!
# What the entries of a text say

The reader goes through the entries of a text one after the other. Here is what
they say as a whole: whether they are about the device at an address, which
client they name, the last time given for each engine, and the saturated sum of
the percentages. The second half shows that the reader finds just that.
-/

namespace GpuTelemetry

namespace Fdinfo

namespace Entry

def address? : Entry → Option (List Char)
  | .address value => some value
  | _ => none

def client? : Entry → Option UInt64
  | .client id => some id
  | _ => none

def time? (engine : Engine) : Entry → Option UInt64
  | .engineTime other time => if other = engine then some time else none
  | _ => none

def percent? (engines : List Engine) : Entry → Option UInt32
  | .enginePercent engine percent => if engine ∈ engines then some percent else none
  | _ => none

end Entry

/-- Whether no entry names another address. -/
def isAbout (address : List Char) (entries : List Entry) : Bool :=
  (entries.filterMap Entry.address?).all fun value => value = address

def clientId? (entries : List Entry) : Option UInt64 :=
  (entries.filterMap Entry.client?).getLast?

def clientKey? (pid : UInt32) (entries : List Entry) : Option ClientKey :=
  (clientId? entries).map fun clientId => { clientId, pid }

def lastTime? (engine : Engine) (entries : List Entry) : Option UInt64 :=
  (entries.filterMap (Entry.time? engine)).getLast?

/-- The sum of the percentages for some engines, at most the largest word, and absent without any. -/
def percentSum? (engines : List Engine) (entries : List Entry) : Metric UInt32 :=
  let percents := entries.filterMap (Entry.percent? engines)
  if percents = [] then none else some (Word.saturate (percents.map UInt32.toNat).sum)

/-- The record that results from adding all entries to a record. -/
def fill (process : GpuProcess) (entries : List Entry) : GpuProcess :=
  (entries.foldl Progress.add { process }).process

namespace Progress

/-! ## Folds in which the last entry wins, and folds that add up -/

/-- A part of the progress that each entry of one kind replaces ends as the last of them has it. -/
theorem foldl_add_replaced {α : Type} (part : Progress → Option α) (value? : Entry → Option α)
    (hadd : ∀ progress entry, part (progress.add entry) = (value? entry).or (part progress))
    (progress : Progress) (entries : List Entry) :
    part (entries.foldl add progress) = (entries.filterMap value?).getLast?.or (part progress) := by
  induction entries using List.reverseRecOn with
  | nil => simp
  | append_singleton entries entry ih =>
      rw [List.foldl_append, List.foldl_cons, List.foldl_nil, hadd, ih, List.filterMap_append]
      cases hentry : value? entry with
      | none => simp [hentry]
      | some value => simp [hentry]

/-- A part of the progress to which each entry of one kind adds its percentage. -/
theorem foldl_add_summed (part : Progress → Metric UInt32) (percent? : Entry → Option UInt32)
    (hadd : ∀ progress entry, part (progress.add entry) =
      (percent? entry).elim (part progress) (part progress).addSaturating)
    (progress : Progress) (entries : List Entry) :
    part (entries.foldl add progress) =
      (entries.filterMap percent?).foldl Metric.addSaturating (part progress) := by
  induction entries generalizing progress with
  | nil => rfl
  | cons entry entries ih =>
      rw [List.foldl_cons, ih, hadd]
      cases hentry : percent? entry with
      | none => simp [hentry]
      | some percent => simp [hentry]

theorem addSaturating_saturate (total : Nat) (percent : UInt32) :
    Metric.addSaturating (some (Word.saturate total)) percent =
      some (Word.saturate (total + percent.toNat)) := by
  have hle : percent.toNat ≤ Word.size UInt32 - 1 := Nat.le_sub_one_of_lt percent.toNat_lt
  have hword : (Word.toNat percent : Nat) = percent.toNat := rfl
  simp only [Metric.addSaturating, Word.saturatingAdd, Option.getD_some, Word.toNat_saturate, hword]
  congr 1
  apply Word.toNat_injective
  rw [Word.toNat_saturate, Word.toNat_saturate]
  omega

/-- Cutting off after every addition is the same as cutting off the whole sum. -/
theorem foldl_addSaturating_saturate (total : Nat) (percents : List UInt32) :
    percents.foldl Metric.addSaturating (some (Word.saturate total)) =
      some (Word.saturate (total + (percents.map UInt32.toNat).sum)) := by
  induction percents generalizing total with
  | nil => simp
  | cons percent percents ih =>
      rw [List.foldl_cons, addSaturating_saturate, ih, List.map_cons, List.sum_cons, Nat.add_assoc]

theorem foldl_addSaturating_none (percents : List UInt32) :
    percents.foldl Metric.addSaturating none =
      if percents = [] then none else some (Word.saturate (percents.map UInt32.toNat).sum) := by
  cases percents with
  | nil => rfl
  | cons percent percents =>
      have hstart : Metric.addSaturating none percent =
          Metric.addSaturating (some (Word.saturate 0)) percent := rfl
      rw [List.foldl_cons, hstart, addSaturating_saturate, foldl_addSaturating_saturate]
      simp

/-! ## The parts of the progress, entry by entry -/

theorem client_add (progress : Progress) (entry : Entry) :
    (progress.add entry).client = entry.client?.or progress.client := by
  cases entry <;> rfl

theorem counter_add (engine : Engine) (progress : Progress) (entry : Entry) :
    (progress.add entry).process.engines.get engine =
      (entry.time? engine).or (progress.process.engines.get engine) := by
  cases entry with
  | engineTime other time => cases other <;> cases engine <;> rfl
  | enginePercent other percent => cases other <;> rfl
  | _ => rfl

theorem gpuUsage_add (progress : Progress) (entry : Entry) :
    (progress.add entry).process.gpuUsage =
      (entry.percent? [.gfx, .compute]).elim progress.process.gpuUsage
        progress.process.gpuUsage.addSaturating := by
  cases entry with
  | engineTime engine time => cases engine <;> rfl
  | enginePercent engine percent => cases engine <;> rfl
  | _ => rfl

theorem encodeUsage_add (progress : Progress) (entry : Entry) :
    (progress.add entry).process.encodeUsage =
      (entry.percent? [.encode]).elim progress.process.encodeUsage
        progress.process.encodeUsage.addSaturating := by
  cases entry with
  | engineTime engine time => cases engine <;> rfl
  | enginePercent engine percent => cases engine <;> rfl
  | _ => rfl

theorem decodeUsage_add (progress : Progress) (entry : Entry) :
    (progress.add entry).process.decodeUsage =
      (entry.percent? [.decode]).elim progress.process.decodeUsage
        progress.process.decodeUsage.addSaturating := by
  cases entry with
  | engineTime engine time => cases engine <;> rfl
  | enginePercent engine percent => cases engine <;> rfl
  | _ => rfl

theorem bare_add (progress : Progress) (entry : Entry) :
    (progress.add entry).process.bare = progress.process.bare := by
  cases entry with
  | engineTime engine time => cases engine <;> rfl
  | enginePercent engine percent => cases engine <;> rfl
  | _ => rfl

/-- A reader goes through all entries of a text that is about its device, and stops early in any
other. -/
theorem addAll_eq (address : List Char) (progress : Progress) (entries : List Entry) :
    (addAll address progress entries).2 = isAbout address entries ∧
      (isAbout address entries = true →
        (addAll address progress entries).1 = entries.foldl add progress) := by
  induction entries generalizing progress with
  | nil => exact ⟨rfl, fun _ => rfl⟩
  | cons entry entries ih =>
      cases entry with
      | address value =>
          by_cases hvalue : value = address
          · have hrest : isAbout address (.address value :: entries) = isAbout address entries := by
              simp [isAbout, Entry.address?, hvalue]
            rw [addAll, if_pos hvalue, hrest]
            exact ih progress
          · have hother : isAbout address (.address value :: entries) = false := by
              simp [isAbout, Entry.address?, hvalue]
            rw [addAll, if_neg hvalue, hother]
            exact ⟨rfl, fun h => Bool.noConfusion h⟩
      | _ => exact ih _

end Progress

/-! ## Filling a record -/

theorem clientId?_eq (process : GpuProcess) (entries : List Entry) :
    (entries.foldl Progress.add { process }).client = clientId? entries := by
  rw [Progress.foldl_add_replaced Progress.client Entry.client? Progress.client_add]
  exact Option.or_none

theorem counter_fill (engine : Engine) (process : GpuProcess) (entries : List Entry) :
    (fill process entries).engines.get engine =
      (lastTime? engine entries).or (process.engines.get engine) :=
  Progress.foldl_add_replaced (fun progress => progress.process.engines.get engine)
    (Entry.time? engine) (Progress.counter_add engine) { process } entries

theorem gpuUsage_fill (pid : UInt32) (entries : List Entry) :
    (fill { pid } entries).gpuUsage = percentSum? [.gfx, .compute] entries := by
  rw [percentSum?, ← Progress.foldl_addSaturating_none]
  exact Progress.foldl_add_summed (fun progress => progress.process.gpuUsage) _
    Progress.gpuUsage_add _ entries

theorem encodeUsage_fill (pid : UInt32) (entries : List Entry) :
    (fill { pid } entries).encodeUsage = percentSum? [.encode] entries := by
  rw [percentSum?, ← Progress.foldl_addSaturating_none]
  exact Progress.foldl_add_summed (fun progress => progress.process.encodeUsage) _
    Progress.encodeUsage_add _ entries

theorem decodeUsage_fill (pid : UInt32) (entries : List Entry) :
    (fill { pid } entries).decodeUsage = percentSum? [.decode] entries := by
  rw [percentSum?, ← Progress.foldl_addSaturating_none]
  exact Progress.foldl_add_summed (fun progress => progress.process.decodeUsage) _
    Progress.decodeUsage_add _ entries

@[simp] theorem bare_fill (process : GpuProcess) (entries : List Entry) :
    (fill process entries).bare = process.bare := by
  induction entries using List.reverseRecOn with
  | nil => rfl
  | append_singleton entries entry ih =>
      rw [fill, List.foldl_append, List.foldl_cons, List.foldl_nil, Progress.bare_add]
      exact ih

@[simp] theorem pid_fill (process : GpuProcess) (entries : List Entry) :
    (fill process entries).pid = process.pid :=
  GpuProcess.pid_eq_of_bare_eq (bare_fill process entries)

end Fdinfo

end GpuTelemetry
