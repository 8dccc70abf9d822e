import GpuTelemetry.Fdinfo.BusyRate
import Mathlib.Algebra.Order.Ring.Int
import Mathlib.Order.Bounds.Basic

/-!
# Rounding of busy rates

A busy rate is one hundred times the ratio of busy and elapsed time, and halves go
up. Half of the elapsed time is itself rounded down on the way, which makes no
difference to the result. Words of 128 bits hold all that the computation passes
through, and 32 bits hold the rate.
-/

namespace GpuTelemetry

/-- One hundred times a ratio, with halves going up. -/
def halfUpPercent (delta elapsed : Nat) : Nat :=
  (delta * 100 + elapsed / 2) / elapsed

section

variable {delta elapsed : Nat}

theorem le_halfUpPercent_iff (hpos : 0 < elapsed) (r : Nat) :
    r ≤ halfUpPercent delta elapsed ↔ 2 * (elapsed * r) ≤ 200 * delta + elapsed := by
  rw [halfUpPercent, Nat.le_div_iff_mul_le hpos, Nat.mul_comm r elapsed]
  omega

theorem isGreatest_halfUpPercent (hpos : 0 < elapsed) :
    IsGreatest {r : Int | 2 * elapsed * r ≤ 200 * delta + elapsed}
      (halfUpPercent delta elapsed : Int) := by
  constructor
  · have hself := (le_halfUpPercent_iff hpos _).mp (Nat.le_refl (halfUpPercent delta elapsed))
    change 2 * (elapsed : Int) * (halfUpPercent delta elapsed : Int) ≤ 200 * delta + elapsed
    rw [mul_assoc]
    exact_mod_cast hself
  · intro r hr
    change 2 * (elapsed : Int) * r ≤ 200 * delta + elapsed at hr
    rcases Int.le_total 0 r with hnonneg | hneg
    · obtain ⟨n, rfl⟩ := Int.eq_ofNat_of_zero_le hnonneg
      rw [mul_assoc] at hr
      exact_mod_cast (le_halfUpPercent_iff hpos n).mpr (by exact_mod_cast hr)
    · exact Int.le_trans hneg (Int.natCast_nonneg _)

theorem halfUpPercent_le (hpos : 0 < elapsed) (h : delta ≤ elapsed) :
    halfUpPercent delta elapsed ≤ 100 := by
  rw [halfUpPercent, ← Nat.lt_succ_iff, Nat.div_lt_iff_lt_mul hpos]
  omega

theorem halfUpPercent_self (hpos : 0 < elapsed) : halfUpPercent elapsed elapsed = 100 := by
  apply Nat.le_antisymm (halfUpPercent_le hpos (Nat.le_refl elapsed))
  rw [le_halfUpPercent_iff hpos]
  omega

theorem halfUpPercent_mono {later : Nat} (h : delta ≤ later) :
    halfUpPercent delta elapsed ≤ halfUpPercent later elapsed :=
  Nat.div_le_div_right (by omega)

end

/-! ## The computation in words -/

/-- A number that has to fit into some bits. -/
def within (bits n : Nat) : Option Nat :=
  if n < 2 ^ bits then some n else none

theorem within_of_lt {bits n : Nat} (h : n < 2 ^ bits) : within bits n = some n :=
  if_pos h

/-- The busy percentage with a word for every value on the way, given up where one does not fit. -/
def busyPercentInWords (previous current : UInt64) (elapsed : Nat) : Option (Option UInt32) :=
  if current < previous then some none
  else do
    let delta ← within 64 (current.toNat - previous.toNat)
    if elapsed = 0 ∨ elapsed < delta then return none
    let scaled ← within 128 (delta * 100)
    let half ← within 128 (elapsed / 2)
    let raised ← within 128 (scaled + half)
    let quotient ← within 128 (raised / elapsed)
    let percent ← within 32 quotient
    return some (UInt32.ofNat percent)

variable {previous current : UInt64} {elapsed : Nat}

theorem busyPercent_eq :
    busyPercent previous current elapsed =
      if previous ≤ current ∧ 0 < elapsed ∧ current.toNat - previous.toNat ≤ elapsed then
        some (UInt32.ofNat (halfUpPercent (current.toNat - previous.toNat) elapsed))
      else none := by
  unfold busyPercent
  by_cases hback : current < previous
  · have hout : ¬ previous ≤ current := UInt64.not_le.mpr hback
    rw [if_pos hback, if_neg fun hin => hout hin.1]
  · have hle : previous ≤ current := UInt64.not_lt.mp hback
    dsimp only
    rw [if_neg hback]
    by_cases hout : elapsed = 0 ∨ elapsed < current.toNat - previous.toNat
    · rw [if_pos hout, if_neg (by omega)]
    · rw [if_neg hout, if_pos ⟨hle, by omega, by omega⟩]
      rfl

theorem busyPercent_eq_some_iff {rate : UInt32} :
    busyPercent previous current elapsed = some rate ↔
      (previous ≤ current ∧ 0 < elapsed ∧ current.toNat - previous.toNat ≤ elapsed) ∧
        rate.toNat = halfUpPercent (current.toNat - previous.toNat) elapsed := by
  rw [busyPercent_eq, Option.ite_none_right_eq_some, Option.some.injEq]
  apply and_congr_right
  rintro ⟨-, hpos, hdelta⟩
  have hword : (UInt32.ofNat (halfUpPercent (current.toNat - previous.toNat) elapsed)).toNat =
      halfUpPercent (current.toNat - previous.toNat) elapsed :=
    UInt32.toNat_ofNat_of_lt' (Nat.lt_of_le_of_lt (halfUpPercent_le hpos hdelta) (by decide))
  rw [← UInt32.toNat_inj, hword]
  exact eq_comm

theorem busyPercentInWords_eq (h : elapsed < 2 ^ 128) :
    busyPercentInWords previous current elapsed = some (busyPercent previous current elapsed) := by
  have hcurrent := current.toNat_lt
  unfold busyPercentInWords busyPercent
  by_cases hback : current < previous
  · rw [if_pos hback, if_pos hback]
  · have hdelta : current.toNat - previous.toNat < 2 ^ 64 := by omega
    rw [if_neg hback, if_neg hback, within_of_lt hdelta, Option.bind_eq_bind, Option.bind_some]
    by_cases hout : elapsed = 0 ∨ elapsed < current.toNat - previous.toNat
    · rw [if_pos hout, if_pos hout]
      rfl
    · have hscaled : (current.toNat - previous.toNat) * 100 < 2 ^ 128 := by omega
      have hhalf : elapsed / 2 < 2 ^ 128 := by omega
      have hraised : (current.toNat - previous.toNat) * 100 + elapsed / 2 < 2 ^ 128 := by omega
      have hpercent : ((current.toNat - previous.toNat) * 100 + elapsed / 2) / elapsed < 2 ^ 32 :=
        Nat.lt_of_le_of_lt (halfUpPercent_le (by omega) (by omega)) (by decide)
      have hquotient : ((current.toNat - previous.toNat) * 100 + elapsed / 2) / elapsed < 2 ^ 128 :=
        Nat.lt_trans hpercent (by decide)
      rw [if_neg hout, if_neg hout]
      simp only [Option.bind_some, within_of_lt hscaled, within_of_lt hhalf, within_of_lt hraised,
        within_of_lt hquotient, within_of_lt hpercent]
      rfl

/-- For every two readings and every elapsed time of 128 bits the computation stays within its words.
There is no rate just when the counter went backwards, no time passed or the counter ran ahead of it.
A rate is the true percentage with halves going up, at most 100, and 100 for an engine that was busy
all the time; and a later reading never has a smaller one. -/
theorem busyPercent_rounds_half_up (h : elapsed < 2 ^ 128) :
    busyPercentInWords previous current elapsed = some (busyPercent previous current elapsed) ∧
      (busyPercent previous current elapsed = none ↔
        current < previous ∨ elapsed = 0 ∨ elapsed < current.toNat - previous.toNat) ∧
      ∀ rate, busyPercent previous current elapsed = some rate →
        IsGreatest {r : Int | 2 * (elapsed : Int) * r ≤
            200 * ((current.toNat : Int) - previous.toNat) + elapsed} (rate.toNat : Int) ∧
          rate ≤ 100 ∧
          (current.toNat - previous.toNat = elapsed → rate = 100) ∧
          ∀ later next, current ≤ later → busyPercent previous later elapsed = some next →
            rate ≤ next := by
  refine ⟨busyPercentInWords_eq h, ?_, ?_⟩
  · rw [busyPercent_eq, ite_eq_right_iff]
    simp only [reduceCtorEq, imp_false, not_and_or, UInt64.not_le, Nat.not_lt, Nat.le_zero,
      Nat.not_le]
  · intro rate hrate
    obtain ⟨⟨hle, hpos, hdelta⟩, htoNat⟩ := busyPercent_eq_some_iff.mp hrate
    have hsub : ((current.toNat - previous.toNat : Nat) : Int) =
        (current.toNat : Int) - previous.toNat :=
      Int.ofNat_sub (UInt64.le_iff_toNat_le.mp hle)
    refine ⟨?_, ?_, ?_, ?_⟩
    · rw [htoNat, ← hsub]
      exact isGreatest_halfUpPercent hpos
    · rw [UInt32.le_iff_toNat_le, htoNat]
      exact halfUpPercent_le hpos hdelta
    · intro hall
      apply UInt32.toNat_inj.mp
      rw [htoNat, hall, halfUpPercent_self hpos]
      rfl
    · intro later next hlater hnext
      obtain ⟨-, hnextToNat⟩ := busyPercent_eq_some_iff.mp hnext
      rw [UInt64.le_iff_toNat_le] at hlater
      rw [UInt32.le_iff_toNat_le, htoNat, hnextToNat]
      exact halfUpPercent_mono (Nat.sub_le_sub_right hlater _)

/-- One part in two hundred is half a percent and goes up. -/
theorem busyPercent_rounds_half_up_of_one_in_two_hundred :
    200 < 2 ^ 128 ∧ busyPercent 5 6 200 = some 1 ∧ (6 : UInt64) ≤ 205 ∧
      busyPercent 5 205 200 = some 100 ∧
      busyPercentInWords 5 6 200 = some (busyPercent 5 6 200) ∧
      IsGreatest {r : Int | 2 * ((200 : Nat) : Int) * r ≤
        200 * (((6 : UInt64).toNat : Int) - (5 : UInt64).toNat) + (200 : Nat)} 1 ∧
      (1 : UInt32) ≤ 100 := by
  have hrate : busyPercent 5 6 200 = some 1 := by decide
  have hnext : busyPercent 5 205 200 = some 100 := by decide
  obtain ⟨hwords, -, hrates⟩ := @busyPercent_rounds_half_up 5 6 200 (by decide)
  obtain ⟨hgreatest, -, -, hlater⟩ := hrates 1 hrate
  exact ⟨by decide, hrate, by decide, hnext, hwords, hgreatest,
    hlater 205 100 (by decide) hnext⟩

end GpuTelemetry
