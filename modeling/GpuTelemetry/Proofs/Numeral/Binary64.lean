import GpuTelemetry.Numeral.Binary64
import GpuTelemetry.Proofs.Numeral.Writing
import Mathlib.Algebra.Order.Field.Power
import Mathlib.Algebra.Order.Floor.Semifield
import Mathlib.Data.Int.Log
import Mathlib.Data.Rat.Floor
import Mathlib.Tactic.FieldSimp
import Mathlib.Tactic.Linarith
import Mathlib.Tactic.Positivity

/-!
# The float nearest to a number

A 64-bit float is a whole multiple of the power of two that the last of its 53
significant bits stands for. Rounding takes the nearest multiple, and of two at the
same distance the even one, so that every number has just one float. Percentages
are made whole afterwards with halves going up, and cut down to words. The floats
of the computation have exponents without bounds, and decimals with extreme powers
of ten do not even reach them, but their words are those of the real format.
-/

namespace GpuTelemetry

namespace Binary64

/-! ## Rounding to the nearest -/

/-- The power of two that the last significant bit of a float for `q` stands for. It is 52 places
below the leading bit, except that no bit stands for less than `2 ^ -1074`. -/
def lastPlace (q : ℚ) : ℤ :=
  max (Int.log 2 q - 52) (-1074)

/-- Whether `x` is the multiple of `2 ^ e` that is nearest to `q`, where of two at the same distance
it has to be the even one. -/
def NearestAt (e : ℤ) (q x : ℚ) : Prop :=
  ∃ k : ℕ, x = k * 2 ^ e ∧ 2 * |q - x| ≤ 2 ^ e ∧ (2 * |q - x| = 2 ^ e → Even k)

/-- Whether `x` is the float nearest to `q`. Numbers too large for the format have a multiple here
as well. -/
def Nearest (q x : ℚ) : Prop :=
  NearestAt (lastPlace q) q x

def value (x : Binary64) : ℚ :=
  x.numerator / 2 ^ x.scale

theorem roundHalfEven_spec (n : ℕ) {d : ℕ} (hd : 0 < d) :
    2 * |(n : ℤ) - roundHalfEven n d * d| ≤ d ∧
      (2 * |(n : ℤ) - roundHalfEven n d * d| = d → Even (roundHalfEven n d)) := by
  have hsplit : (n : ℤ) = (n / d : ℕ) * d + (n % d : ℕ) := by
    exact_mod_cast (Nat.div_add_mod' n d).symm
  have hlt : n % d < d := Nat.mod_lt n hd
  have hdown : |(n : ℤ) - (n / d : ℕ) * d| = (n % d : ℕ) := by
    rw [hsplit, add_sub_cancel_left, Int.abs_natCast]
  have hup : |(n : ℤ) - (n / d + 1 : ℕ) * d| = d - (n % d : ℕ) := by
    rw [hsplit, abs_sub_comm, abs_of_nonneg] <;> push_cast <;> linarith
  rw [roundHalfEven]
  split_ifs with hlow hhigh heven
  · rw [hdown]
    omega
  · rw [hup]
    omega
  · rw [hdown]
    exact ⟨by omega, fun _ => Nat.even_iff.mpr heven⟩
  · rw [hup]
    exact ⟨by omega, fun _ => Nat.even_iff.mpr (by omega)⟩

theorem nearestAt_roundHalfEven (n : ℕ) {d : ℕ} (hd : 0 < d) (e : ℤ) :
    NearestAt e (n / d * 2 ^ e) (roundHalfEven n d * 2 ^ e) := by
  obtain ⟨hnear, heven⟩ := roundHalfEven_spec n hd
  have hd' : (0 : ℚ) < d := by exact_mod_cast hd
  have hpow : (0 : ℚ) < 2 ^ e := by positivity
  have hdistance : 2 * |(n / d * 2 ^ e - roundHalfEven n d * 2 ^ e : ℚ)| * d =
      (2 * |(n : ℤ) - roundHalfEven n d * d| : ℤ) * 2 ^ e := by
    have hfactor : (n / d * 2 ^ e - roundHalfEven n d * 2 ^ e : ℚ) * d =
        (n - roundHalfEven n d * d) * 2 ^ e := by
      field_simp
    have habs := congrArg abs hfactor
    rw [abs_mul, abs_mul, abs_of_pos hd', abs_of_pos hpow] at habs
    push_cast
    rw [mul_assoc, habs, mul_assoc]
  refine ⟨roundHalfEven n d, rfl, ?_, fun heq => heven ?_⟩
  · rw [← mul_le_mul_iff_of_pos_right hd', hdistance, mul_comm _ (d : ℚ)]
    exact mul_le_mul_of_nonneg_right (by exact_mod_cast hnear) hpow.le
  · rw [heq, mul_comm] at hdistance
    exact_mod_cast (mul_right_cancel₀ hpow.ne' hdistance).symm

theorem exists_nearestAt (e : ℤ) {q : ℚ} (hq : 0 ≤ q) : ∃ x, NearestAt e q x := by
  have hscaled : 0 ≤ q * 2 ^ (-e) := by positivity
  have hself : ((q * 2 ^ (-e)).num.toNat / (q * 2 ^ (-e)).den * 2 ^ e : ℚ) = q := by
    have hnum : (((q * 2 ^ (-e)).num.toNat : ℤ) : ℚ) = (q * 2 ^ (-e)).num := by
      rw [Int.toNat_of_nonneg (Rat.num_nonneg.mpr hscaled)]
    rw [show (((q * 2 ^ (-e)).num.toNat : ℕ) : ℚ) = (q * 2 ^ (-e)).num by exact_mod_cast hnum,
      Rat.num_div_den, mul_assoc, ← zpow_add₀ two_ne_zero, neg_add_cancel, zpow_zero, mul_one]
  have hnear := nearestAt_roundHalfEven (q * 2 ^ (-e)).num.toNat (Rat.den_pos (q * 2 ^ (-e))) e
  rw [hself] at hnear
  exact ⟨_, hnear⟩

/-- Two multiples at the same distance are neighbours, and of two neighbours one is odd. -/
theorem NearestAt.unique {e : ℤ} {q x y : ℚ} (hx : NearestAt e q x) (hy : NearestAt e q y) :
    x = y := by
  obtain ⟨k, rfl, hk, hkEven⟩ := hx
  obtain ⟨l, rfl, hl, hlEven⟩ := hy
  have hpow : (0 : ℚ) < 2 ^ e := by positivity
  have hsum : |(k * 2 ^ e - l * 2 ^ e : ℚ)| ≤ |q - k * 2 ^ e| + |q - l * 2 ^ e| := by
    rw [abs_sub_comm q (k * 2 ^ e)]
    exact abs_sub_le _ q _
  have hgap : |(k * 2 ^ e - l * 2 ^ e : ℚ)| = |(k : ℤ) - l| * 2 ^ e := by
    rw [← sub_mul, abs_mul, abs_of_pos hpow]
    push_cast
    rfl
  have hclose : |(k : ℤ) - l| ≤ 1 := by
    have hone : (|(k : ℤ) - l| : ℤ) * (2 : ℚ) ^ e ≤ 1 * 2 ^ e := by
      rw [← hgap]
      linarith
    exact_mod_cast le_of_mul_le_mul_right hone hpow
  by_cases hkl : k = l
  · rw [hkl]
  · have hone : |(k : ℤ) - l| = 1 := by
      have hne : (k : ℤ) - l ≠ 0 := by omega
      have hpos := abs_pos.mpr hne
      omega
    rw [hone] at hgap
    push_cast at hgap
    have hkEven := hkEven (by linarith)
    have hlEven := hlEven (by linarith)
    rw [Nat.even_iff] at hkEven hlEven
    rcases (abs_eq zero_le_one).mp hone with hstep | hstep <;> omega

/-- The numbers of 53 significant bits, none of which stands for less than `2 ^ -1074`. -/
def IsFloat (x : ℚ) : Prop :=
  ∃ (k : ℕ) (e : ℤ), x = k * 2 ^ e ∧ k < 2 ^ 53 ∧ -1074 ≤ e

theorem NearestAt.le_of_multiple {e : ℤ} {q x : ℚ} (h : NearestAt e q x) (l : ℕ) :
    |q - x| ≤ |q - l * 2 ^ e| := by
  obtain ⟨k, rfl, hnear, -⟩ := h
  have hpow : (0 : ℚ) < 2 ^ e := by positivity
  by_cases hkl : k = l
  · rw [hkl]
  · -- another multiple is at least one step away
    have hstep : (1 : ℚ) ≤ |(k : ℚ) - l| := by
      exact_mod_cast Int.one_le_abs (show (k : ℤ) - l ≠ 0 by omega)
    have hgap : |(k * 2 ^ e - l * 2 ^ e : ℚ)| = |(k : ℚ) - l| * 2 ^ e := by
      rw [← sub_mul, abs_mul, abs_of_pos hpow]
    have htriangle := abs_sub_le (k * 2 ^ e : ℚ) q (l * 2 ^ e)
    rw [abs_sub_comm _ q, hgap] at htriangle
    have hwide : (2 : ℚ) ^ e ≤ |(k : ℚ) - l| * 2 ^ e := le_mul_of_one_le_left hpow.le hstep
    linarith

theorem lt_zpow_lastPlace (q : ℚ) : q < 2 ^ (lastPlace q + 53) := by
  have hlog : q < (2 : ℚ) ^ (Int.log 2 q + 1) := by
    exact_mod_cast Int.lt_zpow_succ_log_self one_lt_two q
  refine hlog.trans_le (zpow_le_zpow_right₀ one_le_two ?_)
  rw [lastPlace]
  omega

theorem Nearest.isFloat {q x : ℚ} (h : Nearest q x) : IsFloat x := by
  obtain ⟨k, rfl, hnear, -⟩ := h
  have hpow : (0 : ℚ) < 2 ^ lastPlace q := by positivity
  have hbound : k ≤ 2 ^ 53 := by
    have hq := lt_zpow_lastPlace q
    rw [zpow_add₀ two_ne_zero, mul_comm] at hq
    have hdistance := neg_abs_le (q - k * 2 ^ lastPlace q)
    have hlt : (k : ℚ) * 2 ^ lastPlace q < (2 ^ 53 + 1) * 2 ^ lastPlace q := by
      have hexponent : (2 : ℚ) ^ (53 : ℤ) = 2 ^ 53 := by norm_num
      rw [hexponent] at hq
      linarith
    have hlt' := lt_of_mul_lt_mul_right hlt hpow.le
    exact Nat.le_of_lt_succ (by exact_mod_cast hlt')
  have hplace : -1074 ≤ lastPlace q := le_max_right _ _
  rcases hbound.eq_or_lt with rfl | hlt
  · -- the number has gained a bit and loses the last one, which is zero
    refine ⟨2 ^ 52, lastPlace q + 1, ?_, by norm_num, by omega⟩
    rw [zpow_add₀ two_ne_zero]
    push_cast
    ring
  · exact ⟨k, lastPlace q, rfl, hlt, hplace⟩

/-- No float is nearer. -/
theorem Nearest.le_of_isFloat {q x y : ℚ} (h : Nearest q x) (hq : 0 ≤ q) (hy : IsFloat y) :
    |q - x| ≤ |q - y| := by
  obtain ⟨k, e, rfl, hk, he⟩ := hy
  by_cases hplace : lastPlace q ≤ e
  · have hmultiple : (k * 2 ^ e : ℚ) = (k * 2 ^ (e - lastPlace q).toNat : ℕ) * 2 ^ lastPlace q := by
      rw [Nat.cast_mul, Nat.cast_pow, Nat.cast_ofNat, mul_assoc, ← zpow_natCast,
        ← zpow_add₀ two_ne_zero, Int.toNat_of_nonneg (by omega), sub_add_cancel]
    rw [hmultiple]
    exact NearestAt.le_of_multiple h _
  · rcases hq.eq_or_lt with rfl | hpos
    · have hzero := NearestAt.le_of_multiple h 0
      simp only [Nat.cast_zero, zero_mul, sub_zero, abs_zero] at hzero
      exact hzero.trans (abs_nonneg _)
    · -- all floats with a smaller last place are below the leading bit of `q`
      have htop : (2 ^ 52 : ℕ) * (2 : ℚ) ^ lastPlace q = 2 ^ Int.log 2 q := by
        have hlast : lastPlace q = Int.log 2 q - 52 := by
          rw [lastPlace] at hplace ⊢
          omega
        rw [Nat.cast_pow, Nat.cast_ofNat, hlast, ← zpow_natCast, ← zpow_add₀ two_ne_zero]
        congr 1
        ring
      have hbelow : (k * 2 ^ e : ℚ) ≤ 2 ^ Int.log 2 q := by
        have hk' : (k : ℚ) ≤ 2 ^ 53 := by exact_mod_cast hk.le
        rw [← htop]
        calc (k * 2 ^ e : ℚ) ≤ 2 ^ 53 * 2 ^ (lastPlace q - 1) := by
              gcongr
              · exact one_le_two
              · omega
          _ = (2 ^ 52 : ℕ) * 2 ^ lastPlace q := by
              rw [zpow_sub_one₀ two_ne_zero]
              push_cast
              ring
      have hself : (2 : ℚ) ^ Int.log 2 q ≤ q := by
        exact_mod_cast Int.zpow_log_le_self one_lt_two hpos
      have hnear := NearestAt.le_of_multiple h (2 ^ 52)
      rw [htop, abs_of_nonneg (sub_nonneg.mpr hself)] at hnear
      rw [abs_of_nonneg (sub_nonneg.mpr (hbelow.trans hself))]
      linarith

/-! ## Floats of ratios -/

theorem nearestAt_atPlace (n d : ℕ) (place : ℤ) (hd : 0 < d) :
    NearestAt (-place) (n / d) (atPlace n d place).value := by
  cases place with
  | ofNat s =>
      have hnear := nearestAt_roundHalfEven (n <<< s) hd (-(s : ℤ))
      have hself : ((n <<< s : ℕ) / d * 2 ^ (-(s : ℤ)) : ℚ) = n / d := by
        rw [Nat.shiftLeft_eq, zpow_neg, zpow_natCast]
        push_cast
        field_simp
      have hvalue :
          (atPlace n d (.ofNat s)).value = roundHalfEven (n <<< s) d * 2 ^ (-(s : ℤ)) := by
        rw [value, atPlace, zpow_neg, zpow_natCast, div_eq_mul_inv]
      rw [hself, ← hvalue] at hnear
      exact hnear
  | negSucc s =>
      have hd' : 0 < d <<< (s + 1) := by
        rw [Nat.shiftLeft_eq]
        positivity
      have hnear := nearestAt_roundHalfEven n hd' ((s + 1 : ℕ) : ℤ)
      have hself : (n / (d <<< (s + 1) : ℕ) * 2 ^ ((s + 1 : ℕ) : ℤ) : ℚ) = n / d := by
        rw [Nat.shiftLeft_eq, zpow_natCast]
        push_cast
        field_simp
      have hvalue : (atPlace n d (.negSucc s)).value =
          roundHalfEven n (d <<< (s + 1)) * 2 ^ ((s + 1 : ℕ) : ℤ) := by
        rw [value, atPlace, Nat.shiftLeft_eq, zpow_natCast]
        push_cast
        rw [pow_zero, div_one]
      rw [hself, ← hvalue] at hnear
      exact hnear

theorem unitsAt_eq_floor (n d : ℕ) (place : ℤ) :
    unitsAt n d place = ⌊(n / d * 2 ^ place : ℚ)⌋₊ := by
  cases place with
  | ofNat s =>
      rw [unitsAt, ← Nat.floor_div_eq_div (K := ℚ), Nat.shiftLeft_eq, Int.ofNat_eq_natCast,
        zpow_natCast]
      push_cast
      rw [div_mul_eq_mul_div]
  | negSucc s =>
      rw [unitsAt, ← Nat.floor_div_eq_div (K := ℚ), Nat.shiftLeft_eq, zpow_negSucc]
      push_cast
      rw [← div_eq_mul_inv, div_div]

/-- The leading bit of a ratio is where those of its terms put it, or one place below. -/
theorem zpow_lt_ratio_lt {n d : ℕ} (hn : n ≠ 0) (hd : d ≠ 0) :
    (2 : ℚ) ^ ((Nat.log2 n : ℤ) - Nat.log2 d - 1) < n / d ∧
      (n / d : ℚ) < 2 ^ ((Nat.log2 n : ℤ) - Nat.log2 d + 1) := by
  have hnLow : (2 : ℚ) ^ Nat.log2 n ≤ n := by exact_mod_cast Nat.log2_self_le hn
  have hnHigh : (n : ℚ) < 2 ^ (Nat.log2 n + 1) := by exact_mod_cast Nat.lt_log2_self
  have hdLow : (2 : ℚ) ^ Nat.log2 d ≤ d := by exact_mod_cast Nat.log2_self_le hd
  have hdHigh : (d : ℚ) < 2 ^ (Nat.log2 d + 1) := by exact_mod_cast Nat.lt_log2_self
  have hd' : (0 : ℚ) < d := by exact_mod_cast Nat.pos_of_ne_zero hd
  constructor
  · rw [lt_div_iff₀ hd']
    calc (2 : ℚ) ^ ((Nat.log2 n : ℤ) - Nat.log2 d - 1) * d
        < 2 ^ ((Nat.log2 n : ℤ) - Nat.log2 d - 1) * 2 ^ (Nat.log2 d + 1) := by gcongr
      _ = 2 ^ Nat.log2 n := by
          rw [← zpow_natCast, ← zpow_natCast, ← zpow_add₀ two_ne_zero]
          congr 1
          push_cast
          ring
      _ ≤ n := hnLow
  · rw [div_lt_iff₀ hd']
    calc (n : ℚ) < 2 ^ (Nat.log2 n + 1) := hnHigh
      _ = 2 ^ ((Nat.log2 n : ℤ) - Nat.log2 d + 1) * 2 ^ Nat.log2 d := by
          rw [← zpow_natCast, ← zpow_natCast, ← zpow_add₀ two_ne_zero]
          congr 1
          push_cast
          ring
      _ ≤ 2 ^ ((Nat.log2 n : ℤ) - Nat.log2 d + 1) * d := by gcongr

theorem log_eq_of_le_of_lt {q : ℚ} {k : ℤ} (hlow : (2 : ℚ) ^ k ≤ q) (hhigh : q < 2 ^ (k + 1)) :
    Int.log 2 q = k := by
  have hq : 0 < q := lt_of_lt_of_le (by positivity) hlow
  have hge := (Int.zpow_le_iff_le_log (b := 2) (by norm_num) hq).mp (by exact_mod_cast hlow)
  have hlt := (Int.lt_zpow_iff_log_lt (b := 2) (by norm_num) hq).mp (by exact_mod_cast hhigh)
  omega

theorem unitsAt_lt_iff (n d : ℕ) (top : ℤ) :
    unitsAt n d (52 - top) < 1 <<< 52 ↔ (n / d : ℚ) < 2 ^ top := by
  have hcancel : (2 : ℚ) ^ top * (2 : ℚ) ^ (52 - top) = (1 <<< 52 : ℕ) := by
    rw [← zpow_add₀ two_ne_zero, add_sub_cancel, Nat.shiftLeft_eq]
    norm_num
  rw [unitsAt_eq_floor, Nat.floor_lt (by positivity), ← hcancel]
  exact mul_lt_mul_iff_of_pos_right (by positivity)

/-- The float of a ratio has 53 significant bits. -/
theorem nearestAt_ofRatio {n d : ℕ} (hn : n ≠ 0) (hd : d ≠ 0) :
    NearestAt (Int.log 2 (n / d : ℚ) - 52) (n / d) (ofRatio n d).value := by
  obtain ⟨hlow, hhigh⟩ := zpow_lt_ratio_lt hn hd
  rw [ofRatio, if_neg hn]
  dsimp only
  generalize (Nat.log2 n : ℤ) - Nat.log2 d = top at hlow hhigh ⊢
  have hd' := Nat.pos_of_ne_zero hd
  split
  next hless =>
    have hlog : Int.log 2 (n / d : ℚ) = top - 1 :=
      log_eq_of_le_of_lt hlow.le (by rw [sub_add_cancel]; exact (unitsAt_lt_iff n d top).mp hless)
    rw [hlog, show top - 1 - 52 = -(52 - top + 1) by ring]
    exact nearestAt_atPlace n d _ hd'
  next hmore =>
    have hlog : Int.log 2 (n / d : ℚ) = top :=
      log_eq_of_le_of_lt (not_lt.mp (mt (unitsAt_lt_iff n d top).mpr hmore)) hhigh
    rw [hlog, show top - 52 = -(52 - top) by ring]
    exact nearestAt_atPlace n d _ hd'

/-! ## Rounding to words -/

theorem round_eq_floor (x : Binary64) : round x = ⌊x.value + 1 / 2⌋₊ := by
  have hsum : x.value + (1 / 2 : ℚ) =
      (2 * x.numerator + 1 <<< x.scale : ℕ) / (2 ^ (x.scale + 1) : ℕ) := by
    rw [value, Nat.shiftLeft_eq]
    push_cast
    field_simp
    ring
  rw [hsum, Nat.floor_div_eq_div, round, Nat.shiftRight_eq_div_pow]

/-- Less than a quarter makes nothing. -/
theorem floor_of_small {e : ℤ} {q x : ℚ} (h : NearestAt e q x) (hsmall : q < 1 / 4)
    (hplace : (2 : ℚ) ^ e ≤ 1 / 4) : ⌊x + 1 / 2⌋₊ = 0 := by
  obtain ⟨k, hx, hnear, -⟩ := h
  have hdistance := neg_abs_le (q - x)
  rw [Nat.floor_eq_zero]
  linarith

/-- What is far out of the range of a word is so after rounding. -/
theorem le_floor_of_large {e : ℤ} {q x : ℚ} (h : NearestAt e q x) (hlarge : 2 ^ 33 ≤ q)
    (hplace : (2 : ℚ) ^ e ≤ q) : 2 ^ 32 - 1 ≤ ⌊x + 1 / 2⌋₊ := by
  obtain ⟨k, hx, hnear, -⟩ := h
  have hdistance := le_abs_self (q - x)
  refine Nat.le_floor ?_
  push_cast
  linarith

theorem zpow_log_sub_le {q : ℚ} (hq : 0 < q) : (2 : ℚ) ^ (Int.log 2 q - 52) ≤ q := by
  have hlog : (2 : ℚ) ^ Int.log 2 q ≤ q := by exact_mod_cast Int.zpow_log_le_self one_lt_two hq
  refine le_trans (zpow_le_zpow_right₀ one_le_two ?_) hlog
  omega

theorem zpow_lastPlace_le_quarter {q : ℚ} (hq : 0 ≤ q) (hsmall : q < 1 / 4) :
    (2 : ℚ) ^ lastPlace q ≤ 1 / 4 := by
  have hexponent : lastPlace q ≤ -2 := by
    rcases hq.eq_or_lt with rfl | hpos
    · simp [lastPlace]
    · have hlog : Int.log 2 q < -2 :=
        (Int.lt_zpow_iff_log_lt one_lt_two hpos).mp (by norm_num; linarith)
      rw [lastPlace]
      omega
  calc (2 : ℚ) ^ lastPlace q ≤ 2 ^ (-2 : ℤ) := zpow_le_zpow_right₀ one_le_two hexponent
    _ = 1 / 4 := by norm_num

theorem zpow_lastPlace_le {q : ℚ} (hq : 1 ≤ q) : (2 : ℚ) ^ lastPlace q ≤ q := by
  have hpos : 0 < q := one_pos.trans_le hq
  have hlog : 0 ≤ Int.log 2 q := (Int.zpow_le_iff_le_log one_lt_two hpos).mp (by simpa using hq)
  have hplace : lastPlace q = Int.log 2 q - 52 := by
    rw [lastPlace]
    omega
  rw [hplace]
  exact zpow_log_sub_le hpos

/-- The word of a ratio is that of the float nearest to it. Below the normal numbers of the format
the computation has more bits than the float, which no word shows. -/
theorem exists_nearest_ofRatio (n : ℕ) {d : ℕ} (hd : d ≠ 0) :
    ∃ x, Nearest (n / d) x ∧ round (ofRatio n d) = ⌊x + 1 / 2⌋₊ := by
  by_cases hn : n = 0
  · subst hn
    have hpow : (0 : ℚ) ≤ 2 ^ lastPlace 0 := by positivity
    refine ⟨0, ⟨0, by simp, by simpa using hpow, fun _ => Even.zero⟩, ?_⟩
    rw [round_eq_floor, ofRatio, if_pos rfl, value]
    simp
  · have hq : (0 : ℚ) < n / d := by positivity
    have hnear := nearestAt_ofRatio hn hd
    by_cases hnormal : -1074 ≤ Int.log 2 (n / d : ℚ) - 52
    · refine ⟨_, ?_, round_eq_floor _⟩
      rw [Nearest, lastPlace, max_eq_left hnormal]
      exact hnear
    · obtain ⟨x, hx⟩ := exists_nearestAt (lastPlace (n / d)) hq.le
      have hsmall : (n / d : ℚ) < 1 / 4 := by
        have hlog : Int.log 2 (n / d : ℚ) < -2 := by omega
        have hlt := (Int.lt_zpow_iff_log_lt (b := 2) one_lt_two hq).mpr hlog
        norm_num at hlt ⊢
        linarith
      refine ⟨x, hx, ?_⟩
      rw [round_eq_floor, floor_of_small hx hsmall (zpow_lastPlace_le_quarter hq.le hsmall),
        floor_of_small hnear hsmall ((zpow_log_sub_le hq).trans hsmall.le)]

theorem lt_pow_decimalDigits (n : ℕ) : n < 10 ^ decimalDigits n := by
  induction n using Nat.strongRecOn with
  | ind n ih =>
      by_cases h : n < 10
      · rw [decimalDigits, Numeral.write_of_lt h]
        exact h
      · have htenth := ih (n / 10) (by omega)
        rw [decimalDigits] at htenth ⊢
        rw [Numeral.write_of_le (Nat.le_of_not_lt h), List.length_append, List.length_singleton,
          Nat.pow_succ]
        omega

/-- A power of ten at the limit or beyond it takes every number out of the range of a word. -/
theorem le_floor_of_huge {m k : ℕ} {x : ℚ} (hm : m ≠ 0) (hk : exponentLimit ≤ k)
    (hx : Nearest (m * 10 ^ (k : ℤ)) x) : 2 ^ 32 - 1 ≤ ⌊x + 1 / 2⌋₊ := by
  have hlarge : (2 : ℚ) ^ 33 ≤ m * (10 : ℚ) ^ (k : ℤ) := by
    have hone : (1 : ℚ) ≤ m := by exact_mod_cast Nat.one_le_iff_ne_zero.mpr hm
    have hpow : (10 : ℚ) ^ 10 ≤ 10 ^ k := pow_le_pow_right₀ (by norm_num) (le_trans (by decide) hk)
    rw [zpow_natCast]
    calc (2 : ℚ) ^ 33 ≤ 1 * (10 : ℚ) ^ 10 := by norm_num
      _ ≤ m * (10 : ℚ) ^ k := by gcongr
  exact le_floor_of_large hx hlarge (zpow_lastPlace_le (le_trans (by norm_num) hlarge))

/-- A number with fewer digits than places after the point is far below one half. -/
theorem floor_of_tiny {m k : ℕ} {x : ℚ} (hk : decimalDigits m + exponentLimit < k + 1)
    (hx : Nearest (m * 10 ^ Int.negSucc k) x) : ⌊x + 1 / 2⌋₊ = 0 := by
  have hsmall : (m * 10 ^ Int.negSucc k : ℚ) < 1 / 4 := by
    have hdigits : (m : ℚ) < 10 ^ decimalDigits m := by exact_mod_cast lt_pow_decimalDigits m
    have hpow : (10 : ℚ) ^ (decimalDigits m + 1) ≤ 10 ^ (k + 1) :=
      pow_le_pow_right₀ (by norm_num) (by rw [exponentLimit] at hk; omega)
    rw [zpow_negSucc, ← div_eq_mul_inv, div_lt_iff₀ (by positivity)]
    rw [pow_succ] at hpow
    linarith
  exact floor_of_small hx hsmall (zpow_lastPlace_le_quarter (by positivity) hsmall)

/-- The word of a decimal is that of the float nearest to it. -/
theorem exists_nearest_ofDecimal (m : ℕ) (e : ℤ) :
    ∃ x, Nearest (m * 10 ^ e) x ∧
      min (round (ofDecimal m e)) (2 ^ 32 - 1) = min ⌊x + 1 / 2⌋₊ (2 ^ 32 - 1) := by
  have hnonneg : (0 : ℚ) ≤ m * 10 ^ e := by positivity
  cases e with
  | ofNat k =>
      obtain ⟨y, hy, hround⟩ := exists_nearest_ofRatio (m * 10 ^ min k exponentLimit) one_ne_zero
      rw [ofDecimal, Nat.pow_eq, hround]
      have hself : ((m * 10 ^ min k exponentLimit : ℕ) / (1 : ℕ) : ℚ) =
          m * 10 ^ ((min k exponentLimit : ℕ) : ℤ) := by
        rw [Nat.cast_one, div_one, zpow_natCast, Nat.cast_mul, Nat.cast_pow, Nat.cast_ofNat]
      rw [hself] at hy
      by_cases hexact : m = 0 ∨ k ≤ exponentLimit
      · have hsame : (m * 10 ^ ((min k exponentLimit : ℕ) : ℤ) : ℚ) = m * 10 ^ (k : ℤ) := by
          rcases hexact with rfl | hk
          · simp
          · rw [min_eq_left hk]
        rw [hsame] at hy
        exact ⟨y, hy, rfl⟩
      · obtain ⟨hm, hk⟩ := not_or.mp hexact
        obtain ⟨x, hx⟩ := exists_nearestAt (lastPlace (m * 10 ^ (k : ℤ))) hnonneg
        rw [min_eq_right (Nat.le_of_not_le hk)] at hy
        refine ⟨x, hx, ?_⟩
        rw [min_eq_right (le_floor_of_huge hm le_rfl hy),
          min_eq_right (le_floor_of_huge hm (Nat.le_of_not_le hk) hx)]
  | negSucc k =>
      rw [ofDecimal, Nat.pow_eq]
      split
      next htiny =>
        obtain ⟨x, hx⟩ := exists_nearestAt (lastPlace (m * 10 ^ Int.negSucc k)) hnonneg
        refine ⟨x, hx, ?_⟩
        rw [floor_of_tiny htiny hx]
        rfl
      next =>
        obtain ⟨x, hx, hround⟩ := exists_nearest_ofRatio m (d := 10 ^ (k + 1)) (by positivity)
        have hself : (m / (10 ^ (k + 1) : ℕ) : ℚ) = m * 10 ^ Int.negSucc k := by
          rw [zpow_negSucc, ← div_eq_mul_inv, Nat.cast_pow, Nat.cast_ofNat]
        rw [hself] at hx
        exact ⟨x, hx, congrArg (min · (2 ^ 32 - 1)) hround⟩

end Binary64

/-- The word for a decimal: its float made whole with halves going up, as far as there is a word for
it, and zero for a negative number or none. -/
inductive Decimal.RoundsTo : Decimal → UInt32 → Prop
  | finite {m : ℕ} {e : ℤ} {x : ℚ} {word : UInt32} :
    Binary64.Nearest (m * 10 ^ e) x → word.toNat = min ⌊x + 1 / 2⌋₊ (2 ^ 32 - 1) →
    RoundsTo (finite false m e) word
  | infinite {word : UInt32} : word.toNat = 2 ^ 32 - 1 → RoundsTo (infinite false) word
  | negative {m : ℕ} {e : ℤ} : RoundsTo (finite true m e) 0
  | negativeInfinite : RoundsTo (infinite true) 0
  | notANumber : RoundsTo notANumber 0

theorem Decimal.toWord_round_eq_iff {decimal : Decimal} {word : UInt32} :
    decimal.toWord Binary64.round = word ↔ decimal.RoundsTo word := by
  have hsaturate (n : ℕ) : (Word.saturate n : UInt32).toNat = min n (2 ^ 32 - 1) :=
    @Word.toNat_saturate UInt32 _ n
  constructor
  · rintro rfl
    cases decimal with
    | finite negative m e =>
        cases negative with
        | false =>
            obtain ⟨x, hx, hround⟩ := Binary64.exists_nearest_ofDecimal m e
            exact .finite hx ((hsaturate _).trans hround)
        | true => exact .negative
    | infinite negative =>
        cases negative with
        | false => exact .infinite (hsaturate _)
        | true => exact .negativeInfinite
    | notANumber => exact .notANumber
  · intro h
    cases h with
    | @finite m e x word hx hword =>
        obtain ⟨y, hy, hround⟩ := Binary64.exists_nearest_ofDecimal m e
        rw [hx.unique hy, ← hround, ← hsaturate] at hword
        exact (UInt32.toNat_inj.mp hword).symm
    | infinite hword => exact UInt32.toNat_inj.mp ((hsaturate _).trans hword.symm)
    | negative => rfl
    | negativeInfinite => rfl
    | notANumber => rfl

end GpuTelemetry
