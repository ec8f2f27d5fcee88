import Mathlib.Data.Int.Log
import Mathlib.Data.Rat.Floor
import Mathlib.Algebra.Order.Field.Basic
import Mathlib.Tactic.Linarith

/-!
Rounding of rational numbers to binary floating-point numbers of a given precision, to the
nearest one and on a tie to the even one. The exponent is bounded below only.
-/

namespace EasyNav.BinaryRounding

/-- Nearest integer, ties to even. -/
def roundHalfEven (q : ℚ) : Int :=
  let low := ⌊q⌋
  if q - low < 1 / 2 then low
  else if 1 / 2 < q - low then low + 1
  else if low % 2 = 0 then low else low + 1

section Integers

variable {q r : ℚ}

theorem roundHalfEven_bounds (q : ℚ) : ⌊q⌋ ≤ roundHalfEven q ∧ roundHalfEven q ≤ ⌊q⌋ + 1 := by
  rw [roundHalfEven]
  split
  · exact ⟨le_rfl, by omega⟩
  · split
    · exact ⟨by omega, le_rfl⟩
    · split
      · exact ⟨le_rfl, by omega⟩
      · exact ⟨by omega, le_rfl⟩

theorem roundHalfEven_intCast (n : Int) : roundHalfEven n = n := by
  rw [roundHalfEven, Int.floor_intCast]
  simp

theorem abs_roundHalfEven_sub_le (q : ℚ) : |roundHalfEven q - q| ≤ 1 / 2 := by
  have hlow := Int.floor_le q
  have hhigh := Int.lt_floor_add_one q
  rw [roundHalfEven, abs_le]
  split
  · constructor <;> linarith
  · split
    · push_cast
      constructor <;> linarith
    · split
      · constructor <;> linarith
      · push_cast
        constructor <;> linarith

theorem roundHalfEven_mono (h : q ≤ r) : roundHalfEven q ≤ roundHalfEven r := by
  rcases (Int.floor_mono h).lt_or_eq with hlt | heq
  · exact (roundHalfEven_bounds q).2.trans ((Int.add_one_le_of_lt hlt).trans
      (roundHalfEven_bounds r).1)
  · have hrest : q - ⌊r⌋ ≤ r - ⌊r⌋ := sub_le_sub_right h _
    rw [roundHalfEven, roundHalfEven, heq]
    split
    · exact (roundHalfEven_bounds r).1
    · rename_i hq
      have hr : ¬ r - ⌊r⌋ < 1 / 2 := by linarith
      rw [if_neg hr]
      split
      · have hmore : 1 / 2 < r - ⌊r⌋ := by linarith
        rw [if_pos hmore]
      · split
        · split
          · omega
          · exact le_rfl
        · split <;> exact le_rfl

theorem floor_neg_of_ne (h : (⌊q⌋ : ℚ) ≠ q) : ⌊-q⌋ = -⌊q⌋ - 1 := by
  have hlow : (⌊q⌋ : ℚ) < q := lt_of_le_of_ne (Int.floor_le q) h
  have hhigh := Int.lt_floor_add_one q
  rw [Int.floor_eq_iff]
  push_cast
  constructor <;> linarith

theorem roundHalfEven_neg (q : ℚ) : roundHalfEven (-q) = -roundHalfEven q := by
  by_cases hwhole : (⌊q⌋ : ℚ) = q
  · rw [← hwhole, ← Int.cast_neg, roundHalfEven_intCast, roundHalfEven_intCast]
  · have hrest : -q - (-⌊q⌋ - 1 : Int) = 1 - (q - ⌊q⌋) := by
      push_cast
      ring
    rw [roundHalfEven, roundHalfEven, floor_neg_of_ne hwhole, hrest]
    rcases lt_trichotomy (q - ⌊q⌋) (1 / 2) with hbelow | hhalf | habove
    · rw [if_pos hbelow, if_neg (by linarith), if_pos (by linarith)]
      ring
    · have hsame : (1 : ℚ) - 1 / 2 = 1 / 2 := by norm_num
      rw [hhalf, hsame, if_neg (lt_irrefl _), if_neg (lt_irrefl _), if_neg (lt_irrefl _),
        if_neg (lt_irrefl _)]
      by_cases heven : ⌊q⌋ % 2 = 0
      · rw [if_neg (by omega), if_pos heven]
        ring
      · rw [if_pos (by omega), if_neg heven]
        ring
    · rw [if_pos (by linarith), if_neg (by linarith), if_pos habove]
      ring

end Integers

section Floating

variable {precision : Nat} {least : Int} {x y : ℚ}

/-- The exponent of the last place of a number like `x`. -/
def lastPlace (precision : Nat) (least : Int) (x : ℚ) : Int :=
  max least (Int.log 2 |x| + 1 - precision)

def round (precision : Nat) (least : Int) (x : ℚ) : ℚ :=
  roundHalfEven (x / 2 ^ lastPlace precision least x) * 2 ^ lastPlace precision least x

theorem two_zpow_pos (e : Int) : (0 : ℚ) < 2 ^ e := zpow_pos two_pos e

theorem two_zpow_le {d e : Int} (h : d ≤ e) : (2 : ℚ) ^ d ≤ 2 ^ e :=
  zpow_le_zpow_right₀ one_le_two h

theorem abs_lt_two_zpow (x : ℚ) : |x| < (2 : ℚ) ^ (Int.log 2 |x| + 1) :=
  Int.lt_zpow_succ_log_self one_lt_two |x|

theorem two_zpow_log_le (hx : x ≠ 0) : (2 : ℚ) ^ Int.log 2 |x| ≤ |x| :=
  Int.zpow_log_le_self one_lt_two (abs_pos.mpr hx)

theorem round_zero : round precision least 0 = 0 := by
  have hzero := roundHalfEven_intCast 0
  rw [Int.cast_zero] at hzero
  rw [round, zero_div, hzero, Int.cast_zero, zero_mul]

theorem mul_two_zpow {d e : Int} (h : d ≤ e) (n : Int) :
    ∃ m : Int, (n : ℚ) * 2 ^ e = m * 2 ^ d := by
  obtain ⟨k, hk⟩ := Int.eq_ofNat_of_zero_le (sub_nonneg.mpr h)
  refine ⟨n * 2 ^ k, ?_⟩
  have he : e = k + d := by omega
  rw [he, zpow_add₀ two_ne_zero, zpow_natCast]
  push_cast
  ring

/-- Rounding does not pass a multiple of the last place. -/
theorem round_le {n : Int} {e : Int} (hplace : lastPlace precision least x ≤ e)
    (h : x ≤ n * 2 ^ e) : round precision least x ≤ n * 2 ^ e := by
  obtain ⟨m, hm⟩ := mul_two_zpow hplace n
  have hpos := two_zpow_pos (lastPlace precision least x)
  rw [hm] at h ⊢
  refine mul_le_mul_of_nonneg_right (Int.cast_le.mpr ?_) hpos.le
  rw [← roundHalfEven_intCast m]
  exact roundHalfEven_mono ((div_le_iff₀ hpos).mpr h)

theorem le_round {n : Int} {e : Int} (hplace : lastPlace precision least x ≤ e)
    (h : n * 2 ^ e ≤ x) : n * 2 ^ e ≤ round precision least x := by
  obtain ⟨m, hm⟩ := mul_two_zpow hplace n
  have hpos := two_zpow_pos (lastPlace precision least x)
  rw [hm] at h ⊢
  refine mul_le_mul_of_nonneg_right (Int.cast_le.mpr ?_) hpos.le
  rw [← roundHalfEven_intCast m]
  exact roundHalfEven_mono ((le_div_iff₀ hpos).mpr h)

theorem round_eq_self {n : Int} {e : Int}
    (hplace : lastPlace precision least (n * 2 ^ e) ≤ e) :
    round precision least (n * 2 ^ e) = n * 2 ^ e :=
  (round_le hplace le_rfl).antisymm (le_round hplace le_rfl)

theorem lastPlace_le {k : Int} (h : |x| < 2 ^ k) (hx : x ≠ 0) :
    lastPlace precision least x ≤ max least (k - precision) := by
  have hlog : Int.log 2 |x| < k := (Int.lt_zpow_iff_log_lt one_lt_two (abs_pos.mpr hx)).mp h
  rw [lastPlace]
  exact max_le_max le_rfl (by omega)

theorem round_le_two_zpow {k : Int} (hk : least ≤ k) (h : |x| < 2 ^ k) :
    round precision least x ≤ 2 ^ k := by
  rcases eq_or_ne x 0 with rfl | hx
  · rw [round_zero]
    exact (two_zpow_pos k).le
  · have hplace : lastPlace precision least x ≤ k :=
      (lastPlace_le h hx).trans (max_le hk (by omega))
    have hle : x ≤ (1 : Int) * 2 ^ k := by
      rw [Int.cast_one, one_mul]
      exact (le_abs_self x).trans h.le
    have hround := round_le hplace hle
    rwa [Int.cast_one, one_mul] at hround

theorem round_intCast (hleast : least ≤ 0) {n : Int} (hn : |(n : ℚ)| < 2 ^ (precision : Int)) :
    round precision least n = n := by
  have hcast : (n : ℚ) = n * 2 ^ (0 : Int) := by rw [zpow_zero, mul_one]
  rcases eq_or_ne n 0 with rfl | hne
  · rw [Int.cast_zero]
    exact round_zero
  · have hplace : lastPlace precision least (n : ℚ) ≤ max least (precision - precision) :=
      lastPlace_le hn (Int.cast_ne_zero.mpr hne)
    rw [hcast]
    apply round_eq_self
    rw [← hcast]
    exact hplace.trans (max_le hleast (by omega))

theorem round_neg (x : ℚ) : round precision least (-x) = -round precision least x := by
  rw [round, round, lastPlace, lastPlace, abs_neg, neg_div, roundHalfEven_neg, Int.cast_neg,
    neg_mul]

theorem round_nonneg (h : 0 ≤ x) : 0 ≤ round precision least x := by
  have hzero : ((0 : Int) : ℚ) * 2 ^ lastPlace precision least x = 0 := by
    rw [Int.cast_zero, zero_mul]
  rw [← hzero]
  apply le_round le_rfl
  rwa [hzero]

theorem round_mono (hprecision : 1 ≤ precision) (hx : 0 ≤ x) (h : x ≤ y) :
    round precision least x ≤ round precision least y := by
  rcases hx.eq_or_lt with rfl | hx
  · rw [round_zero]
    exact round_nonneg h
  have hy := hx.trans_le h
  have hlog : Int.log 2 |x| ≤ Int.log 2 |y| := by
    rw [abs_of_pos hx, abs_of_pos hy]
    exact Int.log_mono_right hx h
  have hplaces : lastPlace precision least x ≤ lastPlace precision least y :=
    max_le_max le_rfl (by omega)
  rcases hplaces.eq_or_lt with heq | hlt
  · have hpos := two_zpow_pos (lastPlace precision least y)
    rw [round, round, heq]
    refine mul_le_mul_of_nonneg_right (Int.cast_le.mpr (roundHalfEven_mono ?_)) hpos.le
    exact div_le_div_of_nonneg_right h hpos.le
  · -- There is a power of two between them.
    have hplace : lastPlace precision least y = Int.log 2 |y| + 1 - precision := by
      rw [lastPlace] at hlt ⊢
      exact max_eq_right (le_of_lt ((lt_max_iff.mp
        ((le_max_left _ _).trans_lt hlt)).resolve_left (lt_irrefl _)))
    have hone : (2 : ℚ) ^ Int.log 2 |y| = ((1 : Int) : ℚ) * 2 ^ Int.log 2 |y| := by
      rw [Int.cast_one, one_mul]
    have hbelow : x ≤ ((1 : Int) : ℚ) * 2 ^ Int.log 2 |y| := by
      have hlast : Int.log 2 |x| + 1 - precision ≤ lastPlace precision least x :=
        le_max_right _ _
      rw [← hone]
      exact (le_abs_self x).trans ((abs_lt_two_zpow x).le.trans (two_zpow_le (by omega)))
    have habove : ((1 : Int) : ℚ) * 2 ^ Int.log 2 |y| ≤ y := by
      rw [← hone]
      exact (two_zpow_log_le hy.ne').trans (abs_of_pos hy).le
    exact (round_le (by omega) hbelow).trans (le_round (by omega) habove)

theorem abs_round_sub_le (x : ℚ) :
    |round precision least x - x| ≤ 2 ^ lastPlace precision least x / 2 := by
  have hpos := two_zpow_pos (lastPlace precision least x)
  have hsplit : round precision least x - x =
      (roundHalfEven (x / 2 ^ lastPlace precision least x) -
        x / 2 ^ lastPlace precision least x) * 2 ^ lastPlace precision least x := by
    rw [round, sub_mul, div_mul_cancel₀ _ hpos.ne']
  rw [hsplit, abs_mul, abs_of_pos hpos]
  have hhalf := mul_le_mul_of_nonneg_right
    (abs_roundHalfEven_sub_le (x / 2 ^ lastPlace precision least x)) hpos.le
  linarith

theorem abs_round_sub_le_of_lt {k : Int} (h : |x| < 2 ^ k) :
    |round precision least x - x| ≤ 2 ^ max least (k - precision) / 2 := by
  rcases eq_or_ne x 0 with rfl | hx
  · rw [round_zero, sub_zero, abs_zero]
    exact (half_pos (two_zpow_pos _)).le
  · have hplace : (2 : ℚ) ^ lastPlace precision least x ≤ 2 ^ max least (k - precision) :=
      two_zpow_le (lastPlace_le h hx)
    exact (abs_round_sub_le x).trans (div_le_div_of_nonneg_right hplace zero_le_two)

theorem abs_round_sub_le_mul (hx : (2 : ℚ) ^ (least + precision - 1) ≤ |x|) :
    |round precision least x - x| ≤ |x| / 2 ^ precision := by
  have hpos : 0 < |x| := (two_zpow_pos _).trans_le hx
  have hne : x ≠ 0 := abs_pos.mp hpos
  have hlog : least + precision - 1 ≤ Int.log 2 |x| :=
    (Int.zpow_le_iff_le_log one_lt_two hpos).mp hx
  have hplace : lastPlace precision least x = Int.log 2 |x| + 1 - precision :=
    max_eq_right (by omega)
  refine (abs_round_sub_le x).trans ?_
  rw [hplace, zpow_sub₀ two_ne_zero, zpow_add₀ two_ne_zero, zpow_natCast, zpow_one]
  have hhalf : (2 : ℚ) ^ Int.log 2 |x| * 2 / 2 ^ precision / 2 =
      2 ^ Int.log 2 |x| / 2 ^ precision := by ring
  rw [hhalf]
  exact div_le_div_of_nonneg_right (two_zpow_log_le hne) (pow_pos two_pos _).le

end Floating

end EasyNav.BinaryRounding
