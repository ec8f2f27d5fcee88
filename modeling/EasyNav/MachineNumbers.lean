import EasyNav.DoubleArithmetic

namespace EasyNav.MachineNumbers

open EasyNav.BinaryRounding
open EasyNav.ExtendedArithmetic
open EasyNav.ExtendedArithmetic.Extended
open EasyNav.DoubleArithmetic

/-- The nearest number of 53 bits whose last place is not below the least one of a `double`. -/
def nearest (x : ℚ) : ℚ := round 53 (-1074) x

/-- The result of an operation on doubles; too large a one is infinite. -/
def rounded : Double → Double
  | .fin x =>
      if 2 ^ 1024 ≤ nearest x then .posInf
      else if nearest x ≤ -2 ^ 1024 then .negInf
      else .fin (nearest x)
  | x => x

/-- `static_cast` to an integer type, of a value in its range. -/
def truncate : Double → Int
  | .fin q => if q < 0 then -⌊-q⌋ else ⌊q⌋
  | _ => 0

/-- `Time::seconds()`, and `count()` of a duration in seconds. -/
def machineSeconds (t : Time) : Double := rounded (rounded (.fin t) / .fin 1000000000)

/-- `Duration::from_seconds` -/
def fromSeconds (seconds : Double) : Time := truncate (rounded (seconds * .fin 1000000000))

section Nearest

variable {x y : ℚ}

theorem nearest_neg (x : ℚ) : nearest (-x) = -nearest x := round_neg x

theorem nearest_nonneg (h : 0 ≤ x) : 0 ≤ nearest x := round_nonneg h

theorem nearest_mono (hx : 0 ≤ x) (h : x ≤ y) : nearest x ≤ nearest y :=
  round_mono (by decide) hx h

theorem nearest_intCast {n : Int} (h : |(n : ℚ)| < 2 ^ 53) : nearest n = n :=
  round_intCast (by decide) (by exact_mod_cast h)

theorem nearest_error (h : (2 : ℚ) ^ (-1022 : Int) ≤ |x|) : |nearest x - x| ≤ |x| / 2 ^ 53 :=
  abs_round_sub_le_mul h

theorem nearest_le (h : (2 : ℚ) ^ (-1022 : Int) ≤ x) : nearest x ≤ x * (1 + 1 / 2 ^ 53) := by
  have hx : 0 < x := (two_zpow_pos _).trans_le h
  have herror := nearest_error (abs_of_pos hx ▸ h)
  rw [abs_of_pos hx] at herror
  have hupper := (abs_le.mp herror).2
  linarith

theorem le_nearest (h : (2 : ℚ) ^ (-1022 : Int) ≤ x) : x * (1 - 1 / 2 ^ 53) ≤ nearest x := by
  have hx : 0 < x := (two_zpow_pos _).trans_le h
  have herror := nearest_error (abs_of_pos hx ▸ h)
  rw [abs_of_pos hx] at herror
  have hlower := (abs_le.mp herror).1
  linarith

theorem nearest_error_of_lt {k : Int} (hk : -1021 ≤ k) (h : |x| < 2 ^ k) :
    |nearest x - x| ≤ 2 ^ (k - 53) / 2 := by
  have herror : |nearest x - x| ≤ 2 ^ max (-1074) (k - (53 : Nat)) / 2 :=
    abs_round_sub_le_of_lt h
  rwa [max_eq_right (by push_cast; omega)] at herror

theorem le_of_lt_nearest {k : Int} (hk : -1074 ≤ k) (hx : 0 ≤ x) (h : 2 ^ k < nearest x) :
    2 ^ k ≤ x := by
  by_contra hsmall
  have habs : |x| < 2 ^ k := by
    rw [abs_of_nonneg hx]
    exact not_le.mp hsmall
  exact absurd (round_le_two_zpow hk habs) (not_le.mpr h)

end Nearest

section Rounded

variable {x y : ℚ} {a b : Double}

theorem rounded_fin (hlow : -2 ^ 1024 < nearest x) (hhigh : nearest x < 2 ^ 1024) :
    rounded (.fin x) = .fin (nearest x) := by
  rw [rounded, if_neg (not_le.mpr hhigh), if_neg (not_le.mpr hlow)]

theorem rounded_of_nonneg (h : 0 ≤ x) :
    rounded (.fin x) = .posInf ∧ 2 ^ 1024 ≤ nearest x ∨
      rounded (.fin x) = .fin (nearest x) ∧ nearest x < 2 ^ 1024 := by
  rcases le_or_gt (2 ^ 1024) (nearest x) with hhigh | hhigh
  · exact Or.inl ⟨if_pos hhigh, hhigh⟩
  · have hlow : (-2 ^ 1024 : ℚ) < 0 := neg_lt_zero.mpr (pow_pos two_pos _)
    exact Or.inr ⟨rounded_fin (hlow.trans_le (nearest_nonneg h)) hhigh, hhigh⟩

theorem rounded_of_lt (hx : 0 ≤ x) (h : x < 2 ^ (1023 : Int)) :
    rounded (.fin x) = .fin (nearest x) := by
  have habs : |x| < 2 ^ (1023 : Int) := by rwa [abs_of_nonneg hx]
  have hle : nearest x ≤ 2 ^ (1023 : Int) := round_le_two_zpow (by decide) habs
  have hdouble : (2 : ℚ) ^ 1024 = 2 ^ (1023 : Int) * 2 := pow_succ 2 1023
  have hhigh : nearest x < 2 ^ 1024 := by
    rw [hdouble]
    exact hle.trans_lt (lt_mul_of_one_lt_right (two_zpow_pos 1023) one_lt_two)
  rcases rounded_of_nonneg hx with ⟨-, hlarge⟩ | ⟨hfin, -⟩
  · exact absurd hlarge (not_le.mpr hhigh)
  · exact hfin

theorem not_rounded_lt (hx : 0 ≤ x) (h : x ≤ y) : ¬ rounded (.fin y) < rounded (.fin x) := by
  have hmono := nearest_mono hx h
  rcases rounded_of_nonneg (hx.trans h) with ⟨hy, -⟩ | ⟨hy, hsmall⟩
  · rw [hy]
    exact not_posInf_lt _
  · rcases rounded_of_nonneg hx with ⟨-, hlarge⟩ | ⟨hx, -⟩
    · exact absurd (hlarge.trans hmono) (not_le.mpr hsmall)
    · rw [hx, hy, fin_lt_fin]
      exact not_lt.mpr hmono

theorem rounded_intCast {n : Int} (h : |(n : ℚ)| < 2 ^ 53) : rounded (.fin n) = .fin n := by
  have hkept := nearest_intCast h
  have hbound := abs_lt.mp (h.trans (pow_lt_pow_right₀ one_lt_two (by decide : 53 < 1024)))
  rw [rounded_fin (by rw [hkept]; exact hbound.1) (by rw [hkept]; exact hbound.2), hkept]

theorem rounded_isFinite (ha : a.isFinite = false) : (rounded a).isFinite = false := by
  cases a with
  | fin x => cases ha
  | nan | negInf | posInf => rfl

/-- Not a negative number; it may be infinite, or none. -/
def NotNegative (a : Double) : Prop := ∀ x, a = .fin x → 0 ≤ x

theorem NotNegative.rounded (h : NotNegative a) : NotNegative (rounded a) := by
  cases a with
  | fin x =>
      intro y hy
      rcases rounded_of_nonneg (h x rfl) with ⟨hinf, -⟩ | ⟨hfin, -⟩
      · rw [hinf] at hy
        cases hy
      · rw [hfin] at hy
        obtain rfl := Extended.fin.inj hy
        exact nearest_nonneg (h x rfl)
  | nan | negInf | posInf =>
      intro y hy
      cases hy

theorem NotNegative.div (ha : NotNegative a) (hb : NotNegative b) : NotNegative (a / b) := by
  intro z hz
  change Extended.div a b = .fin z at hz
  cases a with
  | fin x =>
      cases b with
      | fin y =>
          rw [Extended.div] at hz
          split at hz
          · rw [infOfSign] at hz
            split at hz
            · cases hz
            · split at hz <;> cases hz
          · obtain rfl := Extended.fin.inj hz
            exact div_nonneg (ha x rfl) (hb y rfl)
      | nan => cases hz
      | negInf | posInf =>
          obtain rfl := Extended.fin.inj hz
          exact le_rfl
  | nan => cases hz
  | negInf | posInf =>
      cases b with
      | fin y =>
          rw [Extended.div] at hz
          split at hz <;> cases hz
      | nan | negInf | posInf => cases hz

theorem truncate_fin (hx : 0 ≤ x) : truncate (.fin x) = ⌊x⌋ := if_neg (not_lt.mpr hx)

theorem truncate_nonneg (h : NotNegative a) : 0 ≤ truncate a := by
  cases a with
  | fin x =>
      have hx := h x rfl
      rw [truncate_fin hx]
      exact Int.floor_nonneg.mpr hx
  | nan | negInf | posInf => exact le_rfl

end Rounded

section Seconds

variable {s t : Time}

def secondsAt (t : Time) : ℚ := nearest (nearest t / 1000000000)

theorem nearest_time_le (ht : 0 ≤ t) (h : t < 2 ^ 63) :
    0 ≤ nearest t ∧ nearest t ≤ 2 ^ 63 + 512 := by
  have hcast : (t : ℚ) < 2 ^ (63 : Int) := by exact_mod_cast h
  have hnonneg : (0 : ℚ) ≤ t := Int.cast_nonneg ht
  have habs : |(t : ℚ)| < 2 ^ (63 : Int) := by rwa [abs_of_nonneg hnonneg]
  have hupper := (abs_le.mp (nearest_error_of_lt (by decide) habs)).2
  refine ⟨nearest_nonneg hnonneg, ?_⟩
  norm_num at hupper hcast ⊢
  linarith

theorem machineSeconds_eq (ht : 0 ≤ t) (h : t < 2 ^ 63) :
    machineSeconds t = .fin (secondsAt t) := by
  obtain ⟨hnonneg, hsmall⟩ := nearest_time_le ht h
  have hcast : (t : ℚ) < 2 ^ (63 : Int) := by exact_mod_cast h
  have hlarge : (2 : ℚ) ^ (64 : Int) ≤ 2 ^ (1023 : Int) := two_zpow_le (by decide)
  have ht' : rounded (.fin t) = .fin (nearest t) :=
    rounded_of_lt (Int.cast_nonneg ht) (hcast.trans_le (two_zpow_le (by decide)))
  rw [machineSeconds, ht', div_fin (by norm_num)]
  refine rounded_of_lt (div_nonneg hnonneg (by norm_num)) (lt_of_lt_of_le ?_ hlarge)
  norm_num at hsmall ⊢
  linarith

theorem secondsAt_mono (hs : 0 ≤ s) (h : s ≤ t) : secondsAt s ≤ secondsAt t := by
  have hnonneg : (0 : ℚ) ≤ s := Int.cast_nonneg hs
  have hbillion : (0 : ℚ) ≤ 1000000000 := by norm_num
  exact nearest_mono (div_nonneg (nearest_nonneg hnonneg) hbillion)
    (div_le_div_of_nonneg_right (nearest_mono hnonneg (Int.cast_le.mpr h)) hbillion)

/-- The two roundings of a reading below a power of two. -/
theorem secondsAt_error {k : Nat} (ht : 0 ≤ t) (h : t < 2 ^ k) :
    |secondsAt t - t / 1000000000| ≤ 2 ^ k * (16 / 10 ^ 26) := by
  have hnonneg : (0 : ℚ) ≤ t := Int.cast_nonneg ht
  have hcast : (t : ℚ) < 2 ^ k := by exact_mod_cast h
  have hpos : (0 : ℚ) < 2 ^ k := pow_pos two_pos k
  rw [← zpow_natCast] at hcast hpos
  have hread := nearest_error_of_lt (by omega) ((abs_of_nonneg hnonneg).trans_lt hcast)
  rw [zpow_sub₀ two_ne_zero, zpow_natCast] at hread
  rw [zpow_natCast] at hcast hpos
  have hquotient : |nearest t / 1000000000| < 2 ^ ((k : Int) - 29) := by
    have hupper := (abs_le.mp hread).2
    rw [abs_of_nonneg (div_nonneg (nearest_nonneg hnonneg) (by norm_num)), zpow_sub₀ two_ne_zero,
      zpow_natCast]
    norm_num at hupper ⊢
    linarith
  have hdivided := nearest_error_of_lt (by omega) hquotient
  rw [zpow_sub₀ two_ne_zero, zpow_sub₀ two_ne_zero, zpow_natCast] at hdivided
  obtain ⟨hreadLow, hreadHigh⟩ := abs_le.mp hread
  obtain ⟨hdividedLow, hdividedHigh⟩ := abs_le.mp hdivided
  rw [secondsAt, abs_le]
  norm_num at hreadLow hreadHigh hdividedLow hdividedHigh hpos ⊢
  constructor <;> linarith

end Seconds

end EasyNav.MachineNumbers
