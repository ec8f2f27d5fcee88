import EasyNav.ExecutionSchedule

namespace EasyNav.RateRounding

open EasyNav.BinaryRounding
open EasyNav.ExtendedArithmetic
open EasyNav.ExtendedArithmetic.Extended
open EasyNav.DoubleArithmetic
open EasyNav.MachineNumbers
open EasyNav.RateMonitoring
open EasyNav.RateMonitoring.RateMonitor

section Normal

variable {x : ℚ}

theorem normal_of_le (h : 1 / 2 ^ 64 ≤ x) : (2 : ℚ) ^ (-1022 : Int) ≤ x := by
  have hplace : (2 : ℚ) ^ (-1022 : Int) ≤ 2 ^ (-64 : Int) := two_zpow_le (by decide)
  refine hplace.trans (le_trans ?_ h)
  norm_num

theorem nearest_bounds (h : 1 / 2 ^ 64 ≤ x) :
    x * (1 - 1 / 2 ^ 53) ≤ nearest x ∧ nearest x ≤ x * (1 + 1 / 2 ^ 53) :=
  ⟨le_nearest (normal_of_le h), nearest_le (normal_of_le h)⟩

theorem half_le_of_one_le_nearest (hx : 0 ≤ x) (h : 1 ≤ nearest x) : 1 / 2 ≤ x := by
  have hpower : (2 : ℚ) ^ (-1 : Int) ≤ x :=
    le_of_lt_nearest (by decide) hx (lt_of_lt_of_le (by norm_num) h)
  norm_num at hpower ⊢
  exact hpower

theorem le_of_half_le_nanoseconds (hx : 0 ≤ x) (h : 1 / 2 ≤ nearest x * 1000000000) :
    1 / 4000000000 ≤ x := by
  have hlower : 1 / 2000000000 ≤ nearest x := by linarith
  have hpower : (2 : ℚ) ^ (-31 : Int) ≤ x :=
    le_of_lt_nearest (by decide) hx (lt_of_lt_of_le (by norm_num) hlower)
  norm_num at hpower ⊢
  linarith

theorem rounded_of_le (hx : 0 ≤ x) (h : x ≤ 2 ^ 100) : rounded (.fin x) = .fin (nearest x) := by
  have hlarge : (2 : ℚ) ^ (101 : Int) ≤ 2 ^ (1023 : Int) := two_zpow_le (by decide)
  refine rounded_of_lt hx (lt_of_lt_of_le ?_ hlarge)
  norm_num at h ⊢
  linarith

end Normal

section Period

variable {f : ℚ}

/-- `Duration::from_seconds(1.0 / frequency)` -/
def periodOf (f : ℚ) : Time := fromSeconds (rounded (.fin 1 / .fin f))

/-- The period of a frequency in whole nanoseconds, which does not round up far. -/
structure IsPeriod (f : ℚ) (T : Time) : Prop where
  pos : 0 < f
  frequency_le : f ≤ 4000000000
  le : 250000000 ≤ f * T
  ge : f * T ≤ 1000000000 * (1 + 3 / 2 ^ 53)

theorem periodOf_of_pos (hf : 0 < f) (hperiod : 0 < periodOf f) :
    periodOf f = ⌊nearest (nearest (1 / f) * 1000000000)⌋ := by
  have hinf : fromSeconds .posInf = 0 := by decide +kernel
  have hinf' : truncate .posInf = 0 := rfl
  rw [periodOf, div_fin hf.ne'] at hperiod ⊢
  have hpos : 0 < 1 / f := one_div_pos.mpr hf
  rcases rounded_of_nonneg hpos.le with ⟨hx, -⟩ | ⟨hx, -⟩
  · rw [hx, hinf] at hperiod
    exact absurd hperiod (lt_irrefl 0)
  rw [hx, fromSeconds, mul_fin] at hperiod ⊢
  have hbillion : 0 ≤ nearest (1 / f) * 1000000000 :=
    mul_nonneg (nearest_nonneg hpos.le) (by norm_num)
  rcases rounded_of_nonneg hbillion with ⟨hy, -⟩ | ⟨hy, -⟩
  · rw [hy, hinf'] at hperiod
    exact absurd hperiod (lt_irrefl 0)
  rw [hy, truncate_fin (nearest_nonneg hbillion)]

theorem periodOf_isPeriod (hf : 0 < f) (hperiod : 0 < periodOf f) : IsPeriod f (periodOf f) := by
  have heq := periodOf_of_pos hf hperiod
  rw [heq] at hperiod ⊢
  have hpos : 0 < 1 / f := one_div_pos.mpr hf
  have hbillion : 0 ≤ nearest (1 / f) * 1000000000 :=
    mul_nonneg (nearest_nonneg hpos.le) (by norm_num)
  have hhalf := half_le_of_one_le_nearest hbillion (Int.floor_pos.mp hperiod)
  have hsecond := le_of_half_le_nanoseconds hpos.le hhalf
  obtain ⟨hxLow, hxHigh⟩ := nearest_bounds (x := 1 / f) (by norm_num at hsecond ⊢; linarith)
  obtain ⟨hyLow, hyHigh⟩ := nearest_bounds (x := nearest (1 / f) * 1000000000)
    (by norm_num at hhalf ⊢; linarith)
  have hfloor := Int.floor_le (nearest (nearest (1 / f) * 1000000000))
  have hnext := Int.lt_floor_add_one (nearest (nearest (1 / f) * 1000000000))
  have hwhole : (1 : ℚ) ≤ ⌊nearest (nearest (1 / f) * 1000000000)⌋ := by exact_mod_cast hperiod
  generalize nearest (nearest (1 / f) * 1000000000) = y at *
  generalize ⌊y⌋ = T at *
  have hlow : 250000000 * (1 / f) ≤ T := by
    norm_num at hxLow hyLow ⊢
    linarith
  have hhigh : T ≤ 1000000000 * (1 + 3 / 2 ^ 53) * (1 / f) := by
    norm_num at hxHigh hyHigh ⊢
    linarith
  have hinverse : f * (1 / f) = 1 := mul_one_div_cancel hf.ne'
  refine ⟨hf, ?_, ?_, ?_⟩
  · exact (one_div_le_one_div (by norm_num) hf).mp hsecond
  · have h := mul_le_mul_of_nonneg_left hlow hf.le
    linarith
  · have h := mul_le_mul_of_nonneg_left hhigh hf.le
    linarith

end Period

section Window

variable {f elapsed : ℚ} {monitor : RateMonitor}

/-- A closed window is a second long, and ten periods. -/
theorem closed_bounds (hf : 0 < f) (hfrequency : f ≤ 4000000000) (helapsed : 0 ≤ elapsed)
    (hfinite : elapsed ≤ 2 ^ 40) (hclosed : ¬ rounded (.fin elapsed) < windowOf (.fin f)) :
    rounded (.fin elapsed) = .fin (nearest elapsed) ∧ 1 ≤ nearest elapsed ∧
      10 * (1 - 1 / 2 ^ 53) ≤ f * nearest elapsed ∧
      nearest elapsed ≤ elapsed * (1 + 1 / 2 ^ 53) := by
  have hsmall : elapsed ≤ 2 ^ 100 := hfinite.trans (by norm_num)
  have hrounded := rounded_of_le helapsed hsmall
  have hperiods : 0 ≤ 10 / f := div_nonneg (by norm_num) hf.le
  rw [windowOf, kWindowPeriods, div_fin hf.ne', hrounded] at hclosed
  have hlong : 1 ≤ nearest elapsed ∧ nearest (10 / f) ≤ nearest elapsed := by
    rcases rounded_of_nonneg hperiods with ⟨hinf, -⟩ | ⟨hfin, -⟩
    · rw [hinf] at hclosed
      exact absurd (fin_lt_posInf _) hclosed
    · rw [hfin, kMinWindow, stdMax_fin, fin_lt_fin, not_lt] at hclosed
      exact max_le_iff.mp hclosed
  obtain ⟨hone, hten⟩ := hlong
  have hhalf := half_le_of_one_le_nearest helapsed hone
  have hperiod : 10 / 4000000000 ≤ 10 / f := div_le_div_of_nonneg_left (by norm_num) hf hfrequency
  obtain ⟨hlow, -⟩ := nearest_bounds (x := 10 / f) (by norm_num at hperiod ⊢; linarith)
  refine ⟨hrounded, hone, ?_, (nearest_bounds (by norm_num at hhalf ⊢; linarith)).2⟩
  calc 10 * (1 - 1 / 2 ^ 53) = f * (10 / f * (1 - 1 / 2 ^ 53)) := by field_simp
    _ ≤ f * nearest elapsed := mul_le_mul_of_nonneg_left (hlow.trans hten) hf.le

theorem minRate_bounds (hlow : 1 / 2 ^ 40 ≤ f) (hhigh : f ≤ 4000000000) :
    ∃ rate, rounded (kMinRatio * .fin f) = .fin rate ∧ 1 / 2 ^ 42 ≤ rate ∧ rate ≤ 2 ^ 40 ∧
      rate ≤ 9 / 10 * f * (1 + 1 / 2 ^ 53) ^ 2 := by
  have hratio : kMinRatio = .fin (nearest (9 / 10)) := rounded_of_le (by norm_num) (by norm_num)
  obtain ⟨hratioLow, hratioHigh⟩ := nearest_bounds (x := 9 / 10) (by norm_num)
  rw [hratio, mul_fin]
  generalize nearest (9 / 10) = ratio at *
  have hhalf : 1 / 2 ≤ ratio := by
    norm_num at hratioLow ⊢
    linarith
  have hproductLow : 1 / 2 * (1 / 2 ^ 40) ≤ ratio * f :=
    mul_le_mul hhalf hlow (by norm_num) (by linarith)
  have hproductHigh : ratio * f ≤ 1 * 4000000000 :=
    mul_le_mul (by norm_num at hratioHigh ⊢; linarith) hhigh (by linarith) zero_le_one
  obtain ⟨hrateLow, hrateHigh⟩ := nearest_bounds (x := ratio * f)
    (by norm_num at hproductLow ⊢; linarith)
  refine ⟨nearest (ratio * f), rounded_of_le (by linarith) ?_, ?_, ?_, ?_⟩
  · norm_num at hproductHigh ⊢
    linarith
  · norm_num at hproductLow hrateLow ⊢
    linarith
  · norm_num at hproductHigh hrateHigh ⊢
    linarith
  · have hf : 0 ≤ f := le_trans (by norm_num) hlow
    calc nearest (ratio * f) ≤ ratio * f * (1 + 1 / 2 ^ 53) := hrateHigh
      _ ≤ 9 / 10 * (1 + 1 / 2 ^ 53) * f * (1 + 1 / 2 ^ 53) := by gcongr
      _ = 9 / 10 * f * (1 + 1 / 2 ^ 53) ^ 2 := by ring

theorem not_isSlow (hfrequency : monitor.frequency = .fin f) (hhigh : f ≤ 4000000000)
    (hone : 1 ≤ elapsed) (hfinite : elapsed ≤ 2 ^ 41) (hten : 10 * (1 - 1 / 2 ^ 53) ≤ f * elapsed)
    (hruns : 9 / 10 * (f * elapsed) * (1 + 4 / 2 ^ 53) ≤ monitor.runs + 1) :
    monitor.isSlow (.fin elapsed) = false := by
  have hpos : 0 < elapsed := one_pos.trans_le hone
  have hlow : 1 / 2 ^ 40 ≤ f := by
    by_contra hsmall
    have hproduct : f * elapsed ≤ 1 / 2 ^ 40 * 2 ^ 41 :=
      mul_le_mul (not_le.mp hsmall).le hfinite hpos.le (by norm_num)
    norm_num at hproduct hten
    linarith
  obtain ⟨rate, hrate, hrateLow, hrateHigh, hminRate⟩ := minRate_bounds hlow hhigh
  have hdueLow : 1 / 2 ^ 42 * 1 ≤ rate * elapsed :=
    mul_le_mul hrateLow hone zero_le_one (le_trans (by norm_num) hrateLow)
  have hdueHigh : rate * elapsed ≤ 2 ^ 40 * 2 ^ 41 :=
    mul_le_mul hrateHigh hfinite hpos.le (by norm_num)
  have hdue := (nearest_bounds (x := rate * elapsed) (by norm_num at hdueLow ⊢; linarith)).2
  have hcompared := rounded_of_le (x := rate * elapsed) (by linarith)
    (by norm_num at hdueHigh ⊢; linarith)
  rw [isSlow, decide_eq_false_iff_not, hfrequency, hrate, mul_fin, hcompared, fin_lt_fin, not_lt]
  have hdueNonneg : 0 ≤ 9 / 10 * (f * elapsed) := by
    norm_num at hten ⊢
    linarith
  calc nearest (rate * elapsed) ≤ rate * elapsed * (1 + 1 / 2 ^ 53) := hdue
    _ ≤ 9 / 10 * f * (1 + 1 / 2 ^ 53) ^ 2 * elapsed * (1 + 1 / 2 ^ 53) := by gcongr
    _ = 9 / 10 * (f * elapsed) * (1 + 1 / 2 ^ 53) ^ 3 := by ring
    _ ≤ 9 / 10 * (f * elapsed) * (1 + 4 / 2 ^ 53) :=
      mul_le_mul_of_nonneg_left (by norm_num) hdueNonneg
    _ ≤ monitor.runs + 1 := hruns

end Window

section Runs

variable {f elapsed seconds cut error periods room : ℚ} {T : Time} {runs : Nat}

/-- The periods of `elapsed` nanoseconds, which a clock shows as `seconds`: two more than the
runs, less what is cut off. -/
theorem periods_le (hT : IsPeriod f T) (hcut : elapsed + cut ≤ (runs + 2) * T)
    (herror : seconds ≤ elapsed / 1000000000 + error) :
    f * seconds + f * (cut / 1000000000 - error) ≤ (runs + 2) * (1 + 3 / 2 ^ 53) := by
  have hruns : (0 : ℚ) ≤ runs + 2 := by positivity
  have hseconds := mul_le_mul_of_nonneg_left herror hT.pos.le
  have hscaled : f * (elapsed + cut) ≤ (runs + 2) * (1000000000 * (1 + 3 / 2 ^ 53)) := by
    calc f * (elapsed + cut) ≤ f * ((runs + 2) * T) := mul_le_mul_of_nonneg_left hcut hT.pos.le
      _ = (runs + 2) * (f * T) := by ring
      _ ≤ (runs + 2) * (1000000000 * (1 + 3 / 2 ^ 53)) := mul_le_mul_of_nonneg_left hT.ge hruns
  linarith

theorem runs_suffice_of_room (hten : 10 * (1 - 2 / 2 ^ 53) ≤ periods) (hroom : 80 / 2 ^ 53 ≤ room)
    (hruns : periods + room ≤ (runs + 2) * (1 + 3 / 2 ^ 53)) :
    9 / 10 * periods * (1 + 6 / 2 ^ 53) ≤ runs + 1 := by
  rcases lt_trichotomy runs 8 with hfew | rfl | hmany
  · have hcast : (runs : ℚ) ≤ 7 := by exact_mod_cast Nat.le_of_lt_succ hfew
    norm_num at hten hruns hroom ⊢
    linarith
  · norm_num at hten hruns hroom ⊢
    linarith
  · have hcast : (9 : ℚ) ≤ runs := by exact_mod_cast hmany
    norm_num at hten hruns hroom ⊢
    linarith

/-- A little more than ten periods leave room for the error of the clock. -/
theorem runs_suffice_of_more (hmore : 10 + 9 / 10000 ≤ periods)
    (hruns : periods * (1 - 4 / 1000000) ≤ (runs + 2) * (1 + 3 / 2 ^ 53)) :
    9 / 10 * periods * (1 + 6 / 2 ^ 53) ≤ runs + 1 := by
  norm_num at hmore hruns ⊢
  linarith

end Runs

end EasyNav.RateRounding
