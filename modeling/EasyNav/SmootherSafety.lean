import EasyNav.SettledSpeed

namespace EasyNav.SmootherSafety

open EasyNav.ExtendedArithmetic
open EasyNav.ExtendedArithmetic.Extended
open EasyNav.DoubleArithmetic
open EasyNav.AxisRamp
open EasyNav.SpeedLimits
open EasyNav.NavigationState
open EasyNav.VelocityRamp
open EasyNav.SettledSpeed

/-- A velocity moves towards its goal within its deceleration or acceleration, and without
changing its sign. -/
structure Moves (current goal acc decel dt next : ℚ) : Prop where
  bounded : |next - current| ≤ (if Slowing current goal then decel else acc) * dt
  between : next ∈ Set.uIcc current goal
  sign : 0 ≤ current * next

/-- The angular velocity is as long as the turning radius allows, shorter than it was. -/
structure Cut (angular linear radius next : ℚ) : Prop where
  radius_pos : 0 < radius
  abs_eq : |next| = |linear| / radius
  shorter : |next| ≤ |angular|
  sign : 0 ≤ angular * next

/-- Within the limits, the turning radius included. -/
structure Within (e : ExactLimits) (c : ExactCommand) : Prop where
  x : c.x ∈ Set.Icc e.minLinearVel e.maxLinearVel
  y : c.y ∈ Set.Icc (-e.maxLateralVel) e.maxLateralVel
  z : c.z ∈ Set.Icc (-e.maxVerticalVel) e.maxVerticalVel
  yaw : c.yaw ∈ Set.Icc (-e.maxAngularVel) e.maxAngularVel
  turning : |c.yaw| * e.minTurningRadius ≤ |c.x|

/-- The excess over the limits shrinks by what the deceleration covers. -/
def Shrinks (lo hi decel dt current next : ℚ) : Prop :=
  excess lo hi next ≤ excess lo hi current - min (excess lo hi current) (decel * dt)

structure SafeStep (e : ExactLimits) (c goal : ExactCommand) (dt : ℚ) (next : ExactCommand) :
    Prop where
  x : Moves c.x goal.x e.maxLinearAcc e.maxLinearDecel dt next.x
  y : Moves c.y goal.y e.maxLateralAcc e.maxLateralDecel dt next.y
  z : Moves c.z goal.z e.maxVerticalAcc e.maxVerticalDecel dt next.z
  yaw : ∃ angular, Moves c.yaw goal.yaw e.maxAngularAcc e.maxAngularDecel dt angular ∧
    (next.yaw = angular ∨ Cut angular next.x e.minTurningRadius next.yaw)
  yaw_sign : 0 ≤ c.yaw * next.yaw
  turning : |next.yaw| * e.minTurningRadius ≤ |next.x|
  kept : Within e c → Within e next
  x_shrinks : Shrinks e.minLinearVel e.maxLinearVel e.maxLinearDecel dt c.x next.x
  y_shrinks : Shrinks (-e.maxLateralVel) e.maxLateralVel e.maxLateralDecel dt c.y next.y
  z_shrinks : Shrinks (-e.maxVerticalVel) e.maxVerticalVel e.maxVerticalDecel dt c.z next.z
  yaw_shrinks : Shrinks (-e.maxAngularVel) e.maxAngularVel e.maxAngularDecel dt c.yaw next.yaw

section Curbing

variable {angular linear radius v : ℚ}

theorem curb_cases (hradius : 0 ≤ radius) :
    curb angular linear radius = angular ∨
      Cut angular linear radius (curb angular linear radius) := by
  rcases hradius.eq_or_lt with rfl | hpos
  · exact Or.inl (by simp [curb])
  · by_cases hwithin : |angular| ≤ |linear| / radius
    · exact Or.inl (curb_of_abs_le hwithin)
    · right
      rw [not_le] at hwithin
      have hbound : 0 ≤ |linear| / radius := div_nonneg (abs_nonneg _) hradius
      constructor
      · exact hpos
      · rcases abs_cases angular with ⟨habs, hsign⟩ | ⟨habs, hsign⟩
        · rw [curb, if_neg hpos.ne', min_eq_left (by linarith), max_eq_right (by linarith),
            abs_of_nonneg hbound]
        · rw [curb, if_neg hpos.ne', min_eq_right (by linarith), max_eq_left (by linarith),
            abs_neg, abs_of_nonneg hbound]
      · exact abs_curb_le angular linear radius hradius
      · exact mul_curb_nonneg hradius (mul_self_nonneg angular)

theorem abs_curb_mul_le (hradius : 0 ≤ radius) :
    |curb angular linear radius| * radius ≤ |linear| := by
  rcases hradius.eq_or_lt with rfl | hpos
  · rw [mul_zero]
    exact abs_nonneg linear
  · rw [← le_div_iff₀ hpos]
    exact abs_curb_bound angular linear hpos

theorem curb_mem_Icc (hradius : 0 ≤ radius) (h : angular ∈ Set.Icc (-v) v) :
    curb angular linear radius ∈ Set.Icc (-v) v := by
  rw [Set.mem_Icc, ← abs_le] at h ⊢
  exact (abs_curb_le angular linear radius hradius).trans h

theorem excess_curb_le (hradius : 0 ≤ radius) :
    excess (-v) v (curb angular linear radius) ≤ excess (-v) v angular := by
  have hexcess : ∀ value : ℚ, excess (-v) v value = max 0 (|value| - v) := by
    intro value
    have hlow : -v - value = -value - v := by ring
    rw [excess, hlow, max_sub_sub_right, ← abs_eq_max_neg]
  rw [hexcess, hexcess]
  exact max_le_max le_rfl (sub_le_sub_right (abs_curb_le angular linear radius hradius) v)

end Curbing

section Stepping

variable {current goal acc decel dt lo hi : ℚ}

theorem ramp_moves (hacc : 0 < acc) (hdecel : 0 < decel) (hdt : 0 ≤ dt) :
    Moves current goal acc decel dt (ramp current goal acc decel dt) := by
  constructor
  · exact abs_ramp_sub_le current goal hacc.le hdecel.le hdt
  · exact ramp_mem_uIcc current goal hacc.le hdecel.le hdt
  · exact mul_ramp_nonneg current goal

theorem ramp_mem_Icc (hacc : 0 < acc) (hdecel : 0 < decel) (hdt : 0 ≤ dt)
    (hcurrent : current ∈ Set.Icc lo hi) (hgoal : goal ∈ Set.Icc lo hi) :
    ramp current goal acc decel dt ∈ Set.Icc lo hi :=
  Set.uIcc_subset_Icc hcurrent hgoal (ramp_mem_uIcc current goal hacc.le hdecel.le hdt)

theorem clamp_within (e : ExactLimits) (t : ExactCommand) : Within e (t.clamp e) := by
  have hmem : ∀ {lo hi : ℚ} (value : ℚ), lo ≤ hi → max lo (min hi value) ∈ Set.Icc lo hi :=
    fun value hle => ⟨le_max_left _ _, max_le hle (min_le_left _ _)⟩
  constructor
  · exact hmem t.x e.minLinearVel_le_maxLinearVel
  · exact hmem t.y (neg_le_self e.maxLateralVel_nonneg)
  · exact hmem t.z (neg_le_self e.maxVerticalVel_nonneg)
  · exact curb_mem_Icc e.minTurningRadius_nonneg
      (hmem t.yaw (neg_le_self e.maxAngularVel_nonneg))
  · exact abs_curb_mul_le e.minTurningRadius_nonneg

theorem exact_step_safe (e : ExactLimits) (c t : ExactCommand) (hdt : 0 ≤ dt) :
    SafeStep e c (t.clamp e) dt (c.step e t dt) := by
  have hradius := e.minTurningRadius_nonneg
  have hgoal := clamp_within e t
  have hshrinks : ∀ {v acc decel current goal : ℚ}, 0 ≤ v → goal ∈ Set.Icc (-v) v → 0 < acc →
      0 < decel → Shrinks (-v) v decel dt current (ramp current goal acc decel dt) :=
    fun hv hmem hacc hdecel =>
      excess_ramp_le (neg_nonpos.mpr hv) hv hmem hacc.le hdecel.le hdt
  simp only [ExactCommand.step, max_eq_left hdt]
  constructor
  · exact ramp_moves e.maxLinearAcc_pos e.maxLinearDecel_pos hdt
  · exact ramp_moves e.maxLateralAcc_pos e.maxLateralDecel_pos hdt
  · exact ramp_moves e.maxVerticalAcc_pos e.maxVerticalDecel_pos hdt
  · exact ⟨_, ramp_moves e.maxAngularAcc_pos e.maxAngularDecel_pos hdt, curb_cases hradius⟩
  · exact mul_curb_nonneg hradius (mul_ramp_nonneg _ _)
  · exact abs_curb_mul_le hradius
  · intro h
    constructor
    · exact ramp_mem_Icc e.maxLinearAcc_pos e.maxLinearDecel_pos hdt h.x hgoal.x
    · exact ramp_mem_Icc e.maxLateralAcc_pos e.maxLateralDecel_pos hdt h.y hgoal.y
    · exact ramp_mem_Icc e.maxVerticalAcc_pos e.maxVerticalDecel_pos hdt h.z hgoal.z
    · exact curb_mem_Icc hradius
        (ramp_mem_Icc e.maxAngularAcc_pos e.maxAngularDecel_pos hdt h.yaw hgoal.yaw)
    · exact abs_curb_mul_le hradius
  · exact excess_ramp_le e.minLinearVel_nonpos e.maxLinearVel_nonneg hgoal.x
      e.maxLinearAcc_pos.le e.maxLinearDecel_pos.le hdt
  · exact hshrinks e.maxLateralVel_nonneg hgoal.y e.maxLateralAcc_pos e.maxLateralDecel_pos
  · exact hshrinks e.maxVerticalVel_nonneg hgoal.z e.maxVerticalAcc_pos e.maxVerticalDecel_pos
  · exact (excess_curb_le hradius).trans
      (hshrinks e.maxAngularVel_nonneg hgoal.yaw e.maxAngularAcc_pos e.maxAngularDecel_pos)

/-- A step of the smoother is safe from any command, for any target within valid limits. -/
theorem step_safe {s : VelocitySmoother} {target : Twist} {c t : ExactCommand} {dt : ℚ}
    (hlimits : invalidRobotLimits s.limits = "") (hcurrent : c.Agrees s.current)
    (htarget : t.Agrees target) (hdt : 0 ≤ dt) :
    ∃ (e : ExactLimits) (goal next : ExactCommand), s.limits = e.toRobotLimits ∧
      s.clamp target = goal.toTwist ∧ next.Agrees (s.step target (.fin dt)).current ∧
        SafeStep e c goal dt next := by
  obtain ⟨e, he⟩ := invalidRobotLimits_eq_empty_iff.mp hlimits
  refine ⟨e, t.clamp e, c.step e t dt, he, ?_, ?_, exact_step_safe e c t hdt⟩
  · exact ExactCommand.smoother_clamp_eq he htarget
  · exact ExactCommand.smoother_step_agrees he hcurrent htarget dt

/-- Turning on the spot while it should stop: the yaw is cut with the forward velocity. -/
theorem step_safe_turning :
    let limits : RobotLimits := { minTurningRadius := .fin 1 }
    let s : VelocitySmoother :=
      { limits := limits
        current := { linear := { x := .fin (1 / 10) }, angular := { z := .fin 2 } } }
    (s.step {} (.fin (1 / 20))).current =
        { linear := { x := .fin (1 / 20) }, angular := { z := .fin (1 / 20) } } ∧
      ∃ (e : ExactLimits) (goal next : ExactCommand), s.limits = e.toRobotLimits ∧
        s.clamp {} = goal.toTwist ∧ next.Agrees (s.step {} (.fin (1 / 20))).current ∧
          SafeStep e ⟨1 / 10, 0, 0, 2⟩ goal (1 / 20) next := by
  intro limits s
  refine ⟨by decide +kernel, ?_⟩
  exact step_safe (by decide +kernel) ⟨rfl, rfl, rfl, rfl⟩ ExactCommand.zero.toTwist_agrees
    (by norm_num)

end Stepping

end EasyNav.SmootherSafety
