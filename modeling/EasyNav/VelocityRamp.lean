import EasyNav.AxisRamp
import EasyNav.NavigationState

namespace EasyNav.VelocityRamp

open EasyNav.ExtendedArithmetic
open EasyNav.ExtendedArithmetic.Extended
open EasyNav.DoubleArithmetic
open EasyNav.SpeedLimits
open EasyNav.NavigationState
open EasyNav.AxisRamp

def kEpsilon : Double := .fin (1 / 1000000)

def slowing (current target : Double) : Bool :=
  decide (0 < current) && decide (target < current) ||
    decide (current < 0) && decide (current < target)

/-- One axis: towards `target`, limited by `acc` when speeding up and `decel`
when slowing down; a change of sign stops at zero first. -/
def stepAxis (current target acc decel dt : Double) : Double :=
  let maxDelta := (if slowing current target then decel else acc) * dt
  let next := current + Extended.clamp (target - current) (-maxDelta) maxDelta
  if decide (0 < current) && decide (next < 0) || decide (current < 0) && decide (0 < next)
  then 0
  else next

/-- Within the turning radius: |angular.z| <= |linear.x| / radius (radius 0: no
limit). -/
def withinRadius (angular linear radius : Double) : Double :=
  if radius ≤ 0 then angular
  else
    let maxAngular := Extended.abs linear / radius
    Extended.clamp angular (-maxAngular) maxAngular

structure VelocitySmoother where
  limits : RobotLimits := {}
  current : Twist := {}
  deriving DecidableEq

namespace VelocitySmoother

def setLimits (s : VelocitySmoother) (limits : RobotLimits) : VelocitySmoother :=
  { s with limits := limits }

def clamp (s : VelocitySmoother) (target : Twist) : Twist :=
  let x := Extended.clamp target.linear.x s.limits.minLinearVel s.limits.maxLinearVel
  { linear :=
      { x := x
        y := Extended.clamp target.linear.y (-s.limits.maxLateralVel) s.limits.maxLateralVel
        z := Extended.clamp target.linear.z (-s.limits.maxVerticalVel)
          s.limits.maxVerticalVel }
    angular :=
      { z := withinRadius
          (Extended.clamp target.angular.z (-s.limits.maxAngularVel) s.limits.maxAngularVel)
          x s.limits.minTurningRadius } }

/-- Next command towards `target`, `dt` seconds after the previous one. -/
def step (s : VelocitySmoother) (target : Twist) (dt : Double) : VelocitySmoother :=
  let goal := s.clamp target
  let dt := stdMax dt 0
  let x := stepAxis s.current.linear.x goal.linear.x s.limits.maxLinearAcc
    s.limits.maxLinearDecel dt
  let y := stepAxis s.current.linear.y goal.linear.y s.limits.maxLateralAcc
    s.limits.maxLateralDecel dt
  let z := stepAxis s.current.linear.z goal.linear.z s.limits.maxVerticalAcc
    s.limits.maxVerticalDecel dt
  let yaw := stepAxis s.current.angular.z goal.angular.z s.limits.maxAngularAcc
    s.limits.maxAngularDecel dt
  { s with
    current :=
      { linear := { x := x, y := y, z := z }
        angular :=
          { s.current.angular with
            -- While linear.x ramps, the curvature stays within the turning radius too.
            z := withinRadius yaw x s.limits.minTurningRadius } } }

def reset (s : VelocitySmoother) (current : Twist) : VelocitySmoother :=
  { s with current := { linear := current.linear, angular := { z := current.angular.z } } }

/-- Whether the current command already equals `target`, clamped to the limits. -/
def reached (s : VelocitySmoother) (target : Twist) : Bool :=
  let goal := s.clamp target
  decide (Extended.abs (s.current.linear.x - goal.linear.x) < kEpsilon) &&
    decide (Extended.abs (s.current.linear.y - goal.linear.y) < kEpsilon) &&
    decide (Extended.abs (s.current.linear.z - goal.linear.z) < kEpsilon) &&
    decide (Extended.abs (s.current.angular.z - goal.angular.z) < kEpsilon)

/-- Seconds needed to stop from the current command at the maximum deceleration. -/
def timeToStop (s : VelocitySmoother) : Double :=
  stdMax
    (stdMax
      (stdMax
        (Extended.abs s.current.linear.x / stdMax s.limits.maxLinearDecel kEpsilon)
        (Extended.abs s.current.linear.y / stdMax s.limits.maxLateralDecel kEpsilon))
      (Extended.abs s.current.linear.z / stdMax s.limits.maxVerticalDecel kEpsilon))
    (Extended.abs s.current.angular.z / stdMax s.limits.maxAngularDecel kEpsilon)

end VelocitySmoother

/-- A command of finite velocities: linear x, y and z, and angular z. -/
@[ext] structure ExactCommand where
  x : ℚ
  y : ℚ
  z : ℚ
  yaw : ℚ
  deriving DecidableEq

namespace ExactCommand

def zero : ExactCommand := ⟨0, 0, 0, 0⟩

def toTwist (c : ExactCommand) : Twist :=
  { linear := { x := .fin c.x, y := .fin c.y, z := .fin c.z }, angular := { z := .fin c.yaw } }

/-- The twist has these velocities; its other components are not looked at. -/
structure Agrees (c : ExactCommand) (t : Twist) : Prop where
  x : t.linear.x = .fin c.x
  y : t.linear.y = .fin c.y
  z : t.linear.z = .fin c.z
  yaw : t.angular.z = .fin c.yaw

theorem toTwist_agrees (c : ExactCommand) : c.Agrees c.toTwist := ⟨rfl, rfl, rfl, rfl⟩

theorem Agrees.eq_toTwist {c : ExactCommand} {t : Twist} (h : c.Agrees t)
    (hx : t.angular.x = 0) (hy : t.angular.y = 0) : t = c.toTwist := by
  obtain ⟨⟨x, y, z⟩, ⟨roll, pitch, yaw⟩⟩ := t
  obtain ⟨rfl, rfl, rfl, rfl⟩ := h
  obtain rfl : roll = 0 := hx
  obtain rfl : pitch = 0 := hy
  rfl

theorem zero_toTwist : zero.toTwist = {} := rfl

theorem agrees_of_isFinite {t : Twist} (h : t.isFinite = true) :
    ∃ c : ExactCommand, c.Agrees t := by
  simp only [Twist.isFinite, Vector3.isFinite, Bool.and_eq_true, isFinite_iff] at h
  obtain ⟨⟨⟨⟨x, hx⟩, ⟨y, hy⟩⟩, ⟨z, hz⟩⟩, ⟨-, -⟩, ⟨yaw, hyaw⟩⟩ := h
  exact ⟨⟨x, y, z, yaw⟩, hx, hy, hz, hyaw⟩

end ExactCommand

def curb (angular linear radius : ℚ) : ℚ :=
  if radius = 0 then angular
  else max (-(|linear| / radius)) (min (|linear| / radius) angular)

theorem curb_curb (angular linear radius : ℚ) (hradius : 0 ≤ radius) :
    curb (curb angular linear radius) linear radius = curb angular linear radius := by
  unfold curb
  split
  · rfl
  · have hbound : 0 ≤ |linear| / radius := div_nonneg (abs_nonneg _) hradius
    have hlow : -(|linear| / radius) ≤ |linear| / radius := by linarith
    have hle : max (-(|linear| / radius)) (min (|linear| / radius) angular) ≤
        |linear| / radius := max_le hlow (min_le_left _ _)
    rw [min_eq_right hle, max_eq_right (le_max_left _ _)]

theorem abs_curb_le (angular linear radius : ℚ) (hradius : 0 ≤ radius) :
    |curb angular linear radius| ≤ |angular| := by
  unfold curb
  split
  · exact le_rfl
  · have hbound : 0 ≤ |linear| / radius := div_nonneg (abs_nonneg _) hradius
    rw [abs_le]
    constructor
    · rw [le_max_iff, le_min_iff]
      right
      exact ⟨by linarith [abs_nonneg angular], neg_abs_le angular⟩
    · refine max_le (by linarith [abs_nonneg angular]) ?_
      exact (min_le_right _ _).trans (le_abs_self angular)

theorem mul_curb_nonneg {start angular linear radius : ℚ} (hradius : 0 ≤ radius)
    (h : 0 ≤ start * angular) : 0 ≤ start * curb angular linear radius := by
  rw [curb]
  split
  · exact h
  · have hbound : 0 ≤ |linear| / radius := div_nonneg (abs_nonneg _) hradius
    rcases lt_trichotomy start 0 with hneg | rfl | hpos
    · have hangular : angular ≤ 0 := nonpos_of_mul_nonneg_right h hneg
      refine mul_nonneg_of_nonpos_of_nonpos hneg.le (max_le (by linarith) ?_)
      exact (min_le_right _ _).trans hangular
    · rw [zero_mul]
    · have hangular : 0 ≤ angular := nonneg_of_mul_nonneg_right h hpos
      exact mul_nonneg hpos.le ((le_min hbound hangular).trans (le_max_right _ _))

theorem withinRadius_fin {angular linear radius : ℚ} (hradius : 0 ≤ radius) :
    withinRadius (.fin angular) (.fin linear) (.fin radius) =
      .fin (curb angular linear radius) := by
  unfold withinRadius curb
  simp only [zero_def, fin_le_fin]
  by_cases h : radius = 0
  · rw [if_pos h.le, if_pos h]
  · have hpos : 0 < radius := lt_of_le_of_ne hradius (Ne.symm h)
    have hbound : 0 ≤ |linear| / radius := div_nonneg (abs_nonneg _) hradius
    rw [if_neg (not_le.mpr hpos), if_neg h, abs_fin, div_fin h, neg_fin,
      clamp_fin (by linarith)]

theorem slowing_fin (current target : ℚ) :
    slowing (.fin current) (.fin target) = decide (Slowing current target) := by
  rw [Bool.eq_iff_iff, decide_eq_true_iff]
  simp [slowing, Slowing, zero_def]

theorem stepAxis_fin {current target acc decel dt : ℚ} (hacc : 0 ≤ acc)
    (hdecel : 0 ≤ decel) (hdt : 0 ≤ dt) :
    stepAxis (.fin current) (.fin target) (.fin acc) (.fin decel) (.fin dt) =
      .fin (ramp current target acc decel dt) := by
  have hbound := stepBound_nonneg current target hacc hdecel hdt
  have hdelta : (if slowing (.fin current) (.fin target) then
        (.fin decel : Double) else .fin acc) * .fin dt =
      .fin (stepBound current target acc decel dt) := by
    rw [slowing_fin, stepBound]
    by_cases h : Slowing current target
    · simp [h]
    · simp [h]
  have hnext : (.fin current : Double) +
        Extended.clamp (.fin target - .fin current)
          (-.fin (stepBound current target acc decel dt))
          (.fin (stepBound current target acc decel dt)) =
      .fin (approach current target (stepBound current target acc decel dt)) := by
    rw [sub_fin, neg_fin, clamp_fin (by linarith), add_fin]
    rfl
  unfold stepAxis ramp
  simp only [hdelta, hnext, zero_def, fin_lt_fin, Bool.or_eq_true, Bool.and_eq_true,
    decide_eq_true_eq]
  split
  · rfl
  · rfl

namespace ExactCommand

def clamp (t : ExactCommand) (e : ExactLimits) : ExactCommand :=
  let x := max e.minLinearVel (min e.maxLinearVel t.x)
  { x := x
    y := max (-e.maxLateralVel) (min e.maxLateralVel t.y)
    z := max (-e.maxVerticalVel) (min e.maxVerticalVel t.z)
    yaw := curb (max (-e.maxAngularVel) (min e.maxAngularVel t.yaw)) x e.minTurningRadius }

def step (c : ExactCommand) (e : ExactLimits) (t : ExactCommand) (dt : ℚ) : ExactCommand :=
  let goal := t.clamp e
  let x := ramp c.x goal.x e.maxLinearAcc e.maxLinearDecel (max dt 0)
  let yaw := ramp c.yaw goal.yaw e.maxAngularAcc e.maxAngularDecel (max dt 0)
  { x := x
    y := ramp c.y goal.y e.maxLateralAcc e.maxLateralDecel (max dt 0)
    z := ramp c.z goal.z e.maxVerticalAcc e.maxVerticalDecel (max dt 0)
    yaw := curb yaw x e.minTurningRadius }

theorem clamp_zero (e : ExactLimits) : zero.clamp e = zero := by
  have hx : max e.minLinearVel (min e.maxLinearVel 0) = 0 := by
    rw [min_eq_right e.maxLinearVel_nonneg, max_eq_right e.minLinearVel_nonpos]
  have hsymm : ∀ v : ℚ, 0 ≤ v → max (-v) (min v 0) = 0 := by
    intro v hv
    rw [min_eq_right hv, max_eq_right (neg_nonpos.mpr hv)]
  unfold clamp
  simp only [zero, hx, hsymm _ e.maxLateralVel_nonneg,
    hsymm _ e.maxVerticalVel_nonneg, hsymm _ e.maxAngularVel_nonneg]
  simp [curb]

theorem step_zero (e : ExactLimits) (dt : ℚ) : zero.step e zero dt = zero := by
  have hdt : 0 ≤ max dt 0 := le_max_right _ _
  unfold step
  simp only [clamp_zero]
  simp only [zero,
    ramp_self e.maxLinearAcc_pos.le e.maxLinearDecel_pos.le hdt,
    ramp_self e.maxLateralAcc_pos.le e.maxLateralDecel_pos.le hdt,
    ramp_self e.maxVerticalAcc_pos.le e.maxVerticalDecel_pos.le hdt,
    ramp_self e.maxAngularAcc_pos.le e.maxAngularDecel_pos.le hdt]
  simp [curb]

theorem smoother_clamp_eq {s : VelocitySmoother} {e : ExactLimits}
    (hlimits : s.limits = e.toRobotLimits)
    {target : Twist} {t : ExactCommand} (ht : t.Agrees target) :
    s.clamp target = (t.clamp e).toTwist := by
  have hlinear := e.minLinearVel_le_maxLinearVel
  have hlateral := neg_le_self e.maxLateralVel_nonneg
  have hvertical := neg_le_self e.maxVerticalVel_nonneg
  have hangular := neg_le_self e.maxAngularVel_nonneg
  unfold VelocitySmoother.clamp
  simp only [hlimits, ExactLimits.toRobotLimits, ht.x, ht.y, ht.z, ht.yaw, neg_fin,
    clamp_fin hlinear, clamp_fin hlateral, clamp_fin hvertical, clamp_fin hangular,
    withinRadius_fin e.minTurningRadius_nonneg]
  rfl

theorem smoother_step_agrees {s : VelocitySmoother} {e : ExactLimits}
    (hlimits : s.limits = e.toRobotLimits)
    {c t : ExactCommand} (hc : c.Agrees s.current) {target : Twist} (ht : t.Agrees target)
    (dt : ℚ) : (c.step e t dt).Agrees (s.step target (.fin dt)).current := by
  have hdt : 0 ≤ max dt 0 := le_max_right _ _
  unfold VelocitySmoother.step
  simp only [smoother_clamp_eq hlimits ht, hc.x, hc.y, hc.z, hc.yaw, zero_def, stdMax_fin]
  simp only [toTwist, hlimits, ExactLimits.toRobotLimits,
    stepAxis_fin e.maxLinearAcc_pos.le e.maxLinearDecel_pos.le hdt,
    stepAxis_fin e.maxLateralAcc_pos.le e.maxLateralDecel_pos.le hdt,
    stepAxis_fin e.maxVerticalAcc_pos.le e.maxVerticalDecel_pos.le hdt,
    stepAxis_fin e.maxAngularAcc_pos.le e.maxAngularDecel_pos.le hdt,
    withinRadius_fin e.minTurningRadius_nonneg]
  exact ⟨rfl, rfl, rfl, rfl⟩

/-- On valid limits and finite commands the smoother steps as the exact ramp. -/
theorem smoother_step_eq {s : VelocitySmoother} {e : ExactLimits}
    (hlimits : s.limits = e.toRobotLimits)
    {c t : ExactCommand} (hc : s.current = c.toTwist) {target : Twist} (ht : t.Agrees target)
    (dt : ℚ) :
    (s.step target (.fin dt)).current = (c.step e t dt).toTwist := by
  have hagrees : c.Agrees s.current := hc ▸ c.toTwist_agrees
  apply (smoother_step_agrees hlimits hagrees ht dt).eq_toTwist
  · exact congrArg (·.angular.x) hc
  · exact congrArg (·.angular.y) hc

end ExactCommand

theorem VelocitySmoother.step_zero {s : VelocitySmoother} {e : ExactLimits}
    (hlimits : s.limits = e.toRobotLimits) (hcurrent : s.current = {}) (dt : ℚ) :
    (s.step {} (.fin dt)).current = {} := by
  have hzero : s.current = ExactCommand.zero.toTwist := hcurrent
  have hstep := ExactCommand.smoother_step_eq hlimits hzero
    ExactCommand.zero.toTwist_agrees dt
  rw [ExactCommand.step_zero, ExactCommand.zero_toTwist] at hstep
  exact hstep

end EasyNav.VelocityRamp
