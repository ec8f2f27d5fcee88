import EasyNav.CommandPublication
import EasyNav.SmootherSafety
import Mathlib.Algebra.Order.Archimedean.Basic

namespace EasyNav.SmootherConvergence

open EasyNav.ExtendedArithmetic
open EasyNav.ExtendedArithmetic.Extended
open EasyNav.DoubleArithmetic
open EasyNav.AxisRamp
open EasyNav.SpeedLimits
open EasyNav.NavigationState
open EasyNav.VelocityRamp
open EasyNav.CommandPublication
open EasyNav.CommandPublication.ControllerNode
open EasyNav.SettledSpeed
open EasyNav.SmootherSafety

def follow (s : VelocitySmoother) (target : Twist) (dts : List ℚ) : VelocitySmoother :=
  dts.foldl (fun s dt => s.step target (.fin dt)) s

def exactFollow (e : ExactLimits) (t c : ExactCommand) (dts : List ℚ) : ExactCommand :=
  dts.foldl (fun c dt => c.step e t dt) c

/-- Once there are enough of them, steps of at least `d` seconds bring a velocity to its
goal. -/
def Reaches (e : ExactLimits) (c t : ExactCommand) (d : ℚ) (axis : ExactCommand → ℚ) : Prop :=
  ∃ n : ℕ, ∀ dts : List ℚ, n ≤ dts.length → (∀ dt ∈ dts, d ≤ dt) →
    axis (exactFollow e t c dts) = axis (t.clamp e)

section Following

variable {e : ExactLimits} {c t : ExactCommand} {d : ℚ} {dts : List ℚ}

theorem follow_exact {s : VelocitySmoother} {target : Twist} (hlimits : s.limits = e.toRobotLimits)
    (hcurrent : s.current = c.toTwist) (ht : t.Agrees target) (dts : List ℚ) :
    (follow s target dts).limits = e.toRobotLimits ∧
      (follow s target dts).current = (exactFollow e t c dts).toTwist := by
  induction dts generalizing s c with
  | nil => exact ⟨hlimits, hcurrent⟩
  | cons dt dts ih =>
      have hstep := ExactCommand.smoother_step_eq hlimits hcurrent ht dt
      have hkept : (s.step target (.fin dt)).limits = e.toRobotLimits := hlimits
      exact ih hkept hstep

theorem step_of_pos {dt : ℚ} (hd : 0 < d) (hdt : d ≤ dt) :
    c.step e t dt =
      { x := ramp c.x (t.clamp e).x e.maxLinearAcc e.maxLinearDecel dt
        y := ramp c.y (t.clamp e).y e.maxLateralAcc e.maxLateralDecel dt
        z := ramp c.z (t.clamp e).z e.maxVerticalAcc e.maxVerticalDecel dt
        yaw := curb (ramp c.yaw (t.clamp e).yaw e.maxAngularAcc e.maxAngularDecel dt)
          (ramp c.x (t.clamp e).x e.maxLinearAcc e.maxLinearDecel dt) e.minTurningRadius } := by
  have hmax : max dt 0 = dt := max_eq_left (by linarith)
  simp [ExactCommand.step, hmax]

theorem rate_le {acc decel dt : ℚ} (hacc : 0 < acc) (hdecel : 0 < decel) (hd : 0 < d)
    (hdt : d ≤ dt) : min acc decel * d ≤ acc * dt ∧ min acc decel * d ≤ decel * dt := by
  constructor
  · exact mul_le_mul (min_le_left _ _) hdt hd.le hacc.le
  · exact mul_le_mul (min_le_right _ _) hdt hd.le hdecel.le

theorem axis_reaches {axis : ExactCommand → ℚ} {acc decel : ℚ} (hacc : 0 < acc)
    (hdecel : 0 < decel) (hd : 0 < d)
    (haxis : ∀ c dt, d ≤ dt →
      axis (c.step e t dt) = ramp (axis c) (axis (t.clamp e)) acc decel dt) (c : ExactCommand) :
    Reaches e c t d axis := by
  have hdelta : 0 < min acc decel * d := mul_pos (lt_min hacc hdecel) hd
  obtain ⟨n, hn⟩ := exists_nat_gt
    (remaining (axis c) (axis (t.clamp e)) (min acc decel * d) / (min acc decel * d))
  refine ⟨n, fun dts hlength hdts => ?_⟩
  apply foldl_reaches (fun _ => True) (fun c => axis c = axis (t.clamp e))
    (fun c => remaining (axis c) (axis (t.clamp e)) (min acc decel * d)) (fun dt => d ≤ dt)
  · exact fun _ => remaining_nonneg hdelta.le
  · exact fun _ _ _ _ => trivial
  · intro c dt hdt _ hreached
    rw [haxis c dt hdt, hreached, ramp_self hacc.le hdecel.le (hd.le.trans hdt)]
  · intro c dt hdt _
    rw [haxis c dt hdt]
    obtain ⟨hfast, hslow⟩ := rate_le hacc hdecel hd hdt
    exact remaining_ramp hdelta.le hfast hslow hacc.le hdecel.le (hd.le.trans hdt)
  · exact hdts
  · trivial
  · right
    rw [div_lt_iff₀ hdelta] at hn
    have hmore : (n : ℚ) ≤ dts.length := by exact_mod_cast hlength
    exact hn.trans_le (mul_le_mul_of_nonneg_right hmore hdelta.le)

/-- The turning radius only moves a yaw towards one that it allows. -/
theorem curb_mem_uIcc {angular goal linear radius : ℚ} (hradius : 0 ≤ radius)
    (hgoal : curb goal linear radius = goal) :
    curb angular linear radius ∈ Set.uIcc angular goal := by
  have hcases : curb angular linear radius = angular ∨
      Cut angular linear radius (curb angular linear radius) := curb_cases hradius
  rcases hcases with h | h
  · rw [h]
    exact Set.left_mem_uIcc
  · have hbound : |goal| ≤ |curb angular linear radius| := by
      rw [h.abs_eq, ← hgoal]
      exact abs_curb_bound goal linear h.radius_pos
    have hshorter := h.shorter
    have hsign := h.sign
    set next := curb angular linear radius
    rw [Set.mem_uIcc]
    rcases lt_trichotomy angular 0 with hneg | rfl | hpos
    · have hnext : next ≤ 0 := nonpos_of_mul_nonneg_right hsign hneg
      rw [abs_of_nonpos hnext] at hbound hshorter
      rw [abs_of_neg hneg] at hshorter
      rw [abs_le] at hbound
      exact Or.inl ⟨by linarith, by linarith⟩
    · rw [abs_zero, abs_nonpos_iff] at hshorter
      rw [hshorter, abs_zero, abs_nonpos_iff] at hbound
      rw [hshorter, hbound]
      exact Or.inl ⟨le_rfl, le_rfl⟩
    · have hnext : 0 ≤ next := nonneg_of_mul_nonneg_right hsign hpos
      rw [abs_of_nonneg hnext] at hbound hshorter
      rw [abs_of_pos hpos] at hshorter
      rw [abs_le] at hbound
      exact Or.inr ⟨by linarith, by linarith⟩

/-- Once the forward velocity is at its goal, a step brings the yaw nearer to its own. -/
theorem yaw_step {dt : ℚ} (hd : 0 < d) (hdt : d ≤ dt) (hx : c.x = (t.clamp e).x) :
    (c.step e t dt).yaw = (t.clamp e).yaw ∨
      remaining (c.step e t dt).yaw (t.clamp e).yaw
          (min e.maxAngularAcc e.maxAngularDecel * d) ≤
        remaining c.yaw (t.clamp e).yaw (min e.maxAngularAcc e.maxAngularDecel * d) -
          min e.maxAngularAcc e.maxAngularDecel * d := by
  have hdt' := hd.le.trans hdt
  have hgoal : curb (t.clamp e).yaw (t.clamp e).x e.minTurningRadius = (t.clamp e).yaw :=
    curb_curb _ _ _ e.minTurningRadius_nonneg
  have hdelta : 0 < min e.maxAngularAcc e.maxAngularDecel * d :=
    mul_pos (lt_min e.maxAngularAcc_pos e.maxAngularDecel_pos) hd
  obtain ⟨hfast, hslow⟩ := rate_le e.maxAngularAcc_pos e.maxAngularDecel_pos hd hdt
  rw [step_of_pos hd hdt]
  dsimp only
  rw [hx, ramp_self e.maxLinearAcc_pos.le e.maxLinearDecel_pos.le hdt']
  set angular := ramp c.yaw (t.clamp e).yaw e.maxAngularAcc e.maxAngularDecel dt
  have hramp : angular = (t.clamp e).yaw ∨ remaining angular (t.clamp e).yaw _ ≤ _ :=
    remaining_ramp hdelta.le hfast hslow e.maxAngularAcc_pos.le e.maxAngularDecel_pos.le hdt'
  rcases hramp with h | h
  · exact Or.inl (by rw [h, hgoal])
  · right
    have hmem : curb angular (t.clamp e).x e.minTurningRadius ∈
        Set.uIcc angular (t.clamp e).yaw := curb_mem_uIcc e.minTurningRadius_nonneg hgoal
    have hcurbed := remaining_of_mem_uIcc hdelta.le hmem
    exact (hcurbed.trans (sub_le_self _ (abs_nonneg _))).trans h

theorem abs_yaw_step_le {dt bound : ℚ} (hd : 0 < d) (hdt : d ≤ dt) (hc : |c.yaw| ≤ bound)
    (hgoal : |(t.clamp e).yaw| ≤ bound) : |(c.step e t dt).yaw| ≤ bound := by
  rw [step_of_pos hd hdt]
  refine (abs_curb_le _ _ _ e.minTurningRadius_nonneg).trans ?_
  rw [abs_le, ← Set.mem_Icc] at hc hgoal ⊢
  exact ramp_mem_Icc e.maxAngularAcc_pos e.maxAngularDecel_pos (hd.le.trans hdt) hc hgoal

theorem abs_yaw_le {bound : ℚ} (hd : 0 < d) (hdts : ∀ dt ∈ dts, d ≤ dt) (hc : |c.yaw| ≤ bound)
    (hgoal : |(t.clamp e).yaw| ≤ bound) : |(exactFollow e t c dts).yaw| ≤ bound := by
  induction dts generalizing c with
  | nil => exact hc
  | cons dt dts ih =>
      obtain ⟨hdt, hrest⟩ := List.forall_mem_cons.mp hdts
      exact ih hrest (abs_yaw_step_le hd hdt hc hgoal)

theorem yaw_reaches (e : ExactLimits) (t : ExactCommand) (hd : 0 < d) (bound : ℚ) :
    ∃ n : ℕ, ∀ c : ExactCommand, c.x = (t.clamp e).x → |c.yaw| ≤ bound →
      ∀ dts : List ℚ, n ≤ dts.length → (∀ dt ∈ dts, d ≤ dt) →
        (exactFollow e t c dts).yaw = (t.clamp e).yaw := by
  set delta := min e.maxAngularAcc e.maxAngularDecel * d with hdef
  have hdelta : 0 < delta := mul_pos (lt_min e.maxAngularAcc_pos e.maxAngularDecel_pos) hd
  obtain ⟨n, hn⟩ := exists_nat_gt ((|(t.clamp e).yaw| + bound + delta) / delta)
  refine ⟨n, fun c hx hbound dts hlength hdts => ?_⟩
  apply foldl_reaches (fun c : ExactCommand => c.x = (t.clamp e).x)
    (fun c => c.yaw = (t.clamp e).yaw) (fun c => remaining c.yaw (t.clamp e).yaw delta)
    (fun dt => d ≤ dt)
  · exact fun _ => remaining_nonneg hdelta.le
  · intro c dt hdt hx
    rw [step_of_pos hd hdt, hx]
    exact ramp_self e.maxLinearAcc_pos.le e.maxLinearDecel_pos.le (hd.le.trans hdt)
  · intro c dt hdt hx hyaw
    rw [step_of_pos hd hdt]
    dsimp only
    rw [hx, hyaw, ramp_self e.maxLinearAcc_pos.le e.maxLinearDecel_pos.le (hd.le.trans hdt),
      ramp_self e.maxAngularAcc_pos.le e.maxAngularDecel_pos.le (hd.le.trans hdt)]
    exact curb_curb _ _ _ e.minTurningRadius_nonneg
  · exact fun c dt hdt hx => yaw_step hd hdt hx
  · exact hdts
  · exact hx
  · right
    rw [div_lt_iff₀ hdelta] at hn
    have hmore : (n : ℚ) ≤ dts.length := by exact_mod_cast hlength
    have hleft : remaining c.yaw (t.clamp e).yaw delta ≤ |(t.clamp e).yaw| + |c.yaw| + delta :=
      remaining_le hdelta.le
    have henough := mul_le_mul_of_nonneg_right hmore hdelta.le
    linarith

/-- The yaw may have to wait for the forward velocity. -/
theorem exact_reaches (e : ExactLimits) (c t : ExactCommand) (hd : 0 < d) :
    ∃ n : ℕ, ∀ dts : List ℚ, n ≤ dts.length → (∀ dt ∈ dts, d ≤ dt) →
      exactFollow e t c dts = t.clamp e := by
  obtain ⟨nx, hx⟩ : Reaches e c t d ExactCommand.x :=
    axis_reaches e.maxLinearAcc_pos e.maxLinearDecel_pos hd
      (fun c dt hdt => by rw [step_of_pos hd hdt]) c
  obtain ⟨ny, hy⟩ : Reaches e c t d ExactCommand.y :=
    axis_reaches e.maxLateralAcc_pos e.maxLateralDecel_pos hd
      (fun c dt hdt => by rw [step_of_pos hd hdt]) c
  obtain ⟨nz, hz⟩ : Reaches e c t d ExactCommand.z :=
    axis_reaches e.maxVerticalAcc_pos e.maxVerticalDecel_pos hd
      (fun c dt hdt => by rw [step_of_pos hd hdt]) c
  obtain ⟨nyaw, hyaw⟩ := yaw_reaches e t hd (max |c.yaw| |(t.clamp e).yaw|)
  refine ⟨nx + ny + nz + nyaw, fun dts hlength hdts => ?_⟩
  apply ExactCommand.ext
  · exact hx dts (by omega) hdts
  · exact hy dts (by omega) hdts
  · exact hz dts (by omega) hdts
  · have hfirst : ∀ dt ∈ dts.take nx, d ≤ dt := fun dt hdt => hdts dt (List.mem_of_mem_take hdt)
    have hrest : ∀ dt ∈ dts.drop nx, d ≤ dt := fun dt hdt => hdts dt (List.mem_of_mem_drop hdt)
    have hsplit : exactFollow e t c dts =
        exactFollow e t (exactFollow e t c (dts.take nx)) (dts.drop nx) := by
      rw [exactFollow, exactFollow, exactFollow, ← List.foldl_append, List.take_append_drop]
    rw [hsplit]
    apply hyaw
    · exact hx _ (by rw [List.length_take]; omega) hfirst
    · exact abs_yaw_le hd hfirst (le_max_left _ _) (le_max_right _ _)
    · rw [List.length_drop]
      omega
    · exact hrest

end Following

def exactTimeToStop (e : ExactLimits) (c : ExactCommand) : ℚ :=
  max
    (max
      (max (|c.x| / max e.maxLinearDecel (1 / 1000000))
        (|c.y| / max e.maxLateralDecel (1 / 1000000)))
      (|c.z| / max e.maxVerticalDecel (1 / 1000000)))
    (|c.yaw| / max e.maxAngularDecel (1 / 1000000))

/-- The decelerations are not less than the estimate takes them to be. -/
structure Brakes (limits : RobotLimits) : Prop where
  linear : kEpsilon ≤ limits.maxLinearDecel
  lateral : kEpsilon ≤ limits.maxLateralDecel
  vertical : kEpsilon ≤ limits.maxVerticalDecel
  angular : kEpsilon ≤ limits.maxAngularDecel

section Braking

variable {e : ExactLimits} {c : ExactCommand}

theorem timeToStop_eq {s : VelocitySmoother} (hlimits : s.limits = e.toRobotLimits)
    (hcurrent : s.current = c.toTwist) : s.timeToStop = .fin (exactTimeToStop e c) := by
  have hfin : ∀ value decel : ℚ, Extended.abs (.fin value) / stdMax (.fin decel) kEpsilon =
      .fin (|value| / max decel (1 / 1000000)) := by
    intro value decel
    have hne : max decel (1 / 1000000) ≠ 0 := (lt_max_of_lt_right (by norm_num)).ne'
    rw [kEpsilon, stdMax_fin, abs_fin, div_fin hne]
  simp only [VelocitySmoother.timeToStop, hlimits, hcurrent, ExactLimits.toRobotLimits,
    ExactCommand.toTwist, hfin, stdMax_fin, exactTimeToStop]

theorem exactTimeToStop_nonneg (e : ExactLimits) (c : ExactCommand) :
    0 ≤ exactTimeToStop e c :=
  le_max_of_le_right (div_nonneg (abs_nonneg _) (le_max_of_le_left e.maxAngularDecel_pos.le))

theorem eq_zero_of_exactTimeToStop (h : exactTimeToStop e c ≤ 0) : c = .zero := by
  have haxis : ∀ {value decel : ℚ}, 0 < decel → |value| / max decel (1 / 1000000) ≤ 0 →
      value = 0 := by
    intro value decel hdecel hle
    rw [div_le_iff₀ (lt_max_of_lt_left hdecel), zero_mul, abs_nonpos_iff] at hle
    exact hle
  rw [exactTimeToStop, max_le_iff, max_le_iff, max_le_iff] at h
  obtain ⟨⟨⟨hx, hy⟩, hz⟩, hyaw⟩ := h
  apply ExactCommand.ext
  · exact haxis e.maxLinearDecel_pos hx
  · exact haxis e.maxLateralDecel_pos hy
  · exact haxis e.maxVerticalDecel_pos hz
  · exact haxis e.maxAngularDecel_pos hyaw

theorem exactTimeToStop_step (hbrakes : Brakes e.toRobotLimits) {dt : ℚ} (hdt : 0 ≤ dt) :
    exactTimeToStop e (c.step e .zero dt) ≤ max 0 (exactTimeToStop e c - dt) := by
  have haxis : ∀ {value next decel : ℚ}, kEpsilon ≤ (.fin decel : Double) → 0 < decel →
      |next| ≤ max 0 (|value| - decel * dt) →
      |value| / max decel (1 / 1000000) ≤ exactTimeToStop e c →
      |next| / max decel (1 / 1000000) ≤ max 0 (exactTimeToStop e c - dt) := by
    intro value next decel hepsilon hdecel hnext hvalue
    rw [kEpsilon, fin_le_fin] at hepsilon
    rw [max_eq_left hepsilon] at hvalue ⊢
    rw [div_le_iff₀ hdecel] at hvalue ⊢
    refine hnext.trans (max_le (mul_nonneg (le_max_left _ _) hdecel.le) ?_)
    have hright := mul_le_mul_of_nonneg_right (le_max_right 0 (exactTimeToStop e c - dt)) hdecel.le
    linarith
  have hgoal := ExactCommand.clamp_zero e
  simp only [ExactCommand.step, hgoal, max_eq_left hdt]
  simp only [ExactCommand.zero]
  refine max_le (max_le (max_le ?_ ?_) ?_) ?_
  · refine haxis hbrakes.linear e.maxLinearDecel_pos (abs_ramp_zero c.x e.maxLinearAcc_pos.le
      e.maxLinearDecel_pos.le hdt).le ?_
    exact le_max_of_le_left (le_max_of_le_left (le_max_left _ _))
  · refine haxis hbrakes.lateral e.maxLateralDecel_pos (abs_ramp_zero c.y e.maxLateralAcc_pos.le
      e.maxLateralDecel_pos.le hdt).le ?_
    exact le_max_of_le_left (le_max_of_le_left (le_max_right _ _))
  · refine haxis hbrakes.vertical e.maxVerticalDecel_pos (abs_ramp_zero c.z
      e.maxVerticalAcc_pos.le e.maxVerticalDecel_pos.le hdt).le ?_
    exact le_max_of_le_left (le_max_right _ _)
  · refine haxis hbrakes.angular e.maxAngularDecel_pos ?_ (le_max_right _ _)
    refine (abs_curb_le _ _ _ e.minTurningRadius_nonneg).trans ?_
    exact (abs_ramp_zero c.yaw e.maxAngularAcc_pos.le e.maxAngularDecel_pos.le hdt).le

theorem exactTimeToStop_follow (hbrakes : Brakes e.toRobotLimits) {dt : ℚ} (hdt : 0 ≤ dt)
    (n : ℕ) : exactTimeToStop e (exactFollow e .zero c (List.replicate n dt)) ≤
      max 0 (exactTimeToStop e c - n * dt) := by
  induction n generalizing c with
  | zero =>
      rw [Nat.cast_zero, zero_mul, sub_zero]
      exact le_max_right _ _
  | succ n ih =>
      have hstep := exactTimeToStop_step (c := c) hbrakes hdt
      refine (ih (c := c.step e .zero dt)).trans (max_le (le_max_left _ _) ?_)
      have hpast : 0 ≤ (n : ℚ) * dt := mul_nonneg n.cast_nonneg hdt
      push_cast
      rcases le_max_iff.mp hstep with h | h
      · exact le_max_of_le_left (by linarith)
      · exact le_max_of_le_right (by linarith)

theorem follow_zero (hbrakes : Brakes e.toRobotLimits) {dt : ℚ} (hdt : 0 < dt) {n : ℕ}
    (hn : ⌈exactTimeToStop e c / dt⌉₊ ≤ n) :
    exactFollow e .zero c (List.replicate n dt) = .zero := by
  have hfollow := exactTimeToStop_follow (c := c) hbrakes hdt.le n
  have henough : exactTimeToStop e c - n * dt ≤ 0 := by
    have hle : exactTimeToStop e c / dt ≤ n := (Nat.le_ceil _).trans (by exact_mod_cast hn)
    rw [div_le_iff₀ hdt] at hle
    linarith
  rw [max_eq_left henough] at hfollow
  exact eq_zero_of_exactTimeToStop hfollow

end Braking

/-- What stopping leaves of the node when its braking loop ends. -/
def braked (node : ControllerNode) (readings : StopReadings) : ControllerNode :=
  node.brake readings.robotFrame
    (seconds readings.start + (node.smoother.timeToStop + kStopMargin)) readings.loop

/-- No iteration of the braking loop takes longer than its period. -/
def Punctual (readings : StopReadings) : Prop :=
  List.IsChain (fun previous next : Time => next ≤ previous + 20000000)
    (readings.start :: readings.loop.map Prod.fst)

section Stopping

variable {e : ExactLimits} {c : ExactCommand} {node : ControllerNode}

theorem reached_of_zero {s : VelocitySmoother} (hlimits : s.limits = e.toRobotLimits)
    (hcurrent : s.current = {}) : s.reached {} = true := by
  have hgoal : s.clamp {} = {} := by
    have hzero : ExactCommand.zero.Agrees {} := ExactCommand.zero.toTwist_agrees
    rw [ExactCommand.smoother_clamp_eq hlimits hzero, ExactCommand.clamp_zero,
      ExactCommand.zero_toTwist]
  simp only [VelocitySmoother.reached, hgoal, hcurrent]
  decide +kernel

theorem brake_of_reached (h : node.smoother.reached {} = true) (robotFrame : String)
    (deadline : Double) (readings : List (Time × Time)) :
    node.brake robotFrame deadline readings = node := by
  cases readings with
  | nil => rfl
  | cons reading readings => simp [brake, h]

theorem brake_of_before (h : node.smoother.reached {} = false) (robotFrame : String)
    {deadline : Double} {steady : Time} (hbefore : seconds steady < deadline) (now : Time)
    (readings : List (Time × Time)) :
    node.brake robotFrame deadline ((steady, now) :: readings) =
      ({ node with smoother := node.smoother.step {} kStopPeriod }.publish
        { header := { stamp := now, frameId := robotFrame }
          twist := (node.smoother.step {} kStopPeriod).current }).brake
        robotFrame deadline readings := by
  simp [brake, h, hbefore]

/-- The estimate fits into this number of readings, and into the time from the reading before
to the deadline. -/
def WithinBudget (e : ExactLimits) (c : ExactCommand) (readings : Nat) (previous : Time)
    (deadline : ℚ) : Prop :=
  exactTimeToStop e c < readings * (2 / 100) ∧
    (previous : ℚ) / 1000000000 + exactTimeToStop e c + 2 / 10 ≤ deadline

theorem WithinBudget.before {readings : Nat} {previous steady : Time} {deadline : ℚ}
    (h : WithinBudget e c readings previous deadline) (hsoon : steady ≤ previous + 20000000) :
    seconds steady < .fin deadline := by
  have hsoon' : (steady : ℚ) ≤ previous + 20000000 := by exact_mod_cast hsoon
  have hnonneg := exactTimeToStop_nonneg e c
  rw [seconds_eq, fin_lt_fin]
  linarith [h.2]

theorem WithinBudget.step (hbrakes : Brakes e.toRobotLimits) {readings : Nat}
    {previous steady : Time} {deadline : ℚ}
    (h : WithinBudget e c (readings + 1) previous deadline)
    (hsoon : steady ≤ previous + 20000000) :
    c.step e .zero (2 / 100) = .zero ∨
      WithinBudget e (c.step e .zero (2 / 100)) readings steady deadline := by
  have hsoon' : (steady : ℚ) ≤ previous + 20000000 := by exact_mod_cast hsoon
  have hless : exactTimeToStop e (c.step e .zero (2 / 100)) ≤ _ :=
    exactTimeToStop_step hbrakes (by norm_num)
  obtain ⟨hfew, htime⟩ := h
  rcases le_max_iff.mp hless with hless | hless
  · exact Or.inl (eq_zero_of_exactTimeToStop hless)
  · right
    rw [Nat.cast_succ] at hfew
    constructor
    · linarith
    · linarith

/-- The braking loop, `previous` being the reading before: as long as the estimate fits into
the time and the readings that are left, it stops at zero and never looks at the deadline in
vain. -/
theorem brake_reaches (hbrakes : Brakes e.toRobotLimits) (robotFrame : String) {deadline : ℚ}
    (readings : List (Time × Time)) {previous : Time}
    (hlimits : node.smoother.limits = e.toRobotLimits)
    (hcurrent : node.smoother.current = c.toTwist)
    (hpunctual : List.IsChain (fun previous next : Time => next ≤ previous + 20000000)
      (previous :: readings.map Prod.fst))
    (hbudget : c = .zero ∨ WithinBudget e c readings.length previous deadline) :
    (node.brake robotFrame (.fin deadline) readings).smoother.reached {} = true ∧
      node.brake robotFrame (.fin deadline) readings =
        node.brake robotFrame .posInf readings := by
  induction readings generalizing node c previous with
  | nil =>
      refine ⟨?_, rfl⟩
      rcases hbudget with rfl | ⟨hfew, -⟩
      · exact reached_of_zero hlimits hcurrent
      · rw [List.length_nil, Nat.cast_zero, zero_mul] at hfew
        exact absurd hfew (not_lt.mpr (exactTimeToStop_nonneg e c))
  | cons reading readings ih =>
      obtain ⟨steady, now⟩ := reading
      obtain ⟨hsoon, hrest⟩ := List.isChain_cons_cons.mp hpunctual
      cases hreached : node.smoother.reached {} with
      | true =>
          rw [brake_of_reached hreached, brake_of_reached hreached]
          exact ⟨hreached, rfl⟩
      | false =>
          rcases hbudget with rfl | hbudget
          · rw [reached_of_zero hlimits hcurrent] at hreached
            contradiction
          · have hforever : seconds steady < .posInf := fin_lt_posInf _
            have hstep := ExactCommand.smoother_step_eq hlimits hcurrent
              ExactCommand.zero.toTwist_agrees (2 / 100)
            rw [brake_of_before hreached robotFrame (hbudget.before hsoon) now,
              brake_of_before hreached robotFrame hforever now]
            exact ih hlimits hstep hrest (hbudget.step hbrakes hsoon)

theorem braked_reaches (hlimits : node.smoother.limits = e.toRobotLimits)
    (hcurrent : node.smoother.current = c.toTwist) (hbrakes : Brakes e.toRobotLimits)
    {readings : StopReadings} (hpunctual : Punctual readings)
    (henough : ⌈exactTimeToStop e c / (2 / 100)⌉₊ < readings.loop.length) :
    (braked node readings).smoother.reached {} = true ∧
      braked node readings = node.brake readings.robotFrame .posInf readings.loop := by
  have hdeadline : seconds readings.start + (node.smoother.timeToStop + kStopMargin) =
      .fin ((readings.start : ℚ) / 1000000000 + (exactTimeToStop e c + 2 / 10)) := by
    rw [timeToStop_eq hlimits hcurrent, seconds_eq, kStopMargin, add_fin, add_fin]
  have hfew : exactTimeToStop e c < readings.loop.length * (2 / 100) := by
    rw [← div_lt_iff₀ (by norm_num)]
    exact (Nat.le_ceil _).trans_lt (by exact_mod_cast henough)
  rw [braked, hdeadline]
  exact brake_reaches hbrakes _ _ hlimits hcurrent hpunctual (Or.inr ⟨hfew, by linarith⟩)

/-- Within valid limits, whatever the current command: steps of at least some length reach
any target and stay there, and braking takes no longer than estimated, so that the braking
loop of a stop ends at zero. -/
theorem reaches_target_and_stops {s : VelocitySmoother} {c : ExactCommand}
    (hlimits : invalidRobotLimits s.limits = "") (hcurrent : s.current = c.toTwist) :
    (∀ (target : Twist) (t : ExactCommand) (d : ℚ), t.Agrees target → 0 < d →
      ∃ n : ℕ, ∀ dts : List ℚ, n ≤ dts.length → (∀ dt ∈ dts, d ≤ dt) →
        (follow s target dts).current = s.clamp target) ∧
      (Brakes s.limits → ∃ time : ℚ, s.timeToStop = .fin time ∧
        (∀ n : ℕ, ⌈time / (2 / 100)⌉₊ ≤ n →
          (follow s {} (List.replicate n (2 / 100))).current = {}) ∧
        ∀ (node : ControllerNode) (readings : StopReadings), node.smoother = s →
          Punctual readings → ⌈time / (2 / 100)⌉₊ < readings.loop.length →
            (braked node readings).smoother.reached {} = true ∧
              braked node readings = node.brake readings.robotFrame .posInf readings.loop) := by
  obtain ⟨e, he⟩ := invalidRobotLimits_eq_empty_iff.mp hlimits
  constructor
  · intro target t d ht hd
    obtain ⟨n, hn⟩ := exact_reaches e c t hd
    refine ⟨n, fun dts hlength hdts => ?_⟩
    rw [(follow_exact he hcurrent ht dts).2, hn dts hlength hdts,
      ExactCommand.smoother_clamp_eq he ht]
  · intro hbrakes
    rw [he] at hbrakes
    refine ⟨exactTimeToStop e c, timeToStop_eq he hcurrent, fun n hn => ?_, ?_⟩
    · have hfollow := (follow_exact he hcurrent ExactCommand.zero.toTwist_agrees
        (List.replicate n (2 / 100))).2
      rw [follow_zero hbrakes (by norm_num) hn] at hfollow
      exact hfollow
    · rintro node readings rfl hpunctual henough
      exact braked_reaches he hcurrent hbrakes hpunctual henough

def drivingNode : ControllerNode where
  smoother := { current := { linear := { x := .fin (1 / 2) }, angular := { z := .fin 1 } } }

def brakingReadings : StopReadings where
  start := 0
  loop := (List.range 30).map fun i : ℕ => (20000000 * i, 0)
  last := 600000000

theorem reaches_target_and_stops_driving :
    (∃ n : ℕ, ∀ dts : List ℚ, n ≤ dts.length → (∀ dt ∈ dts, 1 / 10 ≤ dt) →
      (follow drivingNode.smoother { linear := { x := .fin 9 } } dts).current =
        { linear := { x := .fin (1 / 2) } }) ∧
      (braked drivingNode brakingReadings).smoother.reached {} = true := by
  have hcurrent : drivingNode.smoother.current = ExactCommand.toTwist ⟨1 / 2, 0, 0, 1⟩ := rfl
  have hlimits : invalidRobotLimits drivingNode.smoother.limits = "" := by decide +kernel
  have hbrakes : Brakes drivingNode.smoother.limits := by
    constructor <;> decide +kernel
  obtain ⟨hreaches, hstops⟩ := reaches_target_and_stops hlimits hcurrent
  constructor
  · obtain ⟨n, hn⟩ := hreaches { linear := { x := .fin 9 } } ⟨9, 0, 0, 0⟩ (1 / 10)
      ⟨rfl, rfl, rfl, rfl⟩ (by norm_num)
    refine ⟨n, fun dts hlength hdts => (hn dts hlength hdts).trans ?_⟩
    decide +kernel
  · obtain ⟨time, htime, -, hbraked⟩ := hstops hbrakes
    have hhalf : drivingNode.smoother.timeToStop = .fin (1 / 2) := by decide +kernel
    obtain rfl := Extended.fin.inj (hhalf.symm.trans htime)
    refine (hbraked _ _ rfl ?_ ?_).1
    · rw [Punctual]
      decide +kernel
    · rw [brakingReadings, List.length_map, List.length_range]
      norm_num

end Stopping

end EasyNav.SmootherConvergence
