import EasyNav.Runs
import EasyNav.SafetySupervision

namespace EasyNav.SettledSpeed

open EasyNav.ExtendedArithmetic
open EasyNav.ExtendedArithmetic.Extended
open EasyNav.DoubleArithmetic
open EasyNav.AxisRamp
open EasyNav.SpeedLimits
open EasyNav.NavigationState
open EasyNav.VelocityRamp
open EasyNav.CommandPublication
open EasyNav.SafetySupervision
open EasyNav.Runs

noncomputable def ExactCommand.speed (c : ExactCommand) : ℝ :=
  Real.sqrt ((c.x : ℝ) ^ 2 + (c.y : ℝ) ^ 2 + (c.z : ℝ) ^ 2)

/-- The largest square of a translational speed within the limits. -/
def cornerSpeedSq (e : ExactLimits) : ℚ :=
  max e.maxLinearVel (-e.minLinearVel) ^ 2 + e.maxLateralVel ^ 2 + e.maxVerticalVel ^ 2

def smootherStep (s : VelocitySmoother) (input : Twist × ℚ) : VelocitySmoother :=
  s.step input.1 (.fin input.2)

/-- A smoother that has followed finite targets from rest. -/
def Smoothing (limits : RobotLimits) (s : VelocitySmoother) : Prop :=
  ∃ past, Run smootherStep (fun s => s.limits = limits ∧ s.current = {}) s past ∧
    ∀ p ∈ past, p.2.1.isFinite = true

/-- The smoother's command does not move any more. -/
def Settled (s : VelocitySmoother) (target : Twist) : Prop :=
  ∀ dt : ℚ, s.step target (.fin dt) = s

theorem speed_le_iff {c : ExactCommand} {v : ℚ} (hv : 0 ≤ v) :
    ExactCommand.speed c ≤ v ↔ c.x ^ 2 + c.y ^ 2 + c.z ^ 2 ≤ v ^ 2 := by
  have hcast : (0 : ℝ) ≤ v := by exact_mod_cast hv
  unfold ExactCommand.speed
  rw [Real.sqrt_le_left hcast]
  exact_mod_cast Iff.rfl

theorem toTwist_injective {a b : ExactCommand} (h : a.toTwist = b.toTwist) : a = b := by
  rcases a with ⟨x, y, z, yaw⟩
  rcases b with ⟨x', y', z', yaw'⟩
  simpa [ExactCommand.toTwist, and_assoc] using h

theorem abs_curb_bound (angular linear : ℚ) {radius : ℚ} (hradius : 0 < radius) :
    |curb angular linear radius| ≤ |linear| / radius := by
  have hbound : 0 ≤ |linear| / radius := div_nonneg (abs_nonneg _) hradius.le
  unfold curb
  rw [if_neg hradius.ne', abs_le]
  exact ⟨le_max_left _ _, max_le (by linarith) (min_le_left _ _)⟩

theorem curb_of_abs_le {angular linear radius : ℚ} (h : |angular| ≤ |linear| / radius) :
    curb angular linear radius = angular := by
  rw [abs_le] at h
  unfold curb
  split
  · rfl
  · rw [min_eq_right h.2, max_eq_right h.1]

section Fixpoint

variable (e : ExactLimits) (c t : ExactCommand)

theorem step_clamp (dt : ℚ) : (t.clamp e).step e t dt = t.clamp e := by
  have hdt : 0 ≤ max dt 0 := le_max_right _ _
  unfold ExactCommand.step
  simp only [ramp_self e.maxLinearAcc_pos.le e.maxLinearDecel_pos.le hdt,
    ramp_self e.maxLateralAcc_pos.le e.maxLateralDecel_pos.le hdt,
    ramp_self e.maxVerticalAcc_pos.le e.maxVerticalDecel_pos.le hdt,
    ramp_self e.maxAngularAcc_pos.le e.maxAngularDecel_pos.le hdt]
  unfold ExactCommand.clamp
  simp only [curb_curb _ _ _ e.minTurningRadius_nonneg]

theorem eq_clamp_of_step_eq {dt : ℚ} (hdt : 0 < dt) (h : c.step e t dt = c) :
    c = t.clamp e := by
  have hmax : max dt 0 = dt := max_eq_left hdt.le
  unfold ExactCommand.step at h
  simp only [hmax, ExactCommand.ext_iff] at h
  obtain ⟨hx, hy, hz, hyaw⟩ := h
  have hx' := (ramp_eq_self_iff e.maxLinearAcc_pos e.maxLinearDecel_pos hdt).mp hx
  have hy' := (ramp_eq_self_iff e.maxLateralAcc_pos e.maxLateralDecel_pos hdt).mp hy
  have hz' := (ramp_eq_self_iff e.maxVerticalAcc_pos e.maxVerticalDecel_pos hdt).mp hz
  have hturn : ramp c.yaw (t.clamp e).yaw e.maxAngularAcc e.maxAngularDecel dt = c.yaw := by
    rcases e.minTurningRadius_nonneg.eq_or_lt with hradius | hradius
    · rwa [← hradius, curb, if_pos rfl] at hyaw
    -- Both ends of the ramp are within the turning radius, so the ramp is too.
    have hgoal : |(t.clamp e).yaw| ≤ |c.x| / e.minTurningRadius := by
      rw [hx']
      exact abs_curb_bound _ _ hradius
    have hstart : |c.yaw| ≤ |c.x| / e.minTurningRadius := by
      have hbound := abs_curb_bound
        (ramp c.yaw (t.clamp e).yaw e.maxAngularAcc e.maxAngularDecel dt) c.x hradius
      rw [hx] at hyaw
      rwa [hyaw] at hbound
    have hmem := ramp_mem_uIcc c.yaw (t.clamp e).yaw e.maxAngularAcc_pos.le
      e.maxAngularDecel_pos.le hdt.le
    rw [hx, curb_of_abs_le] at hyaw
    · exact hyaw
    · rw [abs_le] at hgoal hstart ⊢
      rw [Set.mem_uIcc] at hmem
      rcases hmem with ⟨h, h'⟩ | ⟨h, h'⟩
      · exact ⟨hstart.1.trans h, h'.trans hgoal.2⟩
      · exact ⟨hgoal.1.trans h, h'.trans hstart.2⟩
  have hyaw' := (ramp_eq_self_iff e.maxAngularAcc_pos e.maxAngularDecel_pos hdt).mp hturn
  exact ExactCommand.ext hx' hy' hz' hyaw'

end Fixpoint

section Settling

variable {e : ExactLimits} {s : VelocitySmoother}

/-- The smoother enforces the limits, and its command is finite. -/
def ExactSmoother (e : ExactLimits) (s : VelocitySmoother) : Prop :=
  s.limits = e.toRobotLimits ∧ ∃ c : ExactCommand, s.current = c.toTwist

theorem Smoothing.exact (h : Smoothing e.toRobotLimits s) : ExactSmoother e s := by
  obtain ⟨past, hrun, hfinite⟩ := h
  refine hrun.invariant (fun _ input => input.1.isFinite = true) ?_ ?_ hfinite
  · rintro s ⟨hlimits, hcurrent⟩
    exact ⟨hlimits, .zero, hcurrent⟩
  · rintro s ⟨target, dt⟩ ⟨hlimits, c, hcurrent⟩ htarget
    obtain ⟨t, ht⟩ := ExactCommand.agrees_of_isFinite htarget
    exact ⟨hlimits, c.step e t dt, ExactCommand.smoother_step_eq hlimits hcurrent ht dt⟩

theorem Settled.current_eq {target : Twist} {t : ExactCommand} (hsmoothing :
    Smoothing e.toRobotLimits s) (ht : t.Agrees target) (h : Settled s target) :
    s.current = (t.clamp e).toTwist := by
  obtain ⟨hlimits, c, hcurrent⟩ := hsmoothing.exact
  have hstep := ExactCommand.smoother_step_eq hlimits hcurrent ht 1
  rw [h 1, hcurrent] at hstep
  rw [hcurrent, eq_clamp_of_step_eq e c t one_pos (toTwist_injective hstep).symm]

theorem exists_settled (e : ExactLimits) (t : ExactCommand) :
    ∃ s, Smoothing e.toRobotLimits s ∧ Settled s t.toTwist ∧
      s.current = (t.clamp e).toTwist := by
  set goal := t.clamp e with hgoal
  -- Long enough for every axis to reach its goal from rest.
  set dt := |goal.x| / e.maxLinearAcc + |goal.y| / e.maxLateralAcc +
    |goal.z| / e.maxVerticalAcc + |goal.yaw| / e.maxAngularAcc
  have hx := div_nonneg (abs_nonneg goal.x) e.maxLinearAcc_pos.le
  have hy := div_nonneg (abs_nonneg goal.y) e.maxLateralAcc_pos.le
  have hz := div_nonneg (abs_nonneg goal.z) e.maxVerticalAcc_pos.le
  have hyaw := div_nonneg (abs_nonneg goal.yaw) e.maxAngularAcc_pos.le
  have hreach : ∀ {value acc : ℚ}, 0 < acc → |value| / acc ≤ dt → |value| ≤ acc * max dt 0 := by
    intro value acc hacc hle
    rw [div_le_iff₀' hacc] at hle
    exact hle.trans (mul_le_mul_of_nonneg_left (le_max_left _ _) hacc.le)
  have hstep : ExactCommand.zero.step e t dt = goal := by
    unfold ExactCommand.step
    simp only [ExactCommand.zero, ← hgoal]
    rw [ramp_from_zero (hreach e.maxLinearAcc_pos (by linarith)),
      ramp_from_zero (hreach e.maxLateralAcc_pos (by linarith)),
      ramp_from_zero (hreach e.maxVerticalAcc_pos (by linarith)),
      ramp_from_zero (hreach e.maxAngularAcc_pos (by linarith))]
    simp only [hgoal, ExactCommand.clamp, curb_curb _ _ _ e.minTurningRadius_nonneg]
  set rest : VelocitySmoother := { limits := e.toRobotLimits }
  have hrest : rest.current = ExactCommand.zero.toTwist := rfl
  have hcurrent : (rest.step t.toTwist (.fin dt)).current = goal.toTwist := by
    rw [ExactCommand.smoother_step_eq rfl hrest t.toTwist_agrees, hstep]
  refine ⟨rest.step t.toTwist (.fin dt), ⟨_, (Run.init ⟨rfl, rfl⟩).next (t.toTwist, dt), ?_⟩,
    ?_, hcurrent⟩
  · simp [Twist.isFinite, Vector3.isFinite, ExactCommand.toTwist, zero_def]
  · intro dt'
    have hagain := ExactCommand.smoother_step_eq (s := rest.step t.toTwist (.fin dt)) rfl
      hcurrent t.toTwist_agrees dt'
    rw [hgoal, step_clamp, ← hgoal, ← hcurrent] at hagain
    exact congrArg (VelocitySmoother.mk e.toRobotLimits) hagain

end Settling

/-- Every command the smoother settles at under the limits is at most this fast. -/
def SpeedBounded (limits : RobotLimits) (v : ℚ) : Prop :=
  ∀ s target, Smoothing limits s → target.isFinite = true → Settled s target →
    ∃ c : ExactCommand, s.current = c.toTwist ∧ ExactCommand.speed c ≤ v

/-- Every command the smoother settles at under the limits turns at most this fast. -/
def TurnBounded (limits : RobotLimits) (w : ℚ) : Prop :=
  ∀ s target, Smoothing limits s → target.isFinite = true → Settled s target →
    ∃ c : ExactCommand, s.current = c.toTwist ∧ |c.yaw| ≤ w

theorem turnBounded_of_le {e : ExactLimits} {w : ℚ} (h : e.maxAngularVel ≤ w) :
    TurnBounded e.toRobotLimits w := by
  intro s target hsmoothing hfinite hsettled
  obtain ⟨t, ht⟩ := ExactCommand.agrees_of_isFinite hfinite
  refine ⟨t.clamp e, hsettled.current_eq hsmoothing ht, ?_⟩
  refine (abs_curb_le _ _ _ e.minTurningRadius_nonneg).trans ?_
  have hlow := neg_le_self e.maxAngularVel_nonneg
  rw [abs_le]
  exact ⟨by linarith [le_max_left (-e.maxAngularVel) (min e.maxAngularVel t.yaw)],
    (max_le hlow (min_le_left _ _)).trans h⟩

/-- Every command the smoother settles at under the limits is at most this fast along
each axis. -/
def AxesBounded (limits : RobotLimits) (v : ℚ) : Prop :=
  ∀ s target, Smoothing limits s → target.isFinite = true → Settled s target →
    ∃ c : ExactCommand, s.current = c.toTwist ∧ |c.x| ≤ v ∧ |c.y| ≤ v ∧ |c.z| ≤ v

theorem abs_clamp_le (t : ExactCommand) (e : ExactLimits) :
    |(t.clamp e).x| ≤ max e.maxLinearVel (-e.minLinearVel) ∧
      |(t.clamp e).y| ≤ e.maxLateralVel ∧ |(t.clamp e).z| ≤ e.maxVerticalVel := by
  have hlow := e.minLinearVel_le_maxLinearVel
  have hlateral := neg_le_self e.maxLateralVel_nonneg
  have hvertical := neg_le_self e.maxVerticalVel_nonneg
  refine ⟨?_, abs_le.mpr ⟨le_max_left _ _, max_le hlateral (min_le_left _ _)⟩,
    abs_le.mpr ⟨le_max_left _ _, max_le hvertical (min_le_left _ _)⟩⟩
  change |max e.minLinearVel (min e.maxLinearVel t.x)| ≤ _
  rw [abs_le]
  constructor
  · linarith [le_max_left e.minLinearVel (min e.maxLinearVel t.x),
      le_max_right e.maxLinearVel (-e.minLinearVel)]
  · exact (max_le hlow (min_le_left _ _)).trans (le_max_left _ _)

theorem axesBounded_of_le {e : ExactLimits} {v : ℚ} (hforward : e.maxLinearVel ≤ v)
    (hbackward : -e.minLinearVel ≤ v) (hlateral : e.maxLateralVel ≤ v)
    (hvertical : e.maxVerticalVel ≤ v) : AxesBounded e.toRobotLimits v := by
  intro s target hsmoothing hfinite hsettled
  obtain ⟨t, ht⟩ := ExactCommand.agrees_of_isFinite hfinite
  obtain ⟨hx, hy, hz⟩ := abs_clamp_le t e
  exact ⟨t.clamp e, hsettled.current_eq hsmoothing ht, hx.trans (max_le hforward hbackward),
    hy.trans hlateral, hz.trans hvertical⟩

/-- No clamped command is faster than the corner of the limits. -/
theorem speedSq_clamp_le (t : ExactCommand) (e : ExactLimits) :
    (t.clamp e).x ^ 2 + (t.clamp e).y ^ 2 + (t.clamp e).z ^ 2 ≤ cornerSpeedSq e := by
  obtain ⟨hx, hy, hz⟩ := abs_clamp_le t e
  unfold cornerSpeedSq
  gcongr ?_ + ?_ + ?_
  · exact sq_le_sq' (abs_le.mp hx).1 (abs_le.mp hx).2
  · exact sq_le_sq' (abs_le.mp hy).1 (abs_le.mp hy).2
  · exact sq_le_sq' (abs_le.mp hz).1 (abs_le.mp hz).2

/-- Some command is as fast as the corner: the fastest of both directions on the
linear axis, with the limits of the other two. -/
theorem exists_speedSq_clamp_eq (e : ExactLimits) : ∃ corner : ExactCommand,
    (corner.clamp e).x ^ 2 + (corner.clamp e).y ^ 2 + (corner.clamp e).z ^ 2 =
      cornerSpeedSq e := by
  have hlow := e.minLinearVel_le_maxLinearVel
  have hlateral := neg_le_self e.maxLateralVel_nonneg
  have hvertical := neg_le_self e.maxVerticalVel_nonneg
  set x := if -e.minLinearVel ≤ e.maxLinearVel then e.maxLinearVel else e.minLinearVel
    with hx
  set corner : ExactCommand := ⟨x, e.maxLateralVel, e.maxVerticalVel, 0⟩
  have hclampX : (corner.clamp e).x ^ 2 = max e.maxLinearVel (-e.minLinearVel) ^ 2 := by
    change (max e.minLinearVel (min e.maxLinearVel x)) ^ 2 = _
    rw [hx]
    split
    · rename_i hle
      rw [min_self, max_eq_right hlow, max_eq_left hle]
    · rename_i hle
      rw [min_eq_right hlow, max_self, max_eq_right (not_le.mp hle).le, neg_sq]
  have hclampY : (corner.clamp e).y = e.maxLateralVel := by
    change max (-e.maxLateralVel) (min e.maxLateralVel e.maxLateralVel) = _
    rw [min_self, max_eq_right hlateral]
  have hclampZ : (corner.clamp e).z = e.maxVerticalVel := by
    change max (-e.maxVerticalVel) (min e.maxVerticalVel e.maxVerticalVel) = _
    rw [min_self, max_eq_right hvertical]
  refine ⟨corner, ?_⟩
  rw [hclampX, hclampY, hclampZ]
  rfl

theorem speedBounded_iff {e : ExactLimits} {v : ℚ} (hv : 0 ≤ v) :
    SpeedBounded e.toRobotLimits v ↔ cornerSpeedSq e ≤ v ^ 2 := by
  constructor
  · intro h
    obtain ⟨corner, hcorner⟩ := exists_speedSq_clamp_eq e
    obtain ⟨s, hsmoothing, hsettled, hcurrent⟩ := exists_settled e corner
    have hfinite : corner.toTwist.isFinite = true := by
      simp [Twist.isFinite, Vector3.isFinite, ExactCommand.toTwist, zero_def]
    obtain ⟨c, hc, hspeed⟩ := h s _ hsmoothing hfinite hsettled
    rw [toTwist_injective (hc.symm.trans hcurrent), speed_le_iff hv, hcorner] at hspeed
    exact hspeed
  · intro h s target hsmoothing hfinite hsettled
    obtain ⟨t, ht⟩ := ExactCommand.agrees_of_isFinite hfinite
    exact ⟨t.clamp e, hsettled.current_eq hsmoothing ht,
      (speed_le_iff hv).mpr ((speedSq_clamp_le t e).trans h)⟩

/-- The largest square of a translational speed within the limits cut down to the
speed `v`. -/
def cutCornerSpeedSq (e : ExactLimits) (v : ℚ) : ℚ :=
  max (min e.maxLinearVel v) (min (-e.minLinearVel) v) ^ 2 + min e.maxLateralVel v ^ 2 +
    min e.maxVerticalVel v ^ 2

theorem limitedBy_imposed {e : ExactLimits} {msg : SafetyStatus} {v w : ℚ} (hv : 0 ≤ v)
    (hw : 0 ≤ w) (hlimited : msg.speedLimited = true) (hlinear : msg.maxLinearVel = .fin v)
    (hangular : msg.maxAngularVel = .fin w) :
    ∃ e' : ExactLimits,
      limitedBy e.toRobotLimits (SafetyChannelMonitor.imposed msg) = e'.toRobotLimits ∧
        cornerSpeedSq e' = cutCornerSpeedSq e v ∧ e'.maxAngularVel ≤ w ∧
        AxesBounded e'.toRobotLimits v := by
  have hstate : SafetyChannelMonitor.imposed msg =
      { protectiveStop := msg.protectiveStop, maxLinearVel := .fin v
        maxAngularVel := .fin w } := by
    unfold SafetyChannelMonitor.imposed
    rw [if_pos hlimited, hlinear, hangular]
  have hlinear' : IsSpeedLimit (SafetyChannelMonitor.imposed msg).maxLinearVel := by
    rw [hstate]
    exact isSpeedLimit_fin_iff.mpr hv
  have hangular' : IsSpeedLimit (SafetyChannelMonitor.imposed msg).maxAngularVel := by
    rw [hstate]
    exact isSpeedLimit_fin_iff.mpr hw
  obtain ⟨e', he'⟩ := limitedBy_valid e hlinear' hangular'
  have hfields := he'
  rw [hstate] at hfields
  simp only [limitedBy, ExactLimits.toRobotLimits, stdMin_fin, stdMax_fin, neg_fin,
    RobotLimits.mk.injEq, fin.injEq] at hfields
  obtain ⟨hmax, hmin, hturn, -, -, -, -, hlateral, -, -, hvertical, -⟩ := hfields
  refine ⟨e', he', ?_, ?_, axesBounded_of_le ?_ ?_ ?_ ?_⟩
  · rw [cornerSpeedSq, cutCornerSpeedSq, ← hmax, ← hmin, ← hlateral, ← hvertical, ← min_neg_neg,
      neg_neg]
  · rw [← hturn]
    exact min_le_right _ _
  · rw [← hmax]
    exact min_le_right _ _
  · rw [← hmin]
    exact neg_le.mpr (le_max_right _ _)
  · rw [← hlateral]
    exact min_le_right _ _
  · rw [← hvertical]
    exact min_le_right _ _

theorem axesBounded_of_checkController {supervisor : SafetySupervisor}
    {params : ControllerParameters} {node : ControllerNode} {e : ExactLimits} {plc : ℚ}
    (haccepted : supervisor.checkController params node = true)
    (hlimits : node.getRobotLimits = e.toRobotLimits)
    (hmax : supervisor.maxLinearVel = .fin plc) (hplc : 0 < plc) :
    AxesBounded e.toRobotLimits plc := by
  have hlimit : ∀ {name : String} {value : ℚ} {safety : String},
      SafetySupervisor.checkLimit name (.fin value) (.fin plc) safety = [] → |value| ≤ plc := by
    intro name value safety h
    by_contra hlt
    have hexceeds : (0 : Double) < .fin plc ∧ Extended.fin plc < Extended.abs (.fin value) :=
      ⟨fin_lt_fin.mpr hplc, fin_lt_fin.mpr (not_le.mp hlt)⟩
    rw [SafetySupervisor.checkLimit, if_pos hexceeds] at h
    cases h
  rw [SafetySupervisor.checkController, SafetySupervisor.controllerErrors, hlimits, hmax,
    List.isEmpty_iff] at haccepted
  simp only [List.append_eq_nil_iff, ExactLimits.toRobotLimits] at haccepted
  obtain ⟨⟨⟨⟨-, hforward⟩, hbackward⟩, hlateral⟩, hvertical⟩ := haccepted.1
  exact axesBounded_of_le ((le_abs_self _).trans (hlimit hforward))
    ((neg_le_abs _).trans (hlimit hbackward)) ((le_abs_self _).trans (hlimit hlateral))
    ((le_abs_self _).trans (hlimit hvertical))

def holonomicLimits : ExactLimits where
  maxLinearVel := 1 / 2
  minLinearVel := -1 / 5
  maxAngularVel := 1
  maxLinearAcc := 1 / 2
  maxLinearDecel := 1
  maxAngularAcc := 1
  maxAngularDecel := 2
  maxLateralVel := 1 / 2
  maxLateralAcc := 1 / 2
  maxLateralDecel := 1
  maxVerticalVel := 0
  maxVerticalAcc := 1 / 2
  maxVerticalDecel := 1
  minTurningRadius := 0
  maxLinearVel_nonneg := by norm_num
  minLinearVel_nonpos := by norm_num
  maxAngularVel_nonneg := by norm_num
  maxLinearAcc_pos := by norm_num
  maxLinearDecel_pos := by norm_num
  maxAngularAcc_pos := by norm_num
  maxAngularDecel_pos := by norm_num
  maxLateralVel_nonneg := by norm_num
  maxLateralAcc_pos := by norm_num
  maxLateralDecel_pos := by norm_num
  maxVerticalVel_nonneg := by norm_num
  maxVerticalAcc_pos := by norm_num
  maxVerticalDecel_pos := by norm_num
  minTurningRadius_nonneg := by norm_num

def slowStatus : SafetyStatus :=
  { speedLimited := true, maxLinearVel := .fin (3 / 10), maxAngularVel := .fin 1 }

def slowLimits : ExactLimits :=
  { holonomicLimits with
    maxLinearVel := 3 / 10
    maxLateralVel := 3 / 10
    maxLinearVel_nonneg := by norm_num
    maxLateralVel_nonneg := by norm_num }

end EasyNav.SettledSpeed
