import EasyNav.SmootherConvergence
import EasyNav.StopSilence

namespace EasyNav.SlowingDown

open EasyNav.ExtendedArithmetic
open EasyNav.ExtendedArithmetic.Extended
open EasyNav.DoubleArithmetic
open EasyNav.AxisRamp
open EasyNav.SpeedLimits
open EasyNav.NavigationState
open EasyNav.VelocityRamp
open EasyNav.CommandPublication
open EasyNav.CommandTimeout
open EasyNav.FiniteCommands
open EasyNav.CommandContinuity
open EasyNav.SettledSpeed (toTwist_injective)
open EasyNav.SmootherConvergence (curb_mem_uIcc)
open EasyNav.Runs

/-- A bound on the speed along each of the three axes, and one on the speed of turning. -/
structure SpeedBounds where
  linear : ℚ
  angular : ℚ
  linear_nonneg : 0 ≤ linear
  angular_nonneg : 0 ≤ angular

def SpeedBounds.rest : SpeedBounds := ⟨0, 0, le_rfl, le_rfl⟩

structure InBounds (bounds : SpeedBounds) (c : ExactCommand) : Prop where
  x : |c.x| ≤ bounds.linear
  y : |c.y| ≤ bounds.linear
  z : |c.z| ≤ bounds.linear
  yaw : |c.yaw| ≤ bounds.angular

/-- Within the bounds, up to the tolerance of the smoother. -/
structure Under (bounds : SpeedBounds) (c : ExactCommand) : Prop where
  x : |c.x| < bounds.linear + 1 / 1000000
  y : |c.y| < bounds.linear + 1 / 1000000
  z : |c.z| < bounds.linear + 1 / 1000000
  yaw : |c.yaw| < bounds.angular + 1 / 1000000

/-- A deceleration brings this velocity down to the bound in `time` seconds. -/
def AxisSlows (decel : Double) (bound time v : ℚ) : Prop :=
  (.fin |v| : Double) ≤ .fin bound + decel * .fin time

/-- The decelerations bring these velocities down to the bounds in `time` seconds. -/
structure SlowsWithin (limits : RobotLimits) (bounds : SpeedBounds) (time : ℚ)
    (c : ExactCommand) : Prop where
  x : AxisSlows limits.maxLinearDecel bounds.linear time c.x
  y : AxisSlows limits.maxLateralDecel bounds.linear time c.y
  z : AxisSlows limits.maxVerticalDecel bounds.linear time c.z
  yaw : AxisSlows limits.maxAngularDecel bounds.angular time c.yaw

/-- The velocity is down to the bound, or will be in `time` seconds. -/
def AxisLeft (decel : Double) (bound time v : ℚ) : Prop :=
  |v| < bound + 1 / 1000000 ∨ AxisSlows decel bound time v

structure Left (limits : RobotLimits) (bounds : SpeedBounds) (time : ℚ) (c : ExactCommand) :
    Prop where
  x : AxisLeft limits.maxLinearDecel bounds.linear time c.x
  y : AxisLeft limits.maxLateralDecel bounds.linear time c.y
  z : AxisLeft limits.maxVerticalDecel bounds.linear time c.z
  yaw : AxisLeft limits.maxAngularDecel bounds.angular time c.yaw

/-- From `a` to `b` no speed grows beyond its bound. -/
structure NoFaster (bounds : SpeedBounds) (a b : ExactCommand) : Prop where
  x : |b.x| ≤ max bounds.linear |a.x|
  y : |b.y| ≤ max bounds.linear |a.y|
  z : |b.z| ≤ max bounds.linear |a.z|
  yaw : |b.yaw| ≤ max bounds.angular |a.yaw|

structure Slows (limits : RobotLimits) (bounds : SpeedBounds) (dt : ℚ) (a b : ExactCommand) :
    Prop where
  noFaster : NoFaster bounds a b
  left : ∀ time, Left limits bounds time a → Left limits bounds (time - dt) b

/-- From `a` to `b` every velocity goes towards zero, at most as far as that. -/
structure Slower (a b : ExactCommand) : Prop where
  x : b.x ∈ Set.uIcc a.x 0
  y : b.y ∈ Set.uIcc a.y 0
  z : b.z ∈ Set.uIcc a.z 0
  yaw : b.yaw ∈ Set.uIcc a.yaw 0

/-- What `dt` seconds of braking do. -/
def Brakes (limits : RobotLimits) (dt : ℚ) (a b : ExactCommand) : Prop :=
  Slower a b ∧ Slows limits .rest dt a b

/-- The seconds that the smoother is given in a step: a tenth in a cycle, at most. -/
def timeGiven : ControllerNode × Event → ℚ
  | (node, .cycle c) => stepTime node.lastSmootherStep c.now
  | (_, .stop _) => 0

structure Decelerates (limits : RobotLimits) (e : ExactLimits) : Prop where
  linear : limits.maxLinearDecel = .fin e.maxLinearDecel
  lateral : limits.maxLateralDecel = .fin e.maxLateralDecel
  vertical : limits.maxVerticalDecel = .fin e.maxVerticalDecel
  angular : limits.maxAngularDecel = .fin e.maxAngularDecel

theorem agrees_unique {a b : ExactCommand} {twist : Twist} (ha : a.Agrees twist)
    (hb : b.Agrees twist) : a = b :=
  ExactCommand.ext (Extended.fin.inj (ha.x.symm.trans hb.x))
    (Extended.fin.inj (ha.y.symm.trans hb.y)) (Extended.fin.inj (ha.z.symm.trans hb.z))
    (Extended.fin.inj (ha.yaw.symm.trans hb.yaw))

section Axes

variable {decel acc bound time dt v goal next : ℚ}

theorem axisSlows_fin : AxisSlows (.fin decel) bound time v ↔ |v| ≤ bound + decel * time := by
  rw [AxisSlows, mul_fin, add_fin, fin_le_fin]

/-- A step towards a goal within the bound takes the deceleration's share off what is
above it. -/
theorem abs_ramp_le (hbound : 0 ≤ bound) (hgoal : |goal| ≤ bound) (hacc : 0 ≤ acc)
    (hdecel : 0 ≤ decel) (hdt : 0 ≤ dt) :
    |ramp v goal acc decel dt| ≤ max bound (|v| - decel * dt) := by
  have hexcess : ∀ value : ℚ, excess (-bound) bound value = max 0 (|value| - bound) := by
    intro value
    have hlow : -bound - value = -value - bound := by ring
    rw [excess, hlow, max_sub_sub_right, ← abs_eq_max_neg]
  have hshrinks : excess (-bound) bound (ramp v goal acc decel dt) ≤
      excess (-bound) bound v - min (excess (-bound) bound v) (decel * dt) :=
    excess_ramp_le (neg_nonpos.mpr hbound) hbound (abs_le.mp hgoal) hacc hdecel hdt
  rw [hexcess, hexcess] at hshrinks
  have hnext := (le_max_right 0 _).trans hshrinks
  rcases le_total (max 0 (|v| - bound)) (decel * dt) with hle | hle
  · rw [min_eq_left hle, sub_self] at hnext
    exact le_max_of_le_left (by linarith)
  · rw [min_eq_right hle] at hnext
    rcases le_total (|v| - bound) 0 with hin | hout
    · rw [max_eq_left hin] at hnext
      have hshare : 0 ≤ decel * dt := mul_nonneg hdecel hdt
      exact le_max_of_le_left (by linarith)
    · rw [max_eq_right hout] at hnext
      exact le_max_of_le_right (by linarith)

theorem axisLeft_step (hshare : 0 ≤ decel * dt) (hnext : |next| ≤ max bound (|v| - decel * dt))
    (h : AxisLeft (.fin decel) bound time v) :
    AxisLeft (.fin decel) bound (time - dt) next := by
  rcases le_max_iff.mp hnext with hdown | hless
  · exact Or.inl (by linarith)
  · rcases h with hunder | hslows
    · exact Or.inl (by linarith)
    · right
      rw [axisSlows_fin] at hslows ⊢
      rw [mul_sub]
      linarith

theorem under_of_axisLeft (hdecel : 0 < decel) (htime : time ≤ 0)
    (h : AxisLeft (.fin decel) bound time v) : |v| < bound + 1 / 1000000 := by
  rcases h with hunder | hslows
  · exact hunder
  · rw [axisSlows_fin] at hslows
    have hover : decel * time ≤ 0 := mul_nonpos_of_nonneg_of_nonpos hdecel.le htime
    linarith

end Axes

section Slowing

variable {limits : RobotLimits} {bounds : SpeedBounds} {a b c t : ExactCommand} {dt dt' : ℚ}
  {e : ExactLimits}

theorem NoFaster.refl (bounds : SpeedBounds) (a : ExactCommand) : NoFaster bounds a a :=
  ⟨le_max_right _ _, le_max_right _ _, le_max_right _ _, le_max_right _ _⟩

theorem NoFaster.trans (hab : NoFaster bounds a b) (hbc : NoFaster bounds b c) :
    NoFaster bounds a c :=
  ⟨hbc.x.trans (max_le (le_max_left _ _) hab.x), hbc.y.trans (max_le (le_max_left _ _) hab.y),
    hbc.z.trans (max_le (le_max_left _ _) hab.z),
    hbc.yaw.trans (max_le (le_max_left _ _) hab.yaw)⟩

theorem InBounds.noFaster (h : InBounds bounds b) (a : ExactCommand) : NoFaster bounds a b :=
  ⟨h.x.trans (le_max_left _ _), h.y.trans (le_max_left _ _), h.z.trans (le_max_left _ _),
    h.yaw.trans (le_max_left _ _)⟩

theorem InBounds.under (h : InBounds bounds c) : Under bounds c := by
  constructor
  · exact h.x.trans_lt (by linarith)
  · exact h.y.trans_lt (by linarith)
  · exact h.z.trans_lt (by linarith)
  · exact h.yaw.trans_lt (by linarith)

theorem inBounds_zero (bounds : SpeedBounds) : InBounds bounds .zero := by
  have habs : |(0 : ℚ)| = 0 := abs_zero
  exact ⟨habs.trans_le bounds.linear_nonneg, habs.trans_le bounds.linear_nonneg,
    habs.trans_le bounds.linear_nonneg, habs.trans_le bounds.angular_nonneg⟩

theorem Under.left (h : Under bounds a) (time : ℚ) : Left limits bounds time a :=
  ⟨Or.inl h.x, Or.inl h.y, Or.inl h.z, Or.inl h.yaw⟩

theorem SlowsWithin.left {time : ℚ} (h : SlowsWithin limits bounds time a) :
    Left limits bounds time a :=
  ⟨Or.inr h.x, Or.inr h.y, Or.inr h.z, Or.inr h.yaw⟩

theorem Left.under (h : Left limits bounds dt a) (he : Decelerates limits e) (hdt : dt ≤ 0) :
    Under bounds a := by
  obtain ⟨hx, hy, hz, hyaw⟩ := h
  rw [he.linear] at hx
  rw [he.lateral] at hy
  rw [he.vertical] at hz
  rw [he.angular] at hyaw
  exact ⟨under_of_axisLeft e.maxLinearDecel_pos hdt hx,
    under_of_axisLeft e.maxLateralDecel_pos hdt hy,
    under_of_axisLeft e.maxVerticalDecel_pos hdt hz,
    under_of_axisLeft e.maxAngularDecel_pos hdt hyaw⟩

/-- Slowing down for as long as it takes brings the speeds down to the bounds. -/
theorem Slows.under (h : Slows limits bounds dt a b) (he : Decelerates limits e) {time : ℚ}
    (hslows : SlowsWithin limits bounds time a) (htime : time ≤ dt) : Under bounds b :=
  (h.left time hslows.left).under he (sub_nonpos.mpr htime)

theorem Slows.refl (limits : RobotLimits) (bounds : SpeedBounds) (a : ExactCommand) :
    Slows limits bounds 0 a a :=
  ⟨.refl bounds a, fun time h => by rwa [sub_zero]⟩

theorem Slows.trans (hab : Slows limits bounds dt a b) (hbc : Slows limits bounds dt' b c) :
    Slows limits bounds (dt' + dt) a c := by
  refine ⟨hab.noFaster.trans hbc.noFaster, fun time h => ?_⟩
  rw [add_comm, ← sub_sub]
  exact hbc.left _ (hab.left time h)

theorem slows_of_under (hnoFaster : NoFaster bounds a b) (h : Under bounds b) :
    Slows limits bounds dt a b :=
  ⟨hnoFaster, fun _ _ => h.left _⟩

theorem slows_zero : Slows limits bounds dt a .zero :=
  slows_of_under ((inBounds_zero bounds).noFaster a) (inBounds_zero bounds).under

theorem Slower.refl (a : ExactCommand) : Slower a a :=
  ⟨Set.left_mem_uIcc, Set.left_mem_uIcc, Set.left_mem_uIcc, Set.left_mem_uIcc⟩

theorem Slower.trans (hab : Slower a b) (hbc : Slower b c) : Slower a c := by
  have haxis : ∀ {u v w : ℚ}, v ∈ Set.uIcc u 0 → w ∈ Set.uIcc v 0 → w ∈ Set.uIcc u 0 :=
    fun hv hw => Set.uIcc_subset_uIcc hv Set.right_mem_uIcc hw
  exact ⟨haxis hab.x hbc.x, haxis hab.y hbc.y, haxis hab.z hbc.z, haxis hab.yaw hbc.yaw⟩

theorem Slower.zero (a : ExactCommand) : Slower a .zero :=
  ⟨Set.right_mem_uIcc, Set.right_mem_uIcc, Set.right_mem_uIcc, Set.right_mem_uIcc⟩

theorem Brakes.refl (limits : RobotLimits) (a : ExactCommand) : Brakes limits 0 a a :=
  ⟨.refl a, .refl limits .rest a⟩

theorem Brakes.trans (hab : Brakes limits dt a b) (hbc : Brakes limits dt' b c) :
    Brakes limits (dt' + dt) a c :=
  ⟨hab.1.trans hbc.1, hab.2.trans hbc.2⟩

theorem Slows.of_zero (h : Slows limits bounds dt .zero b) : Slows limits bounds dt a b :=
  ⟨((inBounds_zero bounds).noFaster a).trans h.noFaster,
    fun time _ => h.left time ((inBounds_zero bounds).under.left time)⟩

theorem step_slows (he : Decelerates limits e) (hgoal : InBounds bounds (t.clamp e))
    (a : ExactCommand) (hdt : 0 ≤ dt) : Slows limits bounds dt a (a.step e t dt) := by
  have hx : |(a.step e t dt).x| ≤ max bounds.linear (|a.x| - e.maxLinearDecel * dt) := by
    simp only [ExactCommand.step, max_eq_left hdt]
    exact abs_ramp_le bounds.linear_nonneg hgoal.x e.maxLinearAcc_pos.le e.maxLinearDecel_pos.le
      hdt
  have hy : |(a.step e t dt).y| ≤ max bounds.linear (|a.y| - e.maxLateralDecel * dt) := by
    simp only [ExactCommand.step, max_eq_left hdt]
    exact abs_ramp_le bounds.linear_nonneg hgoal.y e.maxLateralAcc_pos.le
      e.maxLateralDecel_pos.le hdt
  have hz : |(a.step e t dt).z| ≤ max bounds.linear (|a.z| - e.maxVerticalDecel * dt) := by
    simp only [ExactCommand.step, max_eq_left hdt]
    exact abs_ramp_le bounds.linear_nonneg hgoal.z e.maxVerticalAcc_pos.le
      e.maxVerticalDecel_pos.le hdt
  have hyaw : |(a.step e t dt).yaw| ≤ max bounds.angular (|a.yaw| - e.maxAngularDecel * dt) := by
    simp only [ExactCommand.step, max_eq_left hdt]
    refine (abs_curb_le _ _ _ e.minTurningRadius_nonneg).trans ?_
    exact abs_ramp_le bounds.angular_nonneg hgoal.yaw e.maxAngularAcc_pos.le
      e.maxAngularDecel_pos.le hdt
  have hshare : ∀ {decel : ℚ}, 0 < decel → 0 ≤ decel * dt := fun h => mul_nonneg h.le hdt
  have hslower : ∀ {bound value decel : ℚ}, 0 < decel →
      max bound (|value| - decel * dt) ≤ max bound |value| :=
    fun h => max_le_max le_rfl (sub_le_self _ (hshare h))
  refine ⟨⟨hx.trans (hslower e.maxLinearDecel_pos), hy.trans (hslower e.maxLateralDecel_pos),
    hz.trans (hslower e.maxVerticalDecel_pos), hyaw.trans (hslower e.maxAngularDecel_pos)⟩, ?_⟩
  rintro time ⟨hleftX, hleftY, hleftZ, hleftYaw⟩
  rw [he.linear] at hleftX
  rw [he.lateral] at hleftY
  rw [he.vertical] at hleftZ
  rw [he.angular] at hleftYaw
  constructor
  · rw [he.linear]
    exact axisLeft_step (hshare e.maxLinearDecel_pos) hx hleftX
  · rw [he.lateral]
    exact axisLeft_step (hshare e.maxLateralDecel_pos) hy hleftY
  · rw [he.vertical]
    exact axisLeft_step (hshare e.maxVerticalDecel_pos) hz hleftZ
  · rw [he.angular]
    exact axisLeft_step (hshare e.maxAngularDecel_pos) hyaw hleftYaw

theorem curb_zero (linear : ℚ) {radius : ℚ} (hradius : 0 ≤ radius) :
    curb 0 linear radius = 0 := by
  have hle := abs_curb_le 0 linear radius hradius
  rw [abs_zero, abs_nonpos_iff] at hle
  exact hle

theorem step_slower (e : ExactLimits) (a : ExactCommand) (hdt : 0 ≤ dt) :
    Slower a (a.step e .zero dt) := by
  have hgoal := ExactCommand.clamp_zero e
  simp only [ExactCommand.step, hgoal, max_eq_left hdt]
  simp only [ExactCommand.zero]
  refine ⟨?_, ?_, ?_, ?_⟩
  · exact ramp_mem_uIcc _ _ e.maxLinearAcc_pos.le e.maxLinearDecel_pos.le hdt
  · exact ramp_mem_uIcc _ _ e.maxLateralAcc_pos.le e.maxLateralDecel_pos.le hdt
  · exact ramp_mem_uIcc _ _ e.maxVerticalAcc_pos.le e.maxVerticalDecel_pos.le hdt
  · have hramp := ramp_mem_uIcc a.yaw 0 e.maxAngularAcc_pos.le e.maxAngularDecel_pos.le hdt
    set yaw := ramp a.yaw 0 e.maxAngularAcc e.maxAngularDecel dt
    set x := ramp a.x 0 e.maxLinearAcc e.maxLinearDecel dt
    have hcurb : curb yaw x e.minTurningRadius ∈ Set.uIcc yaw 0 :=
      curb_mem_uIcc e.minTurningRadius_nonneg (curb_zero x e.minTurningRadius_nonneg)
    exact Set.uIcc_subset_uIcc hramp Set.right_mem_uIcc hcurb

end Slowing

/-- The smoother takes the velocities for those it is to come to. -/
structure Reached (c goal : ExactCommand) : Prop where
  x : |c.x - goal.x| < 1 / 1000000
  y : |c.y - goal.y| < 1 / 1000000
  z : |c.z - goal.z| < 1 / 1000000
  yaw : |c.yaw - goal.yaw| < 1 / 1000000

theorem reached_of_reached {s : VelocitySmoother} {e : ExactLimits} {c t : ExactCommand}
    {twist : Twist} (hlimits : s.limits = e.toRobotLimits) (hcurrent : s.current = c.toTwist)
    (ht : t.Agrees twist) (h : s.reached twist = true) : Reached c (t.clamp e) := by
  have hgoal := ExactCommand.smoother_clamp_eq hlimits ht
  simp only [VelocitySmoother.reached, hgoal, hcurrent, ExactCommand.toTwist, kEpsilon, sub_fin,
    abs_fin, fin_lt_fin, Bool.and_eq_true, decide_eq_true_eq] at h
  obtain ⟨⟨⟨hx, hy⟩, hz⟩, hyaw⟩ := h
  exact ⟨hx, hy, hz, hyaw⟩

theorem Reached.under {bounds : SpeedBounds} {c goal : ExactCommand} (h : Reached c goal)
    (hgoal : InBounds bounds goal) : Under bounds c := by
  have haxis : ∀ {v w bound : ℚ}, |v - w| < 1 / 1000000 → |w| ≤ bound →
      |v| < bound + 1 / 1000000 := by
    intro v w bound hnear hbound
    have htriangle := abs_sub_abs_le_abs_sub v w
    linarith
  exact ⟨haxis h.x hgoal.x, haxis h.y hgoal.y, haxis h.z hgoal.z, haxis h.yaw hgoal.yaw⟩

section Cycles

variable {node : ControllerNode} {c : RtCycle} {past : List (ControllerNode × Event)}
  {e : ExactLimits} {a : ExactCommand} {bounds : SpeedBounds}

/-- The safety channel limits the speeds alone. -/
theorem decelerates_of_limits (he : node.getRobotLimits = e.toRobotLimits) :
    Decelerates node.robotLimits e :=
  ⟨congrArg RobotLimits.maxLinearDecel he, congrArg RobotLimits.maxLateralDecel he,
    congrArg RobotLimits.maxVerticalDecel he, congrArg RobotLimits.maxAngularDecel he⟩

theorem followed_robotLimits (node : ControllerNode) (c : RtCycle) :
    ((beforePublish node c).1.followSafetyStatus (beforePublish node c).2).robotLimits =
      node.robotLimits :=
  ((beforePublish node c).1.followSafetyStatus_robotLimits (beforePublish node c).2).1.trans
    (node.cycleRt_sameLimits c.nav c.plugin).robotLimits

theorem enforcedLimits_decelerates (he : enforcedLimits node c = e.toRobotLimits) :
    Decelerates node.robotLimits e := by
  rw [← followed_robotLimits node c]
  exact decelerates_of_limits he

theorem step_robotLimits (node : ControllerNode) (event : Event) :
    (step node event).robotLimits = node.robotLimits := by
  cases event with
  | cycle c =>
      have hpublished : ControllerNode.SameLimits (step node (.cycle c)) (supervised node c) :=
        ControllerNode.publishSelection_sameLimits _ _ _
      exact hpublished.robotLimits.trans ((ControllerNode.superviseCommand_sameLimits _ _
        _).robotLimits.trans (followed_robotLimits node c))
  | stop readings => exact (node.stopRobot_sameLimits readings).robotLimits

theorem rampStart_cases (node : ControllerNode) (c : RtCycle) (a : ExactCommand) :
    rampStart node c a = .zero ∨ rampStart node c a = a := by
  rw [rampStart]
  split
  · exact Or.inl rfl
  · exact Or.inr rfl

theorem reached_of_nothing (h : FiniteNode node) (he : enforcedLimits node c = e.toRobotLimits)
    (ha : node.smoother.current = a.toTwist) {t : ExactCommand}
    (ht : t.Agrees (target node c).cmd.twist)
    (hnothing : ((supervised node c).beforeStep (target node c) c.now).nothingToPublish
      (target node c) c.now = true) : Reached (rampStart node c a) (t.clamp e) := by
  have hcurrent : ((supervised node c).beforeStep (target node c) c.now).smoother.current =
      (rampStart node c a).toTwist :=
    beforeStep_current ((supervised_sameMotion node c).current.trans ha) _ _
  have hlimits : ((supervised node c).beforeStep (target node c) c.now).smoother.limits =
      e.toRobotLimits := by
    rw [← he, ← supervised_getRobotLimits, ← supervised_limitsEnforced h.limitsEnforced c]
    simp only [ControllerNode.beforeStep]
    split <;> rfl
  rw [ControllerNode.nothingToPublish] at hnothing
  simp only [Bool.and_eq_true, Bool.not_eq_true', Bool.not_eq_false'] at hnothing
  exact reached_of_reached hlimits hcurrent ht hnothing.1.2

/-- Without an override, a cycle leaves the smoother where it has come to its target, or takes
it one step towards it. -/
theorem cycle_smooths (h : FiniteNode node) (he : enforcedLimits node c = e.toRobotLimits)
    (ha : node.smoother.current = a.toTwist) (hoverride : (target node c).choice ≠ .override) :
    ∃ t : ExactCommand, t.Agrees (target node c).cmd.twist ∧ ∃ b : ExactCommand,
      (step node (.cycle c)).smoother.current = b.toTwist ∧
        (b = rampStart node c a ∧ Reached b (t.clamp e) ∨
          b = (rampStart node c a).step e t (stepTime node.lastSmootherStep c.now)) := by
  obtain ⟨t, ht, houtcome⟩ := cycle_outcome h he ha (smootherStep_eq node c.now)
  refine ⟨t, ht, ?_⟩
  cases houtcome with
  | silent _ hnothing hcurrent _ _ =>
      exact ⟨_, hcurrent, Or.inl ⟨rfl, reached_of_nothing h he ha ht hnothing⟩⟩
  | smoothed _ hcurrent _ _ => exact ⟨_, hcurrent, Or.inr rfl⟩
  | overridden hsmooth _ _ _ =>
      rw [smooth_of_choice hoverride] at hsmooth
      contradiction

/-- A cycle without an override slows down to what its target is clamped to. -/
theorem cycle_slows (h : FiniteNode node) (he : enforcedLimits node c = e.toRobotLimits)
    (ha : node.smoother.current = a.toTwist) (hoverride : (target node c).choice ≠ .override)
    (hgoal : ∀ t : ExactCommand, t.Agrees (target node c).cmd.twist →
      InBounds bounds (t.clamp e)) :
    ∃ b : ExactCommand, (step node (.cycle c)).smoother.current = b.toTwist ∧
      Slows node.robotLimits bounds (stepTime node.lastSmootherStep c.now) a b := by
  have hdecelerates := enforcedLimits_decelerates he
  obtain ⟨t, ht, b, hb, hnext⟩ := cycle_smooths h he ha hoverride
  refine ⟨b, hb, ?_⟩
  have hbounds := hgoal t ht
  rcases hnext with ⟨rfl, hreached⟩ | rfl
  · rcases rampStart_cases node c a with hstart | hstart <;> rw [hstart] at hreached ⊢
    · exact slows_zero
    · exact slows_of_under (.refl bounds a) (hreached.under hbounds)
  · have hstep := step_slows hdecelerates hbounds (rampStart node c a)
      (stepTime_nonneg node.lastSmootherStep c.now)
    rcases rampStart_cases node c a with hstart | hstart <;> rw [hstart] at hstep ⊢
    · exact hstep.of_zero
    · exact hstep

theorem cycle_brakes (h : FiniteNode node) (he : enforcedLimits node c = e.toRobotLimits)
    (ha : node.smoother.current = a.toTwist) (hoverride : (target node c).choice ≠ .override)
    (hzero : (target node c).cmd.twist = {}) :
    ∃ b : ExactCommand, (step node (.cycle c)).smoother.current = b.toTwist ∧
      Brakes node.robotLimits (stepTime node.lastSmootherStep c.now) a b := by
  have hgoal : ∀ t : ExactCommand, t.Agrees (target node c).cmd.twist → t = .zero := by
    intro t ht
    rw [hzero] at ht
    exact eq_zero_of_agrees ht
  have hrest : ∀ t : ExactCommand, t.Agrees (target node c).cmd.twist →
      InBounds .rest (t.clamp e) := by
    intro t ht
    rw [hgoal t ht, ExactCommand.clamp_zero]
    exact inBounds_zero .rest
  obtain ⟨b, hb, hslows⟩ := cycle_slows h he ha hoverride hrest
  obtain ⟨t, ht, b', hb', hnext⟩ := cycle_smooths h he ha hoverride
  obtain rfl := hgoal t ht
  obtain rfl := toTwist_injective (hb.symm.trans hb')
  refine ⟨b, hb, ?_, hslows⟩
  rcases hnext with ⟨rfl, -⟩ | rfl <;> rcases rampStart_cases node c a with hstart | hstart <;>
    rw [hstart]
  · exact .zero a
  · exact .refl a
  · rw [ExactCommand.step_zero]
    exact .zero a
  · exact step_slower e a (stepTime_nonneg _ _)

theorem stop_zero (h : FiniteNode node) (readings : StopReadings) :
    (step node (.stop readings)).smoother.current = ExactCommand.zero.toTwist :=
  (node.stopRobot_of_connected h.connected readings).1.current

end Cycles

/-- The seconds that the smoother is given in these steps. -/
def slowingTime (past : List (ControllerNode × Event)) : ℚ := (past.map timeGiven).sum

section Runs

variable {node node' : ControllerNode} {past more : List (ControllerNode × Event)}
  {relates : RobotLimits → ℚ → ExactCommand → ExactCommand → Prop}

theorem run_relates (hrefl : ∀ limits a, relates limits 0 a a)
    (htrans : ∀ limits dt dt' a b c, relates limits dt a b → relates limits dt' b c →
      relates limits (dt' + dt) a c)
    (hrun : Run step Start node past) {a : ExactCommand} (ha : node.smoother.current = a.toTwist)
    (hmore : Run step (· = node) node' more) (hvalid : ∀ p ∈ more ++ past, ValidLimits p.1 p.2)
    (hstep : ∀ p ∈ more, FiniteNode p.1 → ValidLimits p.1 p.2 → ∀ a : ExactCommand,
      p.1.smoother.current = a.toTwist → ∃ b : ExactCommand,
        (step p.1 p.2).smoother.current = b.toTwist ∧
          relates p.1.robotLimits (timeGiven p) a b) :
    node'.robotLimits = node.robotLimits ∧ ∃ b : ExactCommand,
      node'.smoother.current = b.toTwist ∧ relates node.robotLimits (slowingTime more) a b := by
  induction hmore with
  | init h =>
      rw [h]
      exact ⟨rfl, a, ha, hrefl _ a⟩
  | @next node' more hmore event ih =>
      obtain ⟨hevent, hbefore⟩ := List.forall_mem_cons.mp hvalid
      obtain ⟨hlast, hearlier⟩ := List.forall_mem_cons.mp hstep
      obtain ⟨hlimits, b, hb, hrelates⟩ := ih hbefore hearlier
      have hfinite := (run_follows (hrun.append hmore) hbefore).finite
      obtain ⟨next, hnext, hnextRelates⟩ := hlast hfinite hevent b hb
      rw [hlimits] at hnextRelates
      refine ⟨(step_robotLimits node' event).trans hlimits, next, hnext, ?_⟩
      rw [slowingTime, List.map_cons, List.sum_cons]
      exact htrans _ _ _ _ _ _ hrelates hnextRelates

theorem told_relates (hrefl : ∀ limits a, relates limits 0 a a)
    (htrans : ∀ limits dt dt' a b c, relates limits dt a b → relates limits dt' b c →
      relates limits (dt' + dt) a c)
    (hrun : Run step Start node past) (hmore : Run step (· = node) node' more)
    (hvalid : ∀ p ∈ more ++ past, ValidLimits p.1 p.2)
    (hstep : ∀ p ∈ more, FiniteNode p.1 → ValidLimits p.1 p.2 → ∀ a : ExactCommand,
      p.1.smoother.current = a.toTwist → ∃ b : ExactCommand,
        (step p.1 p.2).smoother.current = b.toTwist ∧
          relates p.1.robotLimits (timeGiven p) a b) :
    ∃ (e : ExactLimits) (a b : ExactCommand), Decelerates node.robotLimits e ∧
      a.Agrees (lastTwist node) ∧ b.Agrees (lastTwist node') ∧
        relates node.robotLimits (slowingTime more) a b := by
  have hbefore := run_follows hrun fun p hp => hvalid p (List.mem_append_right _ hp)
  have hafter := run_follows (hrun.append hmore) hvalid
  obtain ⟨e, he⟩ := hbefore.finite.valid
  obtain ⟨a, ha, hagrees⟩ := hbefore.current
  obtain ⟨b, hb, hagrees'⟩ := hafter.current
  obtain ⟨-, b', hb', hrelates⟩ := run_relates hrefl htrans hrun ha hmore hvalid hstep
  obtain rfl := toTwist_injective (hb.symm.trans hb')
  exact ⟨e, a, b, decelerates_of_limits he, hagrees, hagrees', hrelates⟩

/-- The target of the step is zero, and nobody overrides. -/
def Zeroed (node : ControllerNode) : Event → Prop
  | .cycle c => (target node c).cmd.twist = {} ∧ (target node c).choice ≠ .override
  | .stop _ => True

theorem zeroed_brakes (hrun : Run step Start node past) (hmore : Run step (· = node) node' more)
    (hvalid : ∀ p ∈ more ++ past, ValidLimits p.1 p.2)
    (hzeroed : ∀ p ∈ more, Zeroed p.1 p.2) :
    ∃ a b : ExactCommand, a.Agrees (lastTwist node) ∧ b.Agrees (lastTwist node') ∧ Slower a b ∧
      ∀ time, SlowsWithin node.robotLimits .rest time a → time ≤ slowingTime more →
        Under .rest b := by
  obtain ⟨e, a, b, he, ha, hb, hslower, hslows⟩ := told_relates Brakes.refl
    (fun _ _ _ _ _ _ hab hbc => Brakes.trans hab hbc) hrun hmore hvalid (by
      rintro ⟨node, c | readings⟩ hp hfinite hlimits a ha
      · obtain ⟨e, he⟩ := invalidRobotLimits_eq_empty_iff.mp hlimits
        obtain ⟨hzero, hoverride⟩ := hzeroed _ hp
        exact cycle_brakes hfinite he ha hoverride hzero
      · exact ⟨.zero, stop_zero hfinite readings, .zero a, slows_zero⟩)
  exact ⟨a, b, ha, hb, hslower, fun time hwithin htime => hslows.under he hwithin htime⟩

end Runs

end EasyNav.SlowingDown
