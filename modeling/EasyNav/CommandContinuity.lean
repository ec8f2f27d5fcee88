import EasyNav.FiniteCommands

namespace EasyNav.CommandContinuity

open EasyNav.ExtendedArithmetic
open EasyNav.ExtendedArithmetic.Extended
open EasyNav.DoubleArithmetic
open EasyNav.AxisRamp
open EasyNav.SpeedLimits
open EasyNav.NavigationState
open EasyNav.VelocityRamp
open EasyNav.VelocitySelection
open EasyNav.CommandSupervision
open EasyNav.CommandPublication
open EasyNav.CommandTimeout
open EasyNav.FiniteCommands
open EasyNav.Runs

/-- The twist the robot was told last; zero before any. -/
def lastTwist (node : ControllerNode) : Twist :=
  (node.published.head?.map TwistStamped.twist).getD {}

def lastCycle : List (ControllerNode × Event) → Option Time
  | [] => none
  | (_, .cycle c) :: _ => some c.now
  | (_, .stop _) :: past => lastCycle past

/-- The seconds since the last cycle, at most a tenth; none in the first one. -/
def stepTime (last : Option Time) (now : Time) : ℚ :=
  match last with
  | some last => max 0 (min (1 / 10) ((now - last : Int) / 1000000000))
  | none => 0

/-- From `a` to `b` in `dt` seconds, no velocity changes faster than its rates allow. -/
structure WithinRates (e : ExactLimits) (dt : ℚ) (a b : ExactCommand) : Prop where
  x : |b.x - a.x| ≤ max e.maxLinearAcc e.maxLinearDecel * dt
  y : |b.y - a.y| ≤ max e.maxLateralAcc e.maxLateralDecel * dt
  z : |b.z - a.z| ≤ max e.maxVerticalAcc e.maxVerticalDecel * dt
  yaw : e.minTurningRadius = 0 → |b.yaw - a.yaw| ≤ max e.maxAngularAcc e.maxAngularDecel * dt

/-- No velocity of `b` has the opposite sign of that of `a`. -/
structure KeepsSigns (a b : ExactCommand) : Prop where
  x : 0 ≤ a.x * b.x
  y : 0 ≤ a.y * b.y
  z : 0 ≤ a.z * b.z
  yaw : 0 ≤ a.yaw * b.yaw

section Steps

variable {K : Type*} [Field K] [LinearOrder K] [IsStrictOrderedRing K]

theorem abs_ramp_sub_le_rates (current target : K) {acc decel dt : K} (hacc : 0 < acc)
    (hdecel : 0 < decel) (hdt : 0 ≤ dt) :
    |ramp current target acc decel dt - current| ≤ max acc decel * dt :=
  (abs_ramp_sub_le current target hacc.le hdecel.le hdt).trans
    (stepBound_le current target hdt)

variable (a t : ExactCommand) (e : ExactLimits) {dt : ℚ}

theorem step_withinRates (hdt : 0 ≤ dt) : WithinRates e dt a (a.step e t dt) := by
  have hmax : max dt 0 = dt := max_eq_left hdt
  constructor
  · rw [ExactCommand.step]
    dsimp only
    rw [hmax]
    exact abs_ramp_sub_le_rates _ _ e.maxLinearAcc_pos e.maxLinearDecel_pos hdt
  · rw [ExactCommand.step]
    dsimp only
    rw [hmax]
    exact abs_ramp_sub_le_rates _ _ e.maxLateralAcc_pos e.maxLateralDecel_pos hdt
  · rw [ExactCommand.step]
    dsimp only
    rw [hmax]
    exact abs_ramp_sub_le_rates _ _ e.maxVerticalAcc_pos e.maxVerticalDecel_pos hdt
  · intro hradius
    rw [ExactCommand.step]
    dsimp only
    rw [hmax, curb, if_pos hradius]
    exact abs_ramp_sub_le_rates _ _ e.maxAngularAcc_pos e.maxAngularDecel_pos hdt

theorem step_keepsSigns (dt : ℚ) : KeepsSigns a (a.step e t dt) := by
  constructor
  · exact mul_ramp_nonneg _ _
  · exact mul_ramp_nonneg _ _
  · exact mul_ramp_nonneg _ _
  · exact mul_curb_nonneg e.minTurningRadius_nonneg (mul_ramp_nonneg _ _)

end Steps

section Cycle

variable {node : ControllerNode} {c : RtCycle}

theorem stepTime_nonneg (last : Option Time) (now : Time) : 0 ≤ stepTime last now := by
  cases last with
  | some last => exact le_max_left _ _
  | none => exact le_rfl

theorem smootherStep_eq (node : ControllerNode) (now : Time) :
    node.smootherStep now = .fin (stepTime node.lastSmootherStep now) := by
  rw [ControllerNode.smootherStep]
  cases node.lastSmootherStep with
  | some last =>
      dsimp only
      rw [seconds_eq, kMaxSmootherStep, zero_def, clamp_fin (by norm_num)]
      rfl
  | none => rfl

theorem target_choice (node : ControllerNode) (c : RtCycle) :
    (target node c).choice = (selected node c).choice ∧
      (target node c).smooth = (selected node c).smooth := by
  rw [(cycle_eq node c).1]
  exact node.guard.supervise_choice c.now _

theorem selected_eq_choose (node : ControllerNode) (c : RtCycle) :
    ∃ overrideCmd takeover controller paused protectiveStop inhibited,
      selected node c =
        node.mux.choose overrideCmd takeover controller paused protectiveStop inhibited := by
  have hselected : selected node c = ((beforePublish node c).1.mux.select
      (CommandGuard.discardNonFinite (beforePublish node c).2).2).1 := rfl
  rw [hselected, VelocityMux.select_selection, (beforePublish_sameSupervision node c).mux]
  exact ⟨_, _, _, _, _, _, rfl⟩

theorem smooth_of_choice (h : (target node c).choice ≠ .override) :
    (target node c).smooth = true := by
  obtain ⟨hchoice, hsmooth⟩ := target_choice node c
  obtain ⟨_, _, _, _, _, _, hselected⟩ := selected_eq_choose node c
  rw [hchoice, hselected, Ne, ← VelocityMux.choose_smooth_eq_false_iff] at h
  rw [hsmooth, hselected]
  simpa using h

/-- The safety channel's stop is a zero, and new in its first cycle. -/
theorem target_of_safetyStop (h : (target node c).choice = .safetyStop) :
    (target node c).cmd.twist = {} ∧
      ((target node c).fresh = false → node.mux.lastChoice = .safetyStop) := by
  obtain ⟨hchoice, -⟩ := target_choice node c
  obtain ⟨_, _, _, _, _, _, hselected⟩ := selected_eq_choose node c
  rw [hchoice, hselected] at h
  obtain ⟨hzero, hfresh⟩ := VelocityMux.choose_of_choice_safetyStop h
  rw [← hselected] at hzero hfresh
  rw [(cycle_eq node c).1]
  refine ⟨node.guard.supervise_twist_of_zero c.now hzero, ?_⟩
  exact fun hstale => hfresh (CommandGuard.not_fresh_of_supervise hstale)

/-- The smoother's command, the last one published and what the node remembers of it
agree; a protective stop has published its zero. -/
structure Follows (node : ControllerNode) (past : List (ControllerNode × Event)) : Prop where
  finite : FiniteNode node
  current : ∃ a : ExactCommand, node.smoother.current = a.toTwist ∧ a.Agrees (lastTwist node)
  atRest : node.lastPublishedZero = true → lastTwist node = {}
  stopped : node.mux.lastChoice = .safetyStop → lastTwist node = {}
  stepped : node.lastSmootherStep = lastCycle past

theorem lastTwist_of_published {cmd : TwistStamped} {earlier : List TwistStamped}
    (h : node.published = cmd :: earlier) : lastTwist node = cmd.twist := by
  rw [lastTwist, h]
  rfl

theorem eq_zero_of_agrees {a : ExactCommand} (h : a.Agrees {}) : a = .zero := by
  obtain ⟨hx, hy, hz, hyaw⟩ := h
  simp only [zero_def, fin.injEq] at hx hy hz hyaw
  exact ExactCommand.ext hx.symm hy.symm hz.symm hyaw.symm

/-- The first cycle of a protective stop publishes its zero; in the others the robot
already stands. -/
theorem nothing_of_safetyStop {past : List (ControllerNode × Event)} (h : Follows node past)
    (hchoice : (target node c).choice = .safetyStop)
    (hnothing : ((supervised node c).beforeStep (target node c) c.now).nothingToPublish
      (target node c) c.now = true) : lastTwist node = {} := by
  rw [ControllerNode.nothingToPublish] at hnothing
  simp only [Bool.and_eq_true, Bool.or_eq_true, Bool.not_eq_true'] at hnothing
  rcases hnothing.1.1 with hfresh | ⟨hrest, -⟩
  · exact h.stopped ((target_of_safetyStop hchoice).2 hfresh)
  · apply h.atRest
    rw [← (supervised_sameMotion node c).lastPublishedZero]
    exact hrest

theorem cycle_follows {past : List (ControllerNode × Event)} (h : Follows node past)
    (hvalid : invalidRobotLimits (enforcedLimits node c) = "") :
    Follows (step node (.cycle c)) ((node, .cycle c) :: past) := by
  obtain ⟨e, he⟩ := invalidRobotLimits_eq_empty_iff.mp hvalid
  obtain ⟨a, ha, hagrees⟩ := h.current
  obtain ⟨t, ht, houtcome⟩ := cycle_outcome h.finite he ha (smootherStep_eq node c.now)
  have hchoice : (step node (.cycle c)).mux.lastChoice = (target node c).choice := by
    rw [(cycle_eq node c).2.1, (target_choice node c).1]
  have hfinite := cycle_finite h.finite hvalid
  have hstepped : (step node (.cycle c)).lastSmootherStep = some c.now := by
    rw [step_cycle]
    rcases (supervised node c).publishSelection_cases (target node c) c.now with
      ⟨-, -, heq⟩ | ⟨-, heq⟩ | ⟨-, heq⟩ <;> rw [heq] <;> rfl
  cases houtcome with
  | silent hsmooth hnothing hcurrent hzero hpublished =>
      have hlast : lastTwist (step node (.cycle c)) = lastTwist node := by
        rw [lastTwist, hpublished, lastTwist]
      refine ⟨hfinite, ⟨_, hcurrent, ?_⟩, ?_, ?_, hstepped⟩
      · rw [hlast, rampStart]
        split
        · rename_i hstop
          rw [nothing_of_safetyStop h hstop hnothing]
          exact ⟨rfl, rfl, rfl, rfl⟩
        · exact hagrees
      · rw [hlast, hzero]
        exact h.atRest
      · rw [hlast, hchoice]
        exact fun hstop => nothing_of_safetyStop h hstop hnothing
  | smoothed hsmooth hcurrent hzero hpublished =>
      have hlast := lastTwist_of_published hpublished
      refine ⟨hfinite, ⟨_, hcurrent, ?_⟩, ?_, ?_, hstepped⟩
      · rw [hlast]
        exact ExactCommand.toTwist_agrees _
      · rw [hlast, hzero]
        exact isZero_iff.mp
      · intro hstop
        rw [hchoice] at hstop
        rw [(target_of_safetyStop hstop).1] at ht
        rw [hlast, commandOf, rampStart, if_pos hstop, eq_zero_of_agrees ht,
          ExactCommand.step_zero]
        rfl
  | overridden hsmooth hcurrent hzero hpublished =>
      have hlast := lastTwist_of_published hpublished
      refine ⟨hfinite, ⟨t, hcurrent, ?_⟩, ?_, ?_, hstepped⟩
      · rw [hlast]
        exact ht
      · rw [hlast, hzero]
        exact isZero_iff.mp
      · intro hstop
        rw [hchoice] at hstop
        rw [hlast]
        exact (target_of_safetyStop hstop).1

theorem stop_follows {past : List (ControllerNode × Event)} (h : Follows node past)
    (readings : StopReadings) :
    Follows (step node (.stop readings)) ((node, .stop readings) :: past) := by
  obtain ⟨hstopped, -⟩ := node.stopRobot_of_connected h.finite.connected readings
  obtain ⟨cmd, earlier, hpublished, hzero⟩ := hstopped.lastIsZero
  have hlast : lastTwist (node.stopRobot readings) = {} :=
    (lastTwist_of_published hpublished).trans hzero
  have hstep : (node.stopRobot readings).lastSmootherStep = node.lastSmootherStep :=
    node.stopRobot_lastSmootherStep readings
  refine ⟨stop_finite h.finite readings, ⟨.zero, hstopped.current, ?_⟩, fun _ => hlast,
    fun _ => hlast, hstep.trans h.stepped⟩
  change ExactCommand.zero.Agrees (lastTwist (node.stopRobot readings))
  rw [hlast]
  exact ⟨rfl, rfl, rfl, rfl⟩

end Cycle

section Runs

variable {node : ControllerNode} {past : List (ControllerNode × Event)}

theorem start_follows (h : Start node) : Follows node [] := by
  have hfinite := start_finite h
  obtain ⟨unconfigured, configured, params, loading, hconfigure, rfl⟩ := h
  have hready := unconfigured.onConfigure_ready hconfigure
  have hstepped := unconfigured.onConfigure_lastSmootherStep hconfigure
  exact ⟨hfinite, ⟨.zero, hready.current, ⟨rfl, rfl, rfl, rfl⟩⟩, fun _ => rfl, fun _ => rfl,
    hstepped⟩

theorem run_follows (hrun : Run step Start node past)
    (hvalid : ∀ p ∈ past, ValidLimits p.1 p.2) : Follows node past := by
  refine hrun.history_invariant ValidLimits (fun node h => start_follows h) ?_ hvalid
  rintro node (c | readings) past h hlimits
  · exact cycle_follows h hlimits
  · exact stop_follows h readings

/-- No jumps: a command that no override and no protective stop is behind differs from the
one published before by what the rates allow in the time since the last cycle, and turns
around only through zero. -/
theorem commands_never_jump (hrun : Run step Start node past)
    (hvalid : ∀ p ∈ past, ValidLimits p.1 p.2) (before : ControllerNode) (c : RtCycle)
    (earlier : List (ControllerNode × Event)) (hpast : past = (before, .cycle c) :: earlier)
    (hoverride : (target before c).choice ≠ .override)
    (hstop : (target before c).choice ≠ .safetyStop) :
    node.published = before.published ∨
      ∃ (cmd : TwistStamped) (e : ExactLimits) (a b : ExactCommand),
        node.published = cmd :: before.published ∧
          enforcedLimits before c = e.toRobotLimits ∧
          a.Agrees (lastTwist before) ∧ b.Agrees cmd.twist ∧
          WithinRates e (stepTime (lastCycle earlier) c.now) a b ∧ KeepsSigns a b := by
  subst hpast
  obtain ⟨hnode, hbefore⟩ := hrun.last
  rw [List.forall_mem_cons] at hvalid
  have h := run_follows hbefore hvalid.2
  obtain ⟨e, he⟩ := invalidRobotLimits_eq_empty_iff.mp hvalid.1
  obtain ⟨a, ha, hagrees⟩ := h.current
  obtain ⟨t, ht, houtcome⟩ := cycle_outcome h.finite he ha (smootherStep_eq before c.now)
  rw [← hnode] at houtcome
  cases houtcome with
  | silent _ _ _ _ hpublished => exact Or.inl hpublished
  | smoothed _ _ _ hpublished =>
      rw [rampStart, if_neg hstop, h.stepped] at hpublished
      refine Or.inr ⟨_, e, a, _, hpublished, he, hagrees, ExactCommand.toTwist_agrees _, ?_, ?_⟩
      · exact step_withinRates a t e (stepTime_nonneg _ _)
      · exact step_keepsSigns a t e _
  | overridden hsmooth _ _ _ =>
      rw [smooth_of_choice hoverride] at hsmooth
      contradiction

/-- A takeover for 0.1 m/s at one second, and again a twentieth of a second later. -/
theorem commands_never_jump_takeover :
    let started := step exampleNode (.cycle exampleTakeover)
    let again : RtCycle := { exampleTakeover with now := 1050000000 }
    (step started (.cycle again)).published.map (fun cmd => cmd.twist.linear.x) =
        [.fin (1 / 40), 0] ∧
      ∃ (cmd : TwistStamped) (e : ExactLimits) (a b : ExactCommand),
        (step started (.cycle again)).published = cmd :: started.published ∧
          enforcedLimits started again = e.toRobotLimits ∧
          a.Agrees (lastTwist started) ∧ b.Agrees cmd.twist ∧
          WithinRates e (1 / 20) a b ∧ KeepsSigns a b := by
  have hstart : Run step Start exampleNode [] := .init exampleNode_configured
  have hrun := (hstart.next (.cycle exampleTakeover)).next
    (.cycle { exampleTakeover with now := 1050000000 })
  have hvalid : ∀ p ∈ [(step exampleNode (.cycle exampleTakeover),
        Event.cycle { exampleTakeover with now := 1050000000 }),
      (exampleNode, .cycle exampleTakeover)], ValidLimits p.1 p.2 := by
    simp only [List.forall_mem_cons]
    exact ⟨show _ = _ by decide +kernel, show _ = _ by decide +kernel, by simp⟩
  refine ⟨by decide +kernel, ?_⟩
  have htime : stepTime (lastCycle [(exampleNode, .cycle exampleTakeover)]) 1050000000 =
      1 / 20 := by decide +kernel
  rcases commands_never_jump hrun hvalid _ _ _ rfl (by decide +kernel) (by decide +kernel) with
    hsilent | ⟨cmd, e, a, b, hpublished, he, ha, hb, hrates, hsigns⟩
  · exact absurd hsilent (by decide +kernel)
  · rw [← htime]
    exact ⟨cmd, e, a, b, hpublished, he, ha, hb, hrates, hsigns⟩

end Runs

end EasyNav.CommandContinuity
