import EasyNav.SlowingDown

namespace EasyNav.LimitedSpeeds

open EasyNav.ExtendedArithmetic
open EasyNav.ExtendedArithmetic.Extended
open EasyNav.DoubleArithmetic
open EasyNav.SpeedLimits
open EasyNav.NavigationState
open EasyNav.VelocityRamp
open EasyNav.VelocitySelection
open EasyNav.CommandPublication
open EasyNav.CommandTimeout
open EasyNav.FiniteCommands
open EasyNav.CommandContinuity
open EasyNav.StopSilence (proposals selected_eq)
open EasyNav.SmootherSafety (clamp_within)
open EasyNav.SlowingDown
open EasyNav.Runs

/-- The safety channel limits the speeds to these bounds. -/
def SpeedsLimited (bounds : SpeedBounds) (node : ControllerNode) : Event → Prop
  | .cycle c => ∃ state, (beforePublish node c).2.safetyStatus = some state ∧
      state.maxLinearVel ≤ .fin bounds.linear ∧ state.maxAngularVel ≤ .fin bounds.angular
  | .stop _ => True

/-- Nobody overrides: an override is published as it is. -/
def NotOverridden (node : ControllerNode) : Event → Prop
  | .cycle c => peek (proposals node c) .override = none
  | .stop _ => True

section Limiting

variable {limit value : Double} {kept bound : ℚ}

theorem le_of_stdMin (h : stdMin value limit = .fin kept) (hlimit : limit ≤ .fin bound) :
    kept ≤ bound := by
  rw [stdMin] at h
  split at h
  · rw [h, fin_le_fin] at hlimit
    exact hlimit
  · rename_i hless
    rw [h] at hless
    cases limit with
    | fin limit =>
        rw [fin_lt_fin, not_lt] at hless
        rw [fin_le_fin] at hlimit
        exact hless.trans hlimit
    | negInf => exact absurd (negInf_lt_fin kept) hless
    | posInf => exact absurd hlimit Bool.false_ne_true
    | nan => exact absurd hlimit (not_nan_le _)

theorem neg_le_of_stdMax (h : stdMax value (-limit) = .fin kept) (hlimit : limit ≤ .fin bound) :
    -bound ≤ kept := by
  rw [stdMax] at h
  split at h
  · cases limit with
    | fin limit =>
        rw [fin_le_fin] at hlimit
        have heq := Extended.fin.inj h
        linarith
    | negInf => cases h
    | posInf => exact absurd hlimit Bool.false_ne_true
    | nan => exact absurd hlimit (not_nan_le _)
  · rename_i hless
    rw [h] at hless
    cases limit with
    | fin limit =>
        rw [fin_le_fin] at hlimit
        rw [neg_fin, fin_lt_fin, not_lt] at hless
        linarith
    | negInf => exact absurd (fin_lt_posInf kept) hless
    | posInf => exact absurd hlimit Bool.false_ne_true
    | nan => exact absurd hlimit (not_nan_le _)

variable {node : ControllerNode} {c : RtCycle} {e : ExactLimits} {bounds : SpeedBounds}

/-- What the limits allow is within the bounds that the safety channel sets. -/
theorem clamp_inBounds (hlimited : SpeedsLimited bounds node (.cycle c))
    (he : enforcedLimits node c = e.toRobotLimits) (t : ExactCommand) :
    InBounds bounds (t.clamp e) := by
  obtain ⟨state, hstate, hlinear, hangular⟩ := hlimited
  have hchannel := (beforePublish node c).1.followSafetyStatus_safetyChannel hstate
  have hcut : limitedBy ((beforePublish node c).1.followSafetyStatus
      (beforePublish node c).2).robotLimits state = e.toRobotLimits := by
    rw [← hchannel]
    exact he
  have hmaxLinear := le_of_stdMin (congrArg RobotLimits.maxLinearVel hcut) hlinear
  have hminLinear := neg_le_of_stdMax (congrArg RobotLimits.minLinearVel hcut) hlinear
  have hlateral := le_of_stdMin (congrArg RobotLimits.maxLateralVel hcut) hlinear
  have hvertical := le_of_stdMin (congrArg RobotLimits.maxVerticalVel hcut) hlinear
  have hyaw := le_of_stdMin (congrArg RobotLimits.maxAngularVel hcut) hangular
  have hwithin := clamp_within e t
  constructor
  · exact abs_le.mpr ⟨hminLinear.trans hwithin.x.1, hwithin.x.2.trans hmaxLinear⟩
  · exact (abs_le.mpr hwithin.y).trans hlateral
  · exact (abs_le.mpr hwithin.z).trans hvertical
  · exact (abs_le.mpr hwithin.yaw).trans hyaw

theorem choose_ne_override (mux : VelocityMux) (takeover controller : Option TwistStamped)
    (paused protectiveStop inhibited : Bool) :
    (mux.choose none takeover controller paused protectiveStop inhibited).choice ≠
      .override := by
  unfold VelocityMux.choose
  cases protectiveStop with
  | true => simp
  | false =>
      cases inhibited with
      | true => simp
      | false => cases takeover <;> cases paused <;> cases controller <;> simp

theorem target_ne_override (h : NotOverridden node (.cycle c)) :
    (target node c).choice ≠ .override := by
  have hnone : peek (proposals node c) .override = none := h
  rw [(target_choice node c).1, selected_eq node c, hnone]
  exact choose_ne_override _ _ _ _ _ _

end Limiting

section Runs

variable {node : ControllerNode} {past : List (ControllerNode × Event)} {bounds : SpeedBounds}

theorem step_slows (h : FiniteNode node) {event : Event} (hvalid : ValidLimits node event)
    (hlimited : SpeedsLimited bounds node event) (halone : NotOverridden node event)
    {a : ExactCommand} (ha : node.smoother.current = a.toTwist) :
    ∃ b : ExactCommand, (step node event).smoother.current = b.toTwist ∧
      Slows node.robotLimits bounds (timeGiven (node, event)) a b := by
  cases event with
  | cycle c =>
      obtain ⟨e, he⟩ := invalidRobotLimits_eq_empty_iff.mp hvalid
      exact cycle_slows h he ha (target_ne_override halone) fun t _ =>
        clamp_inBounds hlimited he t
  | stop readings => exact ⟨.zero, stop_zero h readings, slows_zero⟩

/-- From when the safety channel limits the speeds, and for as long as it does and nobody
overrides, no speed grows beyond its bound, and all are down to it when the smoother has been
given the time that this takes. -/
theorem limited_speeds_reached (hrun : Run step Start node past) {node' : ControllerNode}
    {more : List (ControllerNode × Event)} (hmore : Run step (· = node) node' more)
    (hvalid : ∀ p ∈ more ++ past, ValidLimits p.1 p.2)
    (hlimited : ∀ p ∈ more, SpeedsLimited bounds p.1 p.2)
    (halone : ∀ p ∈ more, NotOverridden p.1 p.2) :
    ∃ a b : ExactCommand, a.Agrees (lastTwist node) ∧ b.Agrees (lastTwist node') ∧
      NoFaster bounds a b ∧
        ∀ time, SlowsWithin node.robotLimits bounds time a → time ≤ slowingTime more →
          Under bounds b := by
  obtain ⟨e, a, b, he, ha, hb, hslows⟩ := told_relates
    (fun limits a => Slows.refl limits bounds a)
    (fun _ _ _ _ _ _ hab hbc => Slows.trans hab hbc) hrun hmore hvalid
    fun p hp hfinite hlimits _ ha => step_slows hfinite hlimits (hlimited p hp) (halone p hp) ha
  exact ⟨a, b, ha, hb, hslows.noFaster, fun time hwithin htime => hslows.under he hwithin htime⟩

def exampleBounds : SpeedBounds := ⟨1 / 50, 1, by decide +kernel, zero_le_one⟩

def drivingOn : List Event :=
  [.cycle exampleTakeover, .cycle { exampleTakeover with now := 1100000000 }]

def exampleLimit : SafetyChannelState :=
  { maxLinearVel := .fin (1 / 50), maxAngularVel := .fin 1 }

/-- The takeover goes on, and the safety channel limits the speeds. -/
def limitedCycle (now : Time) : RtCycle :=
  { exampleTakeover with
    nav := { exampleTakeover.nav with safetyStatus := some exampleLimit }
    now := now }

def slowing : List Event := [.cycle (limitedCycle 1120000000), .cycle (limitedCycle 1200000000)]

theorem limited_speeds_reached_takeover :
    let node := drivingOn.foldl step exampleNode
    lastTwist node = { linear := { x := .fin (1 / 20) } } ∧
      ∃ b : ExactCommand, b.Agrees (lastTwist (slowing.foldl step node)) ∧
        Under exampleBounds b := by
  have hstart : Run step Start exampleNode [] := .init exampleNode_configured
  have hrun := hstart.foldl drivingOn
  have hreached : Run step (· = drivingOn.foldl step exampleNode) _ [] := .init rfl
  have hmore := hreached.foldl slowing
  have htwist : lastTwist (drivingOn.foldl step exampleNode) =
      { linear := { x := .fin (1 / 20) } } := by decide +kernel
  have hvalid : ∀ p ∈ history step (drivingOn.foldl step exampleNode) slowing [] ++
      history step exampleNode drivingOn [], ValidLimits p.1 p.2 := by
    simp only [slowing, drivingOn, history, List.forall_mem_cons, List.cons_append,
      List.nil_append]
    refine ⟨?_, ?_, ?_, ?_, fun p hp => absurd hp List.not_mem_nil⟩
    all_goals
      change invalidRobotLimits _ = ""
      decide +kernel
  have hlimited : ∀ p ∈ history step (drivingOn.foldl step exampleNode) slowing [],
      SpeedsLimited exampleBounds p.1 p.2 := by
    simp only [slowing, history, List.forall_mem_cons]
    refine ⟨⟨exampleLimit, ?_, ?_, ?_⟩, ⟨exampleLimit, ?_, ?_, ?_⟩,
      fun p hp => absurd hp List.not_mem_nil⟩
    all_goals decide +kernel
  have halone : ∀ p ∈ history step (drivingOn.foldl step exampleNode) slowing [],
      NotOverridden p.1 p.2 := by
    simp only [slowing, history, List.forall_mem_cons]
    refine ⟨?_, ?_, fun p hp => absurd hp List.not_mem_nil⟩
    all_goals
      change peek _ _ = none
      decide +kernel
  obtain ⟨a, b, ha, hb, -, hslows⟩ := limited_speeds_reached hrun hmore hvalid hlimited halone
  rw [htwist] at ha
  obtain rfl : a = ⟨1 / 20, 0, 0, 0⟩ := agrees_unique ha ⟨rfl, rfl, rfl, rfl⟩
  refine ⟨htwist, b, hb, hslows (3 / 100) ?_ (by decide +kernel)⟩
  constructor <;> (rw [AxisSlows]; decide +kernel)

end Runs

end EasyNav.LimitedSpeeds
