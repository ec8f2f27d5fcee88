import EasyNav.CommandContinuity

namespace EasyNav.StopSilence

open EasyNav.ExtendedArithmetic
open EasyNav.ExtendedArithmetic.Extended
open EasyNav.DoubleArithmetic
open EasyNav.SpeedLimits
open EasyNav.NavigationState
open EasyNav.VelocityRamp
open EasyNav.VelocitySelection
open EasyNav.CommandSupervision
open EasyNav.CommandPublication
open EasyNav.CommandTimeout
open EasyNav.FiniteCommands
open EasyNav.CommandContinuity
open EasyNav.Runs

/-- The cycle publishes nothing, with zero as its target. -/
def SilentAtZero (node : ControllerNode) (c : RtCycle) : Prop :=
  (step node (.cycle c)).published = node.published ∧ (target node c).cmd.twist = {}

/-- The robot was told last to move, if only so little that the smoother takes it for zero,
or in a way that the smoother knows nothing of. -/
structure Trace (twist : Twist) : Prop where
  moving : twist ≠ {}
  x : Extended.abs twist.linear.x < kEpsilon
  y : Extended.abs twist.linear.y < kEpsilon
  z : Extended.abs twist.linear.z < kEpsilon
  yaw : Extended.abs twist.angular.z < kEpsilon

/-- The blackboard that the mux selects from. -/
def proposals (node : ControllerNode) (c : RtCycle) : NavState :=
  (CommandGuard.discardNonFinite (beforePublish node c).2).2

/-- Nobody asks for anything new, and the robot is to stand: motion has been inhibited,
navigation is paused, or zero was commanded before, or the timeout has passed. -/
structure NothingNew (node : ControllerNode) (c : RtCycle) : Prop where
  released : ((proposals node c).safetyStatus.getD {}).protectiveStop = false
  controller : peek (proposals node c) .controller = none
  others : (proposals node c).inhibitMotion.getD false = true ∧
      node.mux.lastChoice = .inhibited ∨
    (proposals node c).inhibitMotion.getD false = false ∧
      peek (proposals node c) .override = none ∧ peek (proposals node c) .takeover = none
  standing : (proposals node c).inhibitMotion.getD false = true ∨
    (proposals node c).navigationPaused.getD false = true ∨ node.mux.lastTarget.twist = {} ∨
      node.guard.timedOut = true

section Selecting

variable {node : ControllerNode} {c : RtCycle}

theorem selected_eq (node : ControllerNode) (c : RtCycle) :
    selected node c =
      node.mux.choose (peek (proposals node c) .override) (peek (proposals node c) .takeover)
        (peek (proposals node c) .controller)
        ((proposals node c).navigationPaused.getD false)
        ((proposals node c).safetyStatus.getD {}).protectiveStop
        ((proposals node c).inhibitMotion.getD false) := by
  have hselected : selected node c =
      ((beforePublish node c).1.mux.select (proposals node c)).1 := rfl
  rw [hselected, VelocityMux.select_selection, (beforePublish_sameSupervision node c).mux]

/-- The guard brings about a zero that is not new only from a selection that is not new
either. -/
theorem supervise_zero_iff (guard : CommandGuard) (selection : Selection) (now : Time) :
    ((guard.supervise selection now).1.fresh = false ∧
        (guard.supervise selection now).1.cmd.twist = {}) ↔
      selection.fresh = false ∧ (selection.cmd.twist = {} ∨ guard.timedOut = true) := by
  have hself : Twist.eq {} {} = true := by decide +kernel
  cases hfresh : selection.fresh with
  | true =>
      rw [guard.supervise_of_fresh now hfresh]
      simp [hfresh]
  | false =>
      simp only [CommandGuard.supervise, hfresh, Bool.false_eq_true, if_false]
      cases guard.timedOut with
      | true => simp
      | false =>
          simp only [Bool.false_eq_true, if_false, or_false, true_and]
          split
          · rename_i hlate
            simp only [Bool.true_eq_false, false_and, false_iff]
            intro hzero
            simp [hzero, hself] at hlate
          · exact and_iff_right_of_imp fun _ => hfresh

theorem nothingNew_iff_and :
    NothingNew node c ↔
      ((proposals node c).safetyStatus.getD {}).protectiveStop = false ∧
        peek (proposals node c) .controller = none ∧
        ((proposals node c).inhibitMotion.getD false = true ∧ node.mux.lastChoice = .inhibited ∨
          (proposals node c).inhibitMotion.getD false = false ∧
            peek (proposals node c) .override = none ∧
            peek (proposals node c) .takeover = none) ∧
        ((proposals node c).inhibitMotion.getD false = true ∨
          (proposals node c).navigationPaused.getD false = true ∨
            node.mux.lastTarget.twist = {} ∨ node.guard.timedOut = true) := by
  constructor
  · exact fun h => ⟨h.released, h.controller, h.others, h.standing⟩
  · exact fun ⟨hreleased, hcontroller, hothers, hstanding⟩ =>
      ⟨hreleased, hcontroller, hothers, hstanding⟩

theorem nothingNew_iff :
    NothingNew node c ↔ (target node c).fresh = false ∧ (target node c).cmd.twist = {} ∧
      (target node c).choice ≠ .safetyStop := by
  have hchoice := (target_choice node c).1
  rw [hchoice, (cycle_eq node c).1, ← and_assoc (c := _ ≠ _), supervise_zero_iff,
    nothingNew_iff_and, selected_eq node c]
  generalize ((proposals node c).safetyStatus.getD {}).protectiveStop = protectiveStop
  generalize (proposals node c).inhibitMotion.getD false = inhibited
  generalize (proposals node c).navigationPaused.getD false = paused
  generalize peek (proposals node c) .override = overrideCmd
  generalize peek (proposals node c) .takeover = takeover
  generalize peek (proposals node c) .controller = controller
  simp only [VelocityMux.choose]
  cases protectiveStop with
  | true => simp
  | false =>
      cases inhibited with
      | true => simp [VelocityMux.stop, and_comm]
      | false =>
          cases overrideCmd with
          | some cmd => simp
          | none =>
              cases takeover with
              | some cmd => simp
              | none =>
                  cases paused with
                  | true => simp [VelocityMux.stop]
                  | false =>
                      cases controller with
                      | some cmd => simp
                      | none => simp

theorem fresh_of_override (h : (target node c).choice = .override) :
    (target node c).fresh = true := by
  cases hfresh : (target node c).fresh with
  | true => rfl
  | false =>
      rw [(target_choice node c).1, selected_eq] at h
      rw [(cycle_eq node c).1] at hfresh
      have hstale := CommandGuard.not_fresh_of_supervise hfresh
      rw [selected_eq, VelocityMux.choose_fresh_of_override h] at hstale
      contradiction

end Selecting

section Publishing

variable {node : ControllerNode} {c : RtCycle} {past : List (ControllerNode × Event)}

theorem supervise_keepaliveDue (guard : CommandGuard) (selection : Selection) (now now' : Time) :
    (guard.supervise selection now).2.keepaliveDue now' = guard.keepaliveDue now' :=
  guard.supervise_field now (·.keepaliveDue now') (fun _ _ _ => rfl) selection

theorem report_keepaliveDue (guard : CommandGuard) (nav : NavState) (discarded fresh : Bool)
    (now : Time) : (guard.report nav discarded fresh).1.keepaliveDue now =
      guard.keepaliveDue now :=
  guard.report_field nav (fun guard _ => guard.keepaliveDue now) (fun _ _ _ _ => rfl) discarded
    fresh

theorem cycleRt_keepaliveDue (nav : NavState) (plugin : NavState → ControllerRun) (now : Time) :
    (node.cycleRt nav plugin).2.1.guard.keepaliveDue now = node.guard.keepaliveDue now := by
  have hnew : ∀ cmd, (node.guard.isNew cmd).2.keepaliveDue now = node.guard.keepaliveDue now := by
    intro cmd
    rw [CommandGuard.isNew]
    split
    · split <;> rfl
    · rfl
  rw [ControllerNode.cycleRt]
  split
  · rfl
  · dsimp only
    split
    · exact hnew _
    · rfl

theorem supervised_keepaliveDue (node : ControllerNode) (c : RtCycle) (now : Time) :
    (supervised node c).guard.keepaliveDue now = node.guard.keepaliveDue now := by
  have hfollow : ∀ (node' : ControllerNode) (nav : NavState),
      (node'.followSafetyStatus nav).guard = node'.guard := by
    intro node' nav
    rcases node'.followSafetyStatus_eq nav with h | ⟨state, h⟩ <;> rw [h]
    rfl
  simp only [supervised, ControllerNode.superviseCommand]
  rw [report_keepaliveDue, supervise_keepaliveDue, hfollow]
  exact cycleRt_keepaliveDue c.nav c.plugin now

theorem publishSmoothed_published (hconnected : node.Connected) (selection : Selection)
    (now : Time) (dt : Double) : (node.publishSmoothed selection now dt).published =
      { header := { selection.cmd.header with stamp := now }
        twist := (node.smoother.step selection.cmd.twist dt).current } :: node.published :=
  ControllerNode.publish_published _ hconnected _

theorem publishOverride_published (hconnected : node.Connected) (selection : Selection)
    (now : Time) : (node.publishOverride selection now).published =
      { header := { selection.cmd.header with stamp := now }
        twist := selection.cmd.twist } :: node.published :=
  ControllerNode.publish_published _ hconnected _

theorem silent_iff (node : ControllerNode) (c : RtCycle) (hconnected : node.Connected) :
    (step node (.cycle c)).published = node.published ↔
      (target node c).smooth = true ∧
        ((supervised node c).beforeStep (target node c) c.now).nothingToPublish (target node c)
          c.now = true := by
  have hconnected' : ((supervised node c).beforeStep (target node c) c.now).Connected :=
    (supervised_sameTopics node c).connected hconnected
  have hpublished := (supervised_sameMotion node c).published
  rw [step_cycle]
  constructor
  · intro hsilent
    rcases (supervised node c).publishSelection_cases (target node c) c.now with
      ⟨hsmooth, hnothing, -⟩ | ⟨-, heq⟩ | ⟨-, heq⟩
    · exact ⟨hsmooth, hnothing⟩
    · rw [heq, publishSmoothed_published hconnected', ← hpublished] at hsilent
      exact absurd hsilent (List.cons_ne_self _ _)
    · rw [heq, publishOverride_published hconnected', ← hpublished] at hsilent
      exact absurd hsilent (List.cons_ne_self _ _)
  · rintro ⟨hsmooth, hnothing⟩
    simp only [ControllerNode.publishSelection, hsmooth, hnothing, if_true]
    exact hpublished

/-- The smoother has reached zero as far as its tolerance tells. -/
theorem reached_zero_iff {s : VelocitySmoother} {e : ExactLimits} {a : ExactCommand}
    (hlimits : s.limits = e.toRobotLimits) (hcurrent : s.current = a.toTwist) :
    s.reached {} = true ↔ |a.x| < 1 / 1000000 ∧ |a.y| < 1 / 1000000 ∧ |a.z| < 1 / 1000000 ∧
      |a.yaw| < 1 / 1000000 := by
  have hzero : ExactCommand.zero.Agrees {} := ExactCommand.zero.toTwist_agrees
  have hgoal : s.clamp {} = ExactCommand.zero.toTwist := by
    rw [ExactCommand.smoother_clamp_eq hlimits hzero, ExactCommand.clamp_zero]
  simp [VelocitySmoother.reached, hgoal, hcurrent, ExactCommand.toTwist, ExactCommand.zero,
    kEpsilon, and_assoc]

theorem abs_lt_kEpsilon (v : ℚ) :
    Extended.abs (.fin v) < kEpsilon ↔ |v| < 1 / 1000000 := by
  simp [kEpsilon]

theorem trace_iff {twist : Twist} {a : ExactCommand} (h : a.Agrees twist) :
    Trace twist ↔ twist ≠ {} ∧ |a.x| < 1 / 1000000 ∧ |a.y| < 1 / 1000000 ∧
      |a.z| < 1 / 1000000 ∧ |a.yaw| < 1 / 1000000 := by
  simp only [← abs_lt_kEpsilon]
  rw [← h.x, ← h.y, ← h.z, ← h.yaw]
  constructor
  · exact fun ⟨hmoving, hx, hy, hz, hyaw⟩ => ⟨hmoving, hx, hy, hz, hyaw⟩
  · exact fun ⟨hmoving, hx, hy, hz, hyaw⟩ => ⟨hmoving, hx, hy, hz, hyaw⟩

/-- Without anything new, whether a cycle is silent is up to the smoother and the
keepalive. -/
theorem nothingToPublish_iff (h : Follows node past) {e : ExactLimits}
    (he : enforcedLimits node c = e.toRobotLimits) (hnew : NothingNew node c)
    {a : ExactCommand} (ha : node.smoother.current = a.toTwist) :
    ((supervised node c).beforeStep (target node c) c.now).nothingToPublish (target node c)
        c.now = true ↔
      (|a.x| < 1 / 1000000 ∧ |a.y| < 1 / 1000000 ∧ |a.z| < 1 / 1000000 ∧
        |a.yaw| < 1 / 1000000) ∧ node.guard.keepaliveDue c.now = false := by
  obtain ⟨hfresh, hzero, hchoice⟩ := nothingNew_iff.mp hnew
  have hcurrent : ((supervised node c).beforeStep (target node c) c.now).smoother.current =
      a.toTwist := by
    rw [beforeStep_current ((supervised_sameMotion node c).current.trans ha), if_neg hchoice]
  have hlimits : ((supervised node c).beforeStep (target node c) c.now).smoother.limits =
      e.toRobotLimits := by
    rw [← he, ← supervised_getRobotLimits, ← supervised_limitsEnforced h.finite.limitsEnforced c]
    simp only [ControllerNode.beforeStep]
    split <;> rfl
  have hkeepalive : ((supervised node c).beforeStep (target node c) c.now).guard.keepaliveDue
      c.now = node.guard.keepaliveDue c.now := supervised_keepaliveDue node c c.now
  rw [← reached_zero_iff hlimits hcurrent]
  simp [ControllerNode.nothingToPublish, hfresh, hzero, hkeepalive]

/-- In every run: a cycle that is silent at zero leaves the robot with an exact zero, unless
nobody asks for anything new, no keepalive is due and a trace of motion was published
last. -/
theorem silent_at_zero_iff (hrun : Run step Start node past)
    (hvalid : ∀ p ∈ past, ValidLimits p.1 p.2) (c : RtCycle)
    (hlimits : ValidLimits node (.cycle c)) :
    (SilentAtZero node c → lastTwist node = {}) ↔
      ¬ (Trace (lastTwist node) ∧ NothingNew node c ∧
        node.guard.keepaliveDue c.now = false) := by
  have h := run_follows hrun hvalid
  obtain ⟨e, he⟩ := invalidRobotLimits_eq_empty_iff.mp hlimits
  obtain ⟨a, ha, hagrees⟩ := h.current
  rw [trace_iff hagrees, SilentAtZero, silent_iff node c h.finite.connected]
  constructor
  · rintro hproperty ⟨⟨hmoving, hsmall⟩, hnew, hkeepalive⟩
    obtain ⟨hstale, hzero, -⟩ := nothingNew_iff.mp hnew
    have hnothing := (nothingToPublish_iff h he hnew ha).mpr ⟨hsmall, hkeepalive⟩
    apply hmoving
    apply hproperty
    refine ⟨⟨?_, hnothing⟩, hzero⟩
    apply smooth_of_choice
    exact fun hoverride => absurd (fresh_of_override hoverride) (by simp [hstale])
  · rintro hcondition ⟨⟨hsmooth, hnothing⟩, hzero⟩
    by_contra hmoving
    have hchoice : (target node c).choice ≠ .safetyStop :=
      fun hstop => hmoving (nothing_of_safetyStop h hstop hnothing)
    have hfresh : (target node c).fresh = false := by
      rw [ControllerNode.nothingToPublish] at hnothing
      simp only [Bool.and_eq_true, Bool.or_eq_true, Bool.not_eq_true'] at hnothing
      rcases hnothing.1.1 with hstale | ⟨hrest, -⟩
      · exact hstale
      · apply absurd (h.atRest _) hmoving
        rw [← (supervised_sameMotion node c).lastPublishedZero]
        exact hrest
    have hnew := nothingNew_iff.mpr ⟨hfresh, hzero, hchoice⟩
    obtain ⟨hsmall, hkeepalive⟩ := (nothingToPublish_iff h he hnew ha).mp hnothing
    exact hcondition ⟨⟨hmoving, hsmall⟩, hnew, hkeepalive⟩

def exampleRoll : RtCycle where
  nav := propose {} .override { twist := { angular := { x := .fin 1 } } }
  plugin := fun nav => ⟨false, nav⟩
  recovery := id
  now := 1000000000

def examplePause : RtCycle where
  nav := { navigationPaused := some true }
  plugin := fun nav => ⟨false, nav⟩
  recovery := id
  now := 1050000000

/-- The robot was told to roll, and then to stand: nothing is published, and it rolls on. -/
theorem rolls_on_silently :
    ¬ ∀ (node : ControllerNode) (past : List (ControllerNode × Event)),
      Run step Start node past → (∀ p ∈ past, ValidLimits p.1 p.2) →
        ∀ c : RtCycle, ValidLimits node (.cycle c) → SilentAtZero node c →
          lastTwist node = {} := by
  intro h
  have hstart : Run step Start exampleNode [] := .init exampleNode_configured
  have hvalid : ∀ p ∈ [(exampleNode, Event.cycle exampleRoll)], ValidLimits p.1 p.2 := by
    simp only [List.forall_mem_cons]
    exact ⟨show _ = _ by decide +kernel, by simp⟩
  have hlimits : ValidLimits (step exampleNode (.cycle exampleRoll)) (.cycle examplePause) :=
    show _ = _ by decide +kernel
  have hsilent : SilentAtZero (step exampleNode (.cycle exampleRoll)) examplePause := by
    constructor
    · decide +kernel
    · decide +kernel
  have hmoving : lastTwist (step exampleNode (.cycle exampleRoll)) ≠ {} := by
    decide +kernel
  exact hmoving (h _ _ (hstart.next _) hvalid examplePause hlimits hsilent)

/-- The first step of the ramp takes no time, so the pause finds the robot standing. -/
theorem silent_at_zero_iff_standing :
    SilentAtZero (step exampleNode (.cycle exampleTakeover)) examplePause ∧
      lastTwist (step exampleNode (.cycle exampleTakeover)) = {} := by
  have hstart : Run step Start exampleNode [] := .init exampleNode_configured
  have hvalid : ∀ p ∈ [(exampleNode, Event.cycle exampleTakeover)], ValidLimits p.1 p.2 := by
    simp only [List.forall_mem_cons]
    exact ⟨show _ = _ by decide +kernel, by simp⟩
  have hlimits : ValidLimits (step exampleNode (.cycle exampleTakeover)) (.cycle examplePause) :=
    show _ = _ by decide +kernel
  have hsilent : SilentAtZero (step exampleNode (.cycle exampleTakeover)) examplePause := by
    constructor
    · decide +kernel
    · decide +kernel
  refine ⟨hsilent, (silent_at_zero_iff (hstart.next _) hvalid examplePause hlimits).mpr ?_ hsilent⟩
  rintro ⟨⟨hmoving, -, -, -, -⟩, -, -⟩
  exact hmoving (by decide +kernel)

end Publishing

end EasyNav.StopSilence
