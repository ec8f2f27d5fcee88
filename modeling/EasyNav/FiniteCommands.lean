import EasyNav.CommandTimeout

namespace EasyNav.FiniteCommands

open EasyNav.ExtendedArithmetic
open EasyNav.ExtendedArithmetic.Extended
open EasyNav.DoubleArithmetic
open EasyNav.SpeedLimits
open EasyNav.NavigationState
open EasyNav.VelocityRamp
open EasyNav.VelocitySelection
open EasyNav.CommandSupervision
open EasyNav.CommandPublication
open EasyNav.CommandTimeout
open EasyNav.Lifecycle
open EasyNav.Runs

/-- A configured node. Its commands are counted from then on. -/
def Start (node : ControllerNode) : Prop :=
  ∃ (unconfigured configured : ControllerNode) (params : ControllerParameters)
    (loading : PluginLoading),
    unconfigured.onConfigure params loading = (configured, .success) ∧
      node = { configured with published := [] }

/-- The limits enforced in a cycle: the safety channel's state is applied first. -/
def enforcedLimits (node : ControllerNode) (c : RtCycle) : RobotLimits :=
  let (node, nav) := beforePublish node c
  (node.followSafetyStatus nav).getRobotLimits

def ValidLimits (node : ControllerNode) : Event → Prop
  | .cycle c => invalidRobotLimits (enforcedLimits node c) = ""
  | .stop _ => True

def supervised (node : ControllerNode) (c : RtCycle) : ControllerNode :=
  let (node, nav) := beforePublish node c
  ((node.followSafetyStatus nav).superviseCommand nav c.now).2.1

theorem step_cycle (node : ControllerNode) (c : RtCycle) :
    step node (.cycle c) = (supervised node c).publishSelection (target node c) c.now := rfl

theorem toTwist_isFinite (c : ExactCommand) : c.toTwist.isFinite = true := by
  simp [Twist.isFinite, Vector3.isFinite, ExactCommand.toTwist, zero_def]

theorem zero_isFinite : (({} : Twist)).isFinite = true := toTwist_isFinite .zero

/-- What is commanded and held is finite, and the limits are valid. -/
structure FiniteNode (node : ControllerNode) : Prop where
  connected : node.Connected
  limitsEnforced : node.LimitsEnforced
  valid : ∃ e : ExactLimits, node.getRobotLimits = e.toRobotLimits
  target : node.mux.lastTarget.twist.isFinite = true
  current : ∃ c : ExactCommand, node.smoother.current = c.toTwist
  published : ∀ cmd ∈ node.published, cmd.twist.isFinite = true

theorem start_finite {node : ControllerNode} (h : Start node) : FiniteNode node := by
  obtain ⟨unconfigured, configured, params, loading, hconfigure, rfl⟩ := h
  have hready := unconfigured.onConfigure_ready hconfigure
  exact {
    connected := hready.connected
    limitsEnforced := hready.limitsEnforced
    valid := invalidRobotLimits_eq_empty_iff.mp hready.valid
    target := by
      change configured.mux.lastTarget.twist.isFinite = true
      rw [hready.mux]
      exact zero_isFinite
    current := ⟨.zero, hready.current⟩
    published := by simp }

section Cycle

variable (node : ControllerNode) (c : RtCycle)

theorem supervised_sameMotion : ControllerNode.SameMotion (supervised node c) node :=
  (ControllerNode.superviseCommand_sameMotion _ _ _).trans
    ((ControllerNode.followSafetyStatus_sameMotion _ _).trans
      (node.cycleRt_sameMotion c.nav c.plugin))

theorem supervised_sameTopics : ControllerNode.SameTopics (supervised node c) node :=
  (ControllerNode.superviseCommand_sameTopics _ _ _).trans
    ((ControllerNode.followSafetyStatus_sameTopics _ _).trans
      (node.cycleRt_sameTopics c.nav c.plugin))

theorem supervised_getRobotLimits :
    (supervised node c).getRobotLimits = enforcedLimits node c := rfl

theorem supervised_limitsEnforced {node : ControllerNode} (h : node.LimitsEnforced)
    (c : RtCycle) : (supervised node c).LimitsEnforced := by
  have hran := (node.cycleRt_sameLimits c.nav c.plugin).limitsEnforced h
  exact (ControllerNode.superviseCommand_sameLimits _ _ _).limitsEnforced
    (ControllerNode.followSafetyStatus_limitsEnforced _ hran _)

theorem selected_isFinite {node : ControllerNode}
    (h : node.mux.lastTarget.twist.isFinite = true) (c : RtCycle) :
    (selected node c).cmd.twist.isFinite = true := by
  have hmux := (beforePublish_sameSupervision node c).mux
  have hproposed : ∀ source cmd,
      peek (CommandGuard.discardNonFinite (beforePublish node c).2).2 source = some cmd →
        cmd.twist.isFinite = true := by
    intro source cmd hcmd
    rw [CommandGuard.peek_discardNonFinite, Option.filter_eq_some_iff] at hcmd
    exact hcmd.2
  have hselected : selected node c = ((beforePublish node c).1.mux.select
      (CommandGuard.discardNonFinite (beforePublish node c).2).2).1 := rfl
  rw [hselected, VelocityMux.select_selection]
  rcases VelocityMux.choose_cmd_cases with hcmd | hcmd | hcmd | hcmd | hcmd
  · exact hproposed _ _ hcmd
  · exact hproposed _ _ hcmd
  · exact hproposed _ _ hcmd
  · rw [hcmd, hmux]
    exact h
  · rw [hcmd]
    exact zero_isFinite

theorem supervise_twist_cases (guard : CommandGuard) (selection : Selection) (now : Time) :
    (guard.supervise selection now).1 = selection ∨
      (guard.supervise selection now).1.cmd.twist = {} := by
  cases hfresh : selection.fresh with
  | true =>
      rw [guard.supervise_of_fresh now hfresh]
      exact Or.inl rfl
  | false =>
      obtain ⟨-, ⟨-, hzero⟩ | ⟨-, -, hsame, -⟩⟩ := guard.supervise_of_not_fresh now hfresh
      · exact Or.inr hzero
      · exact Or.inl hsame

theorem target_isFinite {node : ControllerNode}
    (h : node.mux.lastTarget.twist.isFinite = true) (c : RtCycle) :
    (target node c).cmd.twist.isFinite = true := by
  rw [(cycle_eq node c).1]
  rcases supervise_twist_cases node.guard (selected node c) c.now with hsame | hzero
  · rw [hsame]
    exact selected_isFinite h c
  · rw [hzero]
    exact zero_isFinite

end Cycle

section Publishing

variable {node : ControllerNode} {e : ExactLimits} {a : ExactCommand}

theorem beforeStep_current (hcurrent : node.smoother.current = a.toTwist) (selection : Selection)
    (now : Time) :
    (node.beforeStep selection now).smoother.current =
      (if selection.choice = .safetyStop then ExactCommand.zero else a).toTwist := by
  simp only [ControllerNode.beforeStep]
  split
  · rfl
  · exact hcurrent

theorem publishSmoothed_exact (hconnected : node.Connected)
    (hlimits : node.smoother.limits = e.toRobotLimits)
    (hcurrent : node.smoother.current = a.toTwist) {selection : Selection} {t : ExactCommand}
    (ht : t.Agrees selection.cmd.twist) (now : Time) (dt : ℚ) :
    (node.publishSmoothed selection now (.fin dt)).smoother.current = (a.step e t dt).toTwist ∧
      (node.publishSmoothed selection now (.fin dt)).published =
        { header := { selection.cmd.header with stamp := now }
          twist := (a.step e t dt).toTwist } :: node.published := by
  have hstep := ExactCommand.smoother_step_eq hlimits hcurrent ht dt
  refine ⟨hstep, ?_⟩
  rw [← hstep]
  exact ControllerNode.publish_published _ hconnected _

theorem publishOverride_exact (hconnected : node.Connected) {selection : Selection}
    {t : ExactCommand} (ht : t.Agrees selection.cmd.twist) (now : Time) :
    (node.publishOverride selection now).smoother.current = t.toTwist ∧
      (node.publishOverride selection now).published =
        { header := { selection.cmd.header with stamp := now }
          twist := selection.cmd.twist } :: node.published := by
  constructor
  · change (node.smoother.reset selection.cmd.twist).current = t.toTwist
    simp only [VelocitySmoother.reset, ExactCommand.toTwist, ht.yaw, ← ht.x, ← ht.y, ← ht.z]
  · exact ControllerNode.publish_published _ hconnected _

end Publishing

/-- Where the smoother starts from in a cycle. -/
def rampStart (node : ControllerNode) (c : RtCycle) (a : ExactCommand) : ExactCommand :=
  if (target node c).choice = .safetyStop then .zero else a

def commandOf (node : ControllerNode) (c : RtCycle) (twist : Twist) : TwistStamped :=
  { header := { (target node c).cmd.header with stamp := c.now }, twist := twist }

/-- What a cycle makes of its target, at `a`: nothing, one exact step of the smoother
towards `t`, or an override. -/
inductive Outcome (node : ControllerNode) (c : RtCycle) (e : ExactLimits)
    (a t : ExactCommand) (dt : ℚ) (node' : ControllerNode) : Prop
  | silent (hsmooth : (target node c).smooth = true)
      (hnothing : ((supervised node c).beforeStep (target node c) c.now).nothingToPublish
        (target node c) c.now = true)
      (hcurrent : node'.smoother.current = (rampStart node c a).toTwist)
      (hzero : node'.lastPublishedZero = node.lastPublishedZero)
      (hpublished : node'.published = node.published)
  | smoothed (hsmooth : (target node c).smooth = true)
      (hcurrent : node'.smoother.current = ((rampStart node c a).step e t dt).toTwist)
      (hzero : node'.lastPublishedZero = isZero ((rampStart node c a).step e t dt).toTwist)
      (hpublished : node'.published =
        commandOf node c ((rampStart node c a).step e t dt).toTwist :: node.published)
  | overridden (hsmooth : (target node c).smooth = false)
      (hcurrent : node'.smoother.current = t.toTwist)
      (hzero : node'.lastPublishedZero = isZero (target node c).cmd.twist)
      (hpublished : node'.published =
        commandOf node c (target node c).cmd.twist :: node.published)

theorem cycle_outcome {node : ControllerNode} (h : FiniteNode node) {c : RtCycle}
    {e : ExactLimits} (he : enforcedLimits node c = e.toRobotLimits) {a : ExactCommand}
    (hcurrent : node.smoother.current = a.toTwist) {dt : ℚ}
    (hdt : node.smootherStep c.now = .fin dt) :
    ∃ t : ExactCommand, t.Agrees (target node c).cmd.twist ∧
      Outcome node c e a t dt (step node (.cycle c)) := by
  obtain ⟨t, ht⟩ := ExactCommand.agrees_of_isFinite (target_isFinite h.target c)
  have hmotion := supervised_sameMotion node c
  have hdt' : (supervised node c).smootherStep c.now = .fin dt := by
    rw [← hdt, ControllerNode.smootherStep, ControllerNode.smootherStep,
      hmotion.lastSmootherStep]
  have hbefore := beforeStep_current (hmotion.current.trans hcurrent) (target node c) c.now
  have hconnected : ((supervised node c).beforeStep (target node c) c.now).Connected :=
    (supervised_sameTopics node c).connected h.connected
  have hlimits : ((supervised node c).beforeStep (target node c) c.now).smoother.limits =
      e.toRobotLimits := by
    rw [← he, ← supervised_getRobotLimits, ← supervised_limitsEnforced h.limitsEnforced c]
    simp only [ControllerNode.beforeStep]
    split <;> rfl
  refine ⟨t, ht, ?_⟩
  rw [step_cycle]
  rcases (supervised node c).publishSelection_cases (target node c) c.now with
    ⟨hsmooth, hnothing, heq⟩ | ⟨hsmooth, heq⟩ | ⟨hsmooth, heq⟩
  · rw [heq]
    exact .silent hsmooth hnothing hbefore hmotion.lastPublishedZero hmotion.published
  · obtain ⟨hnext, hpublished⟩ := publishSmoothed_exact hconnected hlimits hbefore ht c.now dt
    rw [heq, hdt']
    refine .smoothed hsmooth hnext ?_ ?_
    · rw [rampStart, ← hnext]
      rfl
    · rw [hpublished, ← hmotion.published]
      rfl
  · obtain ⟨hnext, hpublished⟩ := publishOverride_exact hconnected ht c.now
    rw [heq]
    refine .overridden hsmooth hnext rfl ?_
    rw [hpublished, ← hmotion.published]
    rfl

section Runs

variable {node : ControllerNode}

theorem cycle_finite (h : FiniteNode node) {c : RtCycle}
    (hvalid : invalidRobotLimits (enforcedLimits node c) = "") :
    FiniteNode (step node (.cycle c)) := by
  obtain ⟨e, he⟩ := invalidRobotLimits_eq_empty_iff.mp hvalid
  obtain ⟨a, ha⟩ := h.current
  obtain ⟨dt, hdt⟩ := node.smootherStep_fin c.now
  obtain ⟨t, -, houtcome⟩ := cycle_outcome h he ha hdt
  have hlimits : ControllerNode.SameLimits (step node (.cycle c)) (supervised node c) :=
    ControllerNode.publishSelection_sameLimits _ _ _
  have htopics : ControllerNode.SameTopics (step node (.cycle c)) node :=
    (ControllerNode.publishSelection_sameTopics _ _ _).trans (supervised_sameTopics node c)
  have hcommand : (∃ b : ExactCommand, (step node (.cycle c)).smoother.current = b.toTwist) ∧
      ∀ cmd ∈ (step node (.cycle c)).published, cmd.twist.isFinite = true := by
    cases houtcome with
    | silent _ _ hcurrent _ hpublished =>
        rw [hpublished]
        exact ⟨⟨_, hcurrent⟩, h.published⟩
    | smoothed _ hcurrent _ hpublished =>
        rw [hpublished, List.forall_mem_cons]
        exact ⟨⟨_, hcurrent⟩, toTwist_isFinite _, h.published⟩
    | overridden _ hcurrent _ hpublished =>
        rw [hpublished, List.forall_mem_cons]
        exact ⟨⟨_, hcurrent⟩, target_isFinite h.target c, h.published⟩
  exact {
    connected := htopics.connected h.connected
    limitsEnforced := hlimits.limitsEnforced (supervised_limitsEnforced h.limitsEnforced c)
    valid := ⟨e, by rw [hlimits.getRobotLimits, supervised_getRobotLimits, he]⟩
    target := by
      rw [(cycle_eq node c).2.1]
      exact selected_isFinite h.target c
    current := hcommand.1
    published := hcommand.2 }

theorem brakingStep_finite (h : FiniteNode node) (header : Header) :
    FiniteNode (({ node with smoother := node.smoother.step {} kStopPeriod }).publish
      { header := header, twist := (node.smoother.step {} kStopPeriod).current }) := by
  obtain ⟨e, he⟩ := h.valid
  obtain ⟨a, ha⟩ := h.current
  have hstep : (node.smoother.step {} kStopPeriod).current =
      (a.step e .zero (2 / 100)).toTwist :=
    ExactCommand.smoother_step_eq (h.limitsEnforced.trans he) ha
      ExactCommand.zero.toTwist_agrees _
  have hconnected : ({ node with
      smoother := node.smoother.step {} kStopPeriod } : ControllerNode).Connected := h.connected
  refine ⟨h.connected, h.limitsEnforced, ⟨e, he⟩, h.target, ⟨_, hstep⟩, ?_⟩
  rw [ControllerNode.publish_published _ hconnected, List.forall_mem_cons]
  refine ⟨?_, h.published⟩
  rw [hstep]
  exact toTwist_isFinite _

theorem brake_finite (h : FiniteNode node) (robotFrame : String) (deadline : Double)
    (readings : List (Time × Time)) : FiniteNode (node.brake robotFrame deadline readings) :=
  node.brake_induction (motive := FiniteNode) (fun _ header h => brakingStep_finite h header)
    h _ _ _

theorem stop_finite (h : FiniteNode node) (readings : StopReadings) :
    FiniteNode (node.stopRobot readings) := by
  have hlast : ∀ node' : ControllerNode, FiniteNode node' →
      FiniteNode { node'.publish { header := { stamp := readings.last,
                                               frameId := readings.robotFrame }, twist := {} } with
        smoother := node'.smoother.reset {}
        mux := node'.mux.reset
        guard := (node'.guard.published readings.last).reset } := by
    intro node' h'
    refine ⟨h'.connected, h'.limitsEnforced, h'.valid, zero_isFinite, ⟨.zero, rfl⟩, ?_⟩
    change ∀ cmd ∈ (node'.publish _).published, _
    rw [node'.publish_published h'.connected, List.forall_mem_cons]
    exact ⟨zero_isFinite, h'.published⟩
  rw [ControllerNode.stopRobot]
  split
  · exact h
  · dsimp only
    split
    · exact hlast _ (brake_finite h _ _ _)
    · exact hlast _ h

variable {past : List (ControllerNode × Event)}

theorem run_finite (hrun : Run step Start node past)
    (hvalid : ∀ p ∈ past, ValidLimits p.1 p.2) : FiniteNode node := by
  refine hrun.invariant ValidLimits (fun node h => start_finite h) ?_ hvalid
  rintro node (c | readings) h hlimits
  · exact cycle_finite h hlimits
  · exact stop_finite h readings

end Runs

section Silence

def withdraw (nav : NavState) : NavState := { nav with proposal := fun _ => none }

def silenced (c : RtCycle) : RtCycle := { c with recovery := fun nav => withdraw (c.recovery nav) }

/-- Every pending proposal has a component that is not finite. -/
def NoneFinite (nav : NavState) : Prop :=
  ∀ source cmd, peek nav source = some cmd → cmd.twist.isFinite = false

/-- The mux sees no difference between proposals that are not finite and none. -/
theorem select_withdraw (mux : VelocityMux) {nav : NavState} (h : NoneFinite nav) :
    (mux.select (CommandGuard.discardNonFinite nav).2).1 =
      (mux.select (CommandGuard.discardNonFinite (withdraw nav)).2).1 := by
  have hsame := CommandGuard.discardNonFinite_sameButProposals nav
  have hsame' := CommandGuard.discardNonFinite_sameButProposals (withdraw nav)
  have hnone : ∀ source, peek (CommandGuard.discardNonFinite nav).2 source = none := by
    intro source
    rw [CommandGuard.peek_discardNonFinite, Option.filter_eq_none_iff]
    intro cmd hcmd
    rw [h source cmd hcmd]
    decide
  have hnone' : ∀ source,
      peek (CommandGuard.discardNonFinite (withdraw nav)).2 source = none := by
    intro source
    rw [CommandGuard.peek_discardNonFinite]
    rfl
  rw [VelocityMux.select_selection, VelocityMux.select_selection]
  simp only [hnone, hnone', hsame.navigationPaused, hsame.safetyStatus, hsame.inhibitMotion,
    hsame'.navigationPaused, hsame'.safetyStatus, hsame'.inhibitMotion]
  rfl

theorem selected_silenced {node : ControllerNode} {c : RtCycle}
    (h : NoneFinite (beforePublish node c).2) :
    selected node c = selected node (silenced c) ∧
      target node c = target node (silenced c) ∧
      (step node (.cycle c)).mux = (step node (.cycle (silenced c))).mux := by
  have hselected : selected node c = selected node (silenced c) := select_withdraw _ h
  obtain ⟨htarget, hmux, -⟩ := cycle_eq node c
  obtain ⟨htarget', hmux', -⟩ := cycle_eq node (silenced c)
  refine ⟨hselected, ?_, ?_⟩
  · rw [htarget, htarget', hselected]
    rfl
  · rw [hmux, hmux', hselected]

end Silence

/-- Whatever is proposed: every command published and the one the mux holds are finite,
and a cycle whose pending proposals are all non-finite selects what it selects without
any. -/
theorem only_finite_commands {node : ControllerNode} {past : List (ControllerNode × Event)}
    (hrun : Run step Start node past) (hvalid : ∀ p ∈ past, ValidLimits p.1 p.2) :
    (∀ cmd ∈ node.published, cmd.twist.isFinite = true) ∧
      node.mux.lastTarget.twist.isFinite = true ∧
      ∀ c, NoneFinite (beforePublish node c).2 →
        selected node c = selected node (silenced c) ∧
          target node c = target node (silenced c) ∧
          (step node (.cycle c)).mux = (step node (.cycle (silenced c))).mux := by
  have h := run_finite hrun hvalid
  exact ⟨h.published, h.target, fun c hc => selected_silenced hc⟩

def poisonedCycle : RtCycle where
  nav := propose (propose {} .takeover { twist := { linear := { x := .fin (1 / 10) } } })
    .override { twist := { linear := { x := .nan } } }
  plugin := fun nav => ⟨false, nav⟩
  recovery := id
  now := 1000000000

theorem exampleNode_configured : Start exampleNode := by
  obtain ⟨unconfigured, params, loading, -, hconfigure⟩ := exampleNode_start
  exact ⟨unconfigured, exampleNode, params, loading, hconfigure, by decide +kernel⟩

theorem only_finite_commands_poisoned :
    let node := [poisonedCycle, { poisonedCycle with now := 1100000000 }].foldl
      (fun node c => step node (.cycle c)) exampleNode
    node.published.map (fun cmd => cmd.twist.linear.x) = [.fin (1 / 20), 0] ∧
      ∀ cmd ∈ node.published, cmd.twist.isFinite = true := by
  have hstart : Run step Start exampleNode [] := .init exampleNode_configured
  have hrun := (hstart.next (.cycle poisonedCycle)).next
    (.cycle { poisonedCycle with now := 1100000000 })
  refine ⟨by decide +kernel, (only_finite_commands hrun ?_).1⟩
  simp only [List.forall_mem_cons]
  exact ⟨show _ = _ by decide +kernel, show _ = _ by decide +kernel, by simp⟩

end EasyNav.FiniteCommands
