import EasyNav.CommandTimeout

namespace EasyNav.LimitRestoration

open EasyNav.ExtendedArithmetic
open EasyNav.ExtendedArithmetic.Extended
open EasyNav.DoubleArithmetic
open EasyNav.SpeedLimits
open EasyNav.NavigationState
open EasyNav.CommandPublication
open EasyNav.CommandTimeout
open EasyNav.Lifecycle
open EasyNav.Runs

inductive LimitEvent where
  | run (event : Event)
  | query

/-- The plugin queries the limits; no deprecated parameter is configured. -/
def query (node : ControllerNode) : ControllerNode :=
  (node.pluginRobotLimits fun _ => none).2

def limitStep (node : ControllerNode) : LimitEvent → ControllerNode
  | .run event => step node event
  | .query => query node

theorem query_robotLimits (node : ControllerNode) :
    (query node).robotLimits =
      defaultLateralLimits node.getRobotLimits node.isRobotLimitConfigured := by
  unfold query ControllerNode.pluginRobotLimits
  simp

/-- The query keeps the configured limits only where the safely limited speed cuts
none of them down. -/
theorem query_robotLimits_eq_iff {node : ControllerNode} (h : node.LateralSettled) :
    (query node).robotLimits = node.robotLimits ↔
      node.getRobotLimits = node.robotLimits := by
  rw [query_robotLimits]
  constructor
  · exact limitedBy_eq_of_default h
  · intro heq
    rw [heq]
    exact h

/-- A step in which no query meets limits that are cut down. -/
def QueriesUnrestricted (node : ControllerNode) : LimitEvent → Prop
  | .run _ => True
  | .query => node.getRobotLimits = node.robotLimits

/-- The limits are those of the node `configured`, and the smoother enforces them. -/
structure Restores (configured node : ControllerNode) : Prop where
  robotLimits : node.robotLimits = configured.robotLimits
  configuredLimits : node.configuredLimits = configured.configuredLimits
  limitsEnforced : node.LimitsEnforced

variable {configured node : ControllerNode}

theorem step_restores (h : Restores configured node) (event : Event) :
    Restores configured (step node event) := by
  cases event with
  | cycle c =>
      have hran := node.cycleRt_sameLimits c.nav c.plugin
      obtain ⟨hlimits, hfields⟩ :=
        (beforePublish node c).1.followSafetyStatus_robotLimits (beforePublish node c).2
      have hpublish := (beforePublish node c).1.publishCmdVelRt_sameLimits
        (beforePublish node c).2 c.now
      exact {
        robotLimits := by
          rw [← h.robotLimits, ← hran.robotLimits]
          exact hpublish.robotLimits.trans hlimits
        configuredLimits := by
          rw [← h.configuredLimits, ← hran.configuredLimits]
          exact hpublish.configuredLimits.trans hfields
        limitsEnforced := hpublish.limitsEnforced
          (ControllerNode.followSafetyStatus_limitsEnforced _
            (hran.limitsEnforced h.limitsEnforced) _) }
  | stop readings =>
      have hstop := node.stopRobot_sameLimits readings
      exact ⟨hstop.robotLimits.trans h.robotLimits,
        hstop.configuredLimits.trans h.configuredLimits,
        hstop.limitsEnforced h.limitsEnforced⟩

theorem query_restores (hsettled : configured.LateralSettled) (h : Restores configured node)
    (hquery : node.getRobotLimits = node.robotLimits) :
    Restores configured (query node) := by
  have hnode : node.LateralSettled := by
    unfold ControllerNode.LateralSettled ControllerNode.isRobotLimitConfigured
    rw [h.robotLimits, h.configuredLimits]
    exact hsettled
  exact ⟨((query_robotLimits_eq_iff hnode).mpr hquery).trans h.robotLimits,
    h.configuredLimits, rfl⟩

/-- A safely limited speed leaves no trace once lifted, as long as the limits are
never queried while it cuts them down. -/
theorem limits_restored_of_queriesUnrestricted {unconfigured : ControllerNode}
    {params : ControllerParameters} {loading : PluginLoading}
    (hconfigure : unconfigured.onConfigure params loading = (configured, .success))
    {past : List (ControllerNode × LimitEvent)}
    (hrun : Run limitStep (fun node => node = configured) node past)
    (hallowed : ∀ p ∈ past, QueriesUnrestricted p.1 p.2)
    (hunrestricted : node.safetyChannel.Unrestricted) :
    node.getRobotLimits = configured.getRobotLimits ∧
      node.smoother.limits = configured.smoother.limits := by
  have hready := unconfigured.onConfigure_ready hconfigure
  have hsettled := unconfigured.onConfigure_lateralSettled hconfigure
  have hrestores : Restores configured node := by
    refine hrun.invariant QueriesUnrestricted ?_ ?_ hallowed
    · rintro _ rfl
      exact ⟨rfl, rfl, hready.limitsEnforced⟩
    · rintro node (event | _) h hevent
      · exact step_restores h event
      · exact query_restores hsettled h hevent
  have hlimits : node.getRobotLimits = configured.getRobotLimits := by
    unfold ControllerNode.getRobotLimits
    rw [limitedBy_of_unrestricted _ hunrestricted, hready.unrestricted,
      limitedBy_of_unrestricted _ ⟨rfl, rfl⟩, hrestores.robotLimits]
  exact ⟨hlimits, by rw [hrestores.limitsEnforced, hlimits, hready.limitsEnforced]⟩

def cycleUnder (state : SafetyChannelState) : LimitEvent :=
  .run (.cycle
    { nav := { safetyStatus := some state }
      plugin := fun nav => ⟨false, nav⟩
      recovery := id
      now := 0 })

/-- The speed is limited to 0.1 m/s, and lifted. -/
theorem limits_restored_of_queriesUnrestricted_lifted :
    let limited := limitStep (query exampleNode) (cycleUnder { maxLinearVel := .fin (1 / 10) })
    (limitStep limited (cycleUnder {})).getRobotLimits = exampleNode.getRobotLimits ∧
      (limitStep limited (cycleUnder {})).smoother.limits = exampleNode.smoother.limits := by
  have hconfigure : (({} : ControllerNode).onConfigure {} {}).2 = .success := by decide +kernel
  have hstart : Run limitStep (fun node => node = exampleNode) exampleNode [] := .init rfl
  have hrun := ((hstart.next .query).next (cycleUnder { maxLinearVel := .fin (1 / 10) })).next
    (cycleUnder {})
  have hquery : exampleNode.getRobotLimits = exampleNode.robotLimits := by decide +kernel
  refine limits_restored_of_queriesUnrestricted (Prod.ext rfl hconfigure) hrun ?_
    (by decide +kernel)
  simp only [List.forall_mem_cons]
  exact ⟨trivial, trivial, hquery, by simp⟩

/-- Queried while the speed is limited to 0.1 m/s, the limits stay there once it is
lifted. -/
theorem limits_not_restored_after_query :
    ∃ node past, Run limitStep (fun node => node = exampleNode) node past ∧
      node.safetyChannel.Unrestricted ∧
      exampleNode.getRobotLimits.maxLinearVel = .fin (1 / 2) ∧
      node.getRobotLimits.maxLinearVel = .fin (1 / 10) ∧
      node.smoother.limits.maxLinearVel = .fin (1 / 10) := by
  have hstart : Run limitStep (fun node => node = exampleNode) exampleNode [] := .init rfl
  have hrun := ((hstart.next (cycleUnder { maxLinearVel := .fin (1 / 10) })).next .query).next
    (cycleUnder {})
  exact ⟨_, _, hrun, by decide +kernel⟩

end EasyNav.LimitRestoration
