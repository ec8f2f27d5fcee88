import EasyNav.LimitedSpeeds

namespace EasyNav.SilentController

open EasyNav.ExtendedArithmetic.Extended
open EasyNav.DoubleArithmetic
open EasyNav.SpeedLimits
open EasyNav.NavigationState
open EasyNav.VelocityRamp
open EasyNav.VelocitySelection
open EasyNav.CommandSupervision
open EasyNav.CommandPublication
open EasyNav.CommandTimeout (RtCycle Event step selected target Holds cycle_eq
  cycle_of_not_fresh selected_cmd_of_not_fresh reference seconds_le_of_not_lt cycle_holds
  stop_holds exampleNode exampleNode_start exampleTakeover exampleSilence)
open EasyNav.FiniteCommands (ValidLimits)
open EasyNav.CommandContinuity
open EasyNav.StopSilence (proposals selected_eq)
open EasyNav.SlowingDown
open EasyNav.LimitedSpeeds (target_ne_override)
open EasyNav.Runs

/-- A configured node whose command timeout is `timeout` seconds. Its commands are counted from
then on. -/
def Start (timeout : ℚ) (node : ControllerNode) : Prop :=
  ∃ (unconfigured configured : ControllerNode) (params : ControllerParameters)
    (loading : PluginLoading),
    params.cmdTimeout = .fin timeout ∧
      unconfigured.onConfigure params loading = (configured, .success) ∧
        node = { configured with published := [] }

/-- Nobody proposes anything, or nothing finite. -/
def Unproposed (node : ControllerNode) : Event → Prop
  | .cycle c => ∀ source, peek (proposals node c) source = none
  | .stop _ => True

/-- The event is a cycle, later than the timeout after the cycle before the silence, if there
was one. -/
def Expires (timeout : ℚ) (before : Option Time) : Event → Prop
  | .cycle c => ∀ t ∈ before, (.fin timeout : Double) < seconds (c.now - t)
  | .stop _ => False

/-- No command is left to execute. -/
def Quiet (node : ControllerNode) : Prop :=
  node.guard.timedOut = true ∨ node.mux.lastTarget.twist = {}

/-- What is left to execute is not newer than the cycle before the silence. -/
def Expiring (before : Option Time) (node : ControllerNode) : Prop :=
  Quiet node ∨ ∃ last t, node.guard.lastProposal = some last ∧ before = some t ∧ last ≤ t

section Start

variable {timeout : ℚ} {node : ControllerNode} {past : List (ControllerNode × Event)}

theorem start_counted (h : Start timeout node) : FiniteCommands.Start node := by
  obtain ⟨unconfigured, configured, params, loading, -, hconfigure, hnode⟩ := h
  exact ⟨unconfigured, configured, params, loading, hconfigure, hnode⟩

theorem start_holds (h : Start timeout node) : Holds timeout node [] := by
  obtain ⟨unconfigured, configured, params, loading, hparams, hconfigure, rfl⟩ := h
  have hready := unconfigured.onConfigure_ready hconfigure
  refine ⟨?_, hready.cmdTimeout.trans hparams, Or.inl ?_⟩
  · exact hready.connected
  · change configured.mux.lastTarget.twist = {}
    rw [hready.mux]

theorem run_holds (htimeout : 0 < timeout) (hrun : Run step (Start timeout) node past) :
    Holds timeout node past := by
  refine hrun.history_invariant (fun _ _ => True) (fun _ h => start_holds h) ?_
    (fun _ _ => trivial)
  rintro node (c | readings) past h -
  · exact cycle_holds htimeout h c
  · exact stop_holds h readings

end Start

theorem reference_le_head (origin : Time) (clocks : List Time) :
    reference origin clocks ≤ clocks.headD origin := by
  induction clocks with
  | nil => exact le_rfl
  | cons now earlier ih =>
      rw [reference]
      split
      · exact le_rfl
      · rename_i hafter
        exact ih.trans (not_lt.mp hafter)

section Steps

variable {timeout : ℚ} {node : ControllerNode} {c : RtCycle} {before : Option Time}
  {past : List (ControllerNode × Event)}

theorem holds_expiring (h : Holds timeout node past) : Expiring (lastCycle past) node := by
  rcases h.held with hzero | hout | ⟨origin, since, older, last, hpast, -, -, hlast, hle⟩
  · exact Or.inl (Or.inr hzero)
  · exact Or.inl (Or.inl hout)
  · refine Or.inr ⟨last, (since.map fun p => p.2.now).headD origin.2.now, hlast, ?_,
      hle.trans (reference_le_head _ _)⟩
    rw [hpast]
    cases since <;> rfl

theorem choose_unproposed (mux : VelocityMux) (paused protectiveStop inhibited : Bool) :
    (mux.choose none none none paused protectiveStop inhibited).fresh = true →
      (mux.choose none none none paused protectiveStop inhibited).cmd.twist = {} := by
  unfold VelocityMux.choose
  split
  · exact fun _ => rfl
  · split
    · exact fun _ => rfl
    · dsimp only
      split
      · exact fun _ => rfl
      · exact fun h => absurd h Bool.false_ne_true

theorem selected_unproposed (h : Unproposed node (.cycle c))
    (hfresh : (selected node c).fresh = true) : (selected node c).cmd.twist = {} := by
  rw [selected_eq node c, h .override, h .takeover, h .controller] at hfresh ⊢
  exact choose_unproposed _ _ _ _ hfresh

theorem cycle_quiet (hzero : (selected node c).cmd.twist = {}) :
    Quiet (step node (.cycle c)) ∧ (target node c).cmd.twist = {} := by
  obtain ⟨htarget, hmux, -⟩ := cycle_eq node c
  refine ⟨Or.inr ?_, ?_⟩
  · rw [hmux]
    exact hzero
  · rw [htarget]
    exact node.guard.supervise_twist_of_zero c.now hzero

theorem quiet_cycle (h : Quiet node) (hsilent : Unproposed node (.cycle c)) :
    Quiet (step node (.cycle c)) ∧ (target node c).cmd.twist = {} := by
  cases hfresh : (selected node c).fresh with
  | true => exact cycle_quiet (selected_unproposed hsilent hfresh)
  | false =>
      obtain ⟨-, ⟨hout, hzero⟩ | ⟨-, hbefore, -, -⟩⟩ := cycle_of_not_fresh hfresh
      · exact ⟨Or.inl hout, hzero⟩
      · rcases h with hout | htarget
        · rw [hbefore] at hout
          contradiction
        · rcases selected_cmd_of_not_fresh hfresh with hcmd | hzero
          · exact cycle_quiet (by rw [hcmd, htarget])
          · exact cycle_quiet hzero

/-- The guard never counts from later than before, whichever way the clock goes. -/
theorem countedFrom_le {last t : Time} (hlast : node.guard.lastProposal = some last)
    (hle : last ≤ t) (now : Time) :
    ∃ counted, node.guard.countedFrom now = some counted ∧ counted ≤ t := by
  rw [CommandGuard.countedFrom, hlast]
  refine ⟨_, rfl, ?_⟩
  dsimp only
  split
  · rename_i hback
    exact hback.le.trans hle
  · exact hle

theorem expiring_cycle (h : Expiring before node) (hsilent : Unproposed node (.cycle c)) :
    Expiring before (step node (.cycle c)) := by
  rcases h with hquiet | ⟨last, t, hlast, hbefore, hle⟩
  · exact Or.inl (quiet_cycle hquiet hsilent).1
  · cases hfresh : (selected node c).fresh with
    | true => exact Or.inl (cycle_quiet (selected_unproposed hsilent hfresh)).1
    | false =>
        obtain ⟨hproposal, -⟩ := cycle_of_not_fresh hfresh
        obtain ⟨counted, hcounted, hcountedLe⟩ := countedFrom_le hlast hle c.now
        exact Or.inr ⟨counted, t, hproposal.trans hcounted, hbefore, hcountedLe⟩

theorem expires_cycle (htimeout : 0 < timeout) (hcmd : node.guard.cmdTimeout = .fin timeout)
    (h : Expiring before node) (hsilent : Unproposed node (.cycle c))
    (hexpires : Expires timeout before (.cycle c)) : Quiet (step node (.cycle c)) := by
  rcases h with hquiet | ⟨last, t, hlast, rfl, hle⟩
  · exact (quiet_cycle hquiet hsilent).1
  by_cases hzero : (selected node c).cmd.twist = {}
  · exact (cycle_quiet hzero).1
  cases hfresh : (selected node c).fresh with
  | true => exact absurd (selected_unproposed hsilent hfresh) hzero
  | false =>
      obtain ⟨-, ⟨hout, -⟩ | ⟨-, -, -, hrecent⟩⟩ := cycle_of_not_fresh hfresh
      · exact Or.inl hout
      · have hmoving : (selected node c).cmd.twist.eq {} = false := by
          rw [Bool.eq_false_iff]
          exact fun heq => hzero (Twist.eq_of_eq heq)
        obtain ⟨counted, hcounted, hcountedLe⟩ := countedFrom_le hlast hle c.now
        rw [hcmd] at hrecent
        have hinTime := hrecent (fin_lt_fin.mpr htimeout) hmoving _ hcounted
        have hlate := hexpires t rfl
        have hage := seconds_le_of_not_lt hcountedLe hinTime
        rw [seconds_eq, fin_le_fin] at hage
        rw [seconds_eq, fin_lt_fin] at hlate
        exact absurd hage (not_le.mpr hlate)

theorem stop_quiet (h : node.Connected) (readings : StopReadings) :
    Quiet (step node (.stop readings)) := by
  obtain ⟨hstopped, -⟩ := node.stopRobot_of_connected h readings
  right
  change (node.stopRobot readings).mux.lastTarget.twist = {}
  rw [hstopped.mux]

theorem quiet_step (h : Quiet node) (hconnected : node.Connected) {event : Event}
    (hsilent : Unproposed node event) : Quiet (step node event) ∧ Zeroed node event := by
  cases event with
  | cycle c =>
      obtain ⟨hquiet, hzero⟩ := quiet_cycle h hsilent
      exact ⟨hquiet, hzero, target_ne_override (hsilent .override)⟩
  | stop readings => exact ⟨stop_quiet hconnected readings, trivial⟩

theorem expiring_step (h : Expiring before node) (hconnected : node.Connected) {event : Event}
    (hsilent : Unproposed node event) : Expiring before (step node event) := by
  cases event with
  | cycle c => exact expiring_cycle h hsilent
  | stop readings => exact Or.inl (stop_quiet hconnected readings)

end Steps

section Runs

variable {timeout : ℚ} {node silenced node' : ControllerNode}
  {past silence more : List (ControllerNode × Event)}

theorem silence_quiet (htimeout : 0 < timeout) (hrun : Run step (Start timeout) node past)
    (hsilence : Run step (· = node) silenced silence)
    (hsilent : ∀ p ∈ silence, Unproposed p.1 p.2) :
    Expiring (lastCycle past) silenced ∧
      ((∃ p ∈ silence, Expires timeout (lastCycle past) p.2) → Quiet silenced) := by
  induction hsilence with
  | init h =>
      rw [h]
      exact ⟨holds_expiring (run_holds htimeout hrun), fun ⟨p, hp, _⟩ =>
        absurd hp List.not_mem_nil⟩
  | @next silenced silence hsilence event ih =>
      obtain ⟨hevent, hearlier⟩ := List.forall_mem_cons.mp hsilent
      obtain ⟨hexpiring, hquiet⟩ := ih hearlier
      have hholds := run_holds htimeout (hrun.append hsilence)
      refine ⟨expiring_step hexpiring hholds.connected hevent, ?_⟩
      rintro ⟨p, hp, hexpires⟩
      rcases List.mem_cons.mp hp with rfl | hp
      · cases event with
        | cycle c => exact expires_cycle htimeout hholds.cmdTimeout hexpiring hevent hexpires
        | stop readings => exact absurd hexpires id
      · exact (quiet_step (hquiet ⟨p, hp, hexpires⟩) hholds.connected hevent).1

theorem more_zeroed (htimeout : 0 < timeout) (hrun : Run step (Start timeout) node past)
    (hquiet : Quiet node) (hmore : Run step (· = node) node' more)
    (hsilent : ∀ p ∈ more, Unproposed p.1 p.2) :
    Quiet node' ∧ ∀ p ∈ more, Zeroed p.1 p.2 := by
  induction hmore with
  | init h =>
      rw [h]
      exact ⟨hquiet, fun p hp => absurd hp List.not_mem_nil⟩
  | @next node' more hmore event ih =>
      obtain ⟨hevent, hearlier⟩ := List.forall_mem_cons.mp hsilent
      obtain ⟨hbefore, hzeroed⟩ := ih hearlier
      have hconnected := (run_holds htimeout (hrun.append hmore)).connected
      obtain ⟨hnext, hzero⟩ := quiet_step hbefore hconnected hevent
      exact ⟨hnext, List.forall_mem_cons.mpr ⟨hzero, hzeroed⟩⟩

/-- Once nobody has proposed anything for longer than the timeout, and until somebody does, the
robot only slows down, and it stands when the smoother has been given the time that braking
takes. -/
theorem silent_controller_stops (htimeout : 0 < timeout)
    (hrun : Run step (Start timeout) node past) (hsilence : Run step (· = node) silenced silence)
    (hexpires : ∃ p ∈ silence, Expires timeout (lastCycle past) p.2)
    (hmore : Run step (· = silenced) node' more)
    (hsilent : ∀ p ∈ more ++ silence, Unproposed p.1 p.2)
    (hvalid : ∀ p ∈ more ++ (silence ++ past), ValidLimits p.1 p.2) :
    ∃ a b : ExactCommand, a.Agrees (lastTwist silenced) ∧ b.Agrees (lastTwist node') ∧
      Slower a b ∧ ∀ time, SlowsWithin silenced.robotLimits .rest time a →
        time ≤ slowingTime more → Under .rest b := by
  obtain ⟨hlater, hearlier⟩ := List.forall_mem_append.mp hsilent
  have hquiet := (silence_quiet htimeout hrun hsilence hearlier).2 hexpires
  have hsilenced := hrun.append hsilence
  have hzeroed := (more_zeroed htimeout hsilenced hquiet hmore hlater).2
  exact zeroed_brakes (hsilenced.mono fun _ => start_counted) hmore hvalid hzeroed

/-- A takeover asks for half a metre per second at this time. -/
def takingOver (now : Time) : Event :=
  .cycle { exampleTakeover with
    nav := propose {} .takeover { twist := { linear := { x := .fin (1 / 2) } } }
    now := now }

def driving : List Event :=
  [takingOver 1000000000, takingOver 1100000000, takingOver 1200000000, takingOver 1300000000]

def silentCycle (now : Time) : Event := .cycle { exampleSilence with now := now }

theorem exampleNode_waits : Start (1 / 2) exampleNode := by
  obtain ⟨unconfigured, params, loading, htimeout, hconfigure⟩ := exampleNode_start
  exact ⟨unconfigured, exampleNode, params, loading, htimeout, hconfigure, by decide +kernel⟩

theorem silent_controller_stops_takeover :
    let silenced := [silentCycle 1900000000].foldl step (driving.foldl step exampleNode)
    lastTwist silenced = { linear := { x := .fin (1 / 20) } } ∧
      ∃ b : ExactCommand, b.Agrees (lastTwist ([silentCycle 1950000000].foldl step silenced)) ∧
        Under .rest b := by
  have hstart : Run step (Start (1 / 2)) exampleNode [] := .init exampleNode_waits
  have hrun := hstart.foldl driving
  have hdriving : Run step (· = driving.foldl step exampleNode) _ [] := .init rfl
  have hsilence := hdriving.foldl [silentCycle 1900000000]
  have hsilenced : Run step
      (· = [silentCycle 1900000000].foldl step (driving.foldl step exampleNode)) _ [] := .init rfl
  have hmore := hsilenced.foldl [silentCycle 1950000000]
  have htwist : lastTwist ([silentCycle 1900000000].foldl step (driving.foldl step exampleNode)) =
      { linear := { x := .fin (1 / 20) } } := by decide +kernel
  have hexpires : Expires (1 / 2) (some 1300000000) (silentCycle 1900000000) := by
    intro t ht
    obtain rfl := Option.some.inj ht
    decide +kernel
  obtain ⟨a, b, ha, hb, -, hstops⟩ := silent_controller_stops (by norm_num) hrun hsilence
    ⟨_, List.mem_cons_self, hexpires⟩ hmore (by
      simp only [history, List.cons_append, List.nil_append, List.forall_mem_cons]
      refine ⟨?_, ?_, fun p hp => absurd hp List.not_mem_nil⟩
      all_goals
        intro source
        cases source <;> decide +kernel) (by
      simp only [history, driving, List.cons_append, List.nil_append, List.forall_mem_cons]
      refine ⟨?_, ?_, ?_, ?_, ?_, ?_, fun p hp => absurd hp List.not_mem_nil⟩
      all_goals
        change invalidRobotLimits _ = ""
        decide +kernel)
  rw [htwist] at ha
  obtain rfl : a = ⟨1 / 20, 0, 0, 0⟩ := agrees_unique ha ⟨rfl, rfl, rfl, rfl⟩
  refine ⟨htwist, b, hb, hstops (1 / 20) ?_ (by decide +kernel)⟩
  constructor <;> (rw [AxisSlows]; decide +kernel)

end Runs

end EasyNav.SilentController
