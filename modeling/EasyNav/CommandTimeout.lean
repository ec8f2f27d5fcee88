import EasyNav.CommandPublication
import EasyNav.Runs

namespace EasyNav.CommandTimeout

open EasyNav.ExtendedArithmetic
open EasyNav.ExtendedArithmetic.Extended
open EasyNav.DoubleArithmetic
open EasyNav.NavigationState
open EasyNav.VelocitySelection
open EasyNav.CommandSupervision
open EasyNav.CommandPublication
open EasyNav.Lifecycle
open EasyNav.Runs

/-- One RT cycle as the controller node sees it: the blackboard when it starts,
what its plugin and the recovery system do, and the node's clock. -/
structure RtCycle where
  nav : NavState
  plugin : NavState → ControllerRun
  recovery : NavState → NavState
  now : Time

inductive Event where
  | cycle (c : RtCycle)
  | stop (readings : StopReadings)

/-- The node and the blackboard at the start of `publishCmdVelRt`. -/
def beforePublish (node : ControllerNode) (c : RtCycle) : ControllerNode × NavState :=
  let (_, node, nav) := node.cycleRt c.nav c.plugin
  (node, c.recovery nav)

def step (node : ControllerNode) : Event → ControllerNode
  | .cycle c =>
      let (node, nav) := beforePublish node c
      (node.publishCmdVelRt nav c.now).1
  | .stop readings => node.stopRobot readings

def selected (node : ControllerNode) (c : RtCycle) : Selection :=
  let (node, nav) := beforePublish node c
  (node.mux.select (CommandGuard.discardNonFinite nav).2).1

/-- What the guard makes of it: the target of the cycle. -/
def target (node : ControllerNode) (c : RtCycle) : Selection :=
  let (node, nav) := beforePublish node c
  ((node.followSafetyStatus nav).superviseCommand nav c.now).1

/-- A configured node whose command timeout is `timeout` seconds. -/
def Start (timeout : ℚ) (node : ControllerNode) : Prop :=
  ∃ (unconfigured : ControllerNode) (params : ControllerParameters) (loading : PluginLoading),
    params.cmdTimeout = .fin timeout ∧
      unconfigured.onConfigure params loading = (node, .success)

theorem beforePublish_sameSupervision (node : ControllerNode) (c : RtCycle) :
    ControllerNode.SameSupervision (beforePublish node c).1 node :=
  node.cycleRt_sameSupervision c.nav c.plugin

theorem cycle_eq (node : ControllerNode) (c : RtCycle) :
    target node c = (node.guard.supervise (selected node c) c.now).1 ∧
      (step node (.cycle c)).mux =
        { lastTarget := (selected node c).cmd, lastChoice := (selected node c).choice } ∧
      CommandGuard.SameTimeout (step node (.cycle c)).guard
        (node.guard.supervise (selected node c) c.now).2 := by
  obtain ⟨hmux, htimeout⟩ := beforePublish_sameSupervision node c
  obtain ⟨hmux', htimeout'⟩ :=
    (beforePublish node c).1.followSafetyStatus_sameSupervision (beforePublish node c).2
  have hselected : (((beforePublish node c).1.followSafetyStatus
      (beforePublish node c).2).mux.select
        (CommandGuard.discardNonFinite (beforePublish node c).2).2).1 = selected node c := by
    rw [hmux']
    rfl
  have hsupervise := CommandGuard.supervise_congr (htimeout'.trans htimeout)
    (selected node c) c.now
  refine ⟨?_, ?_, ?_⟩
  · unfold target ControllerNode.superviseCommand
    dsimp only
    rw [hselected]
    exact hsupervise.1
  · unfold step ControllerNode.publishCmdVelRt
    dsimp only
    rw [(ControllerNode.publishSelection_sameSupervision _ _ _).mux]
    unfold ControllerNode.superviseCommand
    dsimp only
    rw [← hselected]
    rfl
  · unfold step ControllerNode.publishCmdVelRt
    dsimp only
    refine (ControllerNode.publishSelection_sameSupervision _ _ _).timeout.trans ?_
    unfold ControllerNode.superviseCommand
    dsimp only
    rw [hselected]
    exact (CommandGuard.report_sameTimeout _ _ _ _).trans hsupervise.2

variable {node : ControllerNode} {c : RtCycle}

theorem selected_cmd_of_not_fresh (h : (selected node c).fresh = false) :
    (selected node c).cmd = node.mux.lastTarget ∨ (selected node c).cmd.twist = {} := by
  have hmux := (beforePublish_sameSupervision node c).mux
  unfold selected at h ⊢
  dsimp only at h ⊢
  rw [VelocityMux.select_selection, hmux] at h ⊢
  exact VelocityMux.choose_cmd_of_not_fresh h

theorem cycle_of_fresh (h : (selected node c).fresh = true) :
    target node c = selected node c ∧
      (step node (.cycle c)).guard.lastProposal = some c.now ∧
      (step node (.cycle c)).guard.timedOut = false := by
  obtain ⟨htarget, -, hguard⟩ := cycle_eq node c
  rw [CommandGuard.supervise_of_fresh _ _ h] at htarget hguard
  exact ⟨htarget, hguard.lastProposal, hguard.timedOut⟩

/-- A cycle without a new command stops the robot or holds the last target, which
then is not older than the timeout. -/
theorem cycle_of_not_fresh (h : (selected node c).fresh = false) :
    (step node (.cycle c)).guard.lastProposal = node.guard.countedFrom c.now ∧
      (((step node (.cycle c)).guard.timedOut = true ∧ (target node c).cmd.twist = {}) ∨
        (step node (.cycle c)).guard.timedOut = false ∧ node.guard.timedOut = false ∧
          target node c = selected node c ∧
          (0 < node.guard.cmdTimeout → (selected node c).cmd.twist.eq {} = false →
            ∀ last ∈ node.guard.countedFrom c.now,
              ¬ node.guard.cmdTimeout < seconds (c.now - last))) := by
  obtain ⟨htarget, -, hguard⟩ := cycle_eq node c
  have hsupervise := CommandGuard.supervise_of_not_fresh node.guard c.now h
  rw [hguard.lastProposal, hguard.timedOut, htarget]
  exact hsupervise

theorem target_eq_of_ne_zero (h : (target node c).cmd.twist ≠ {}) :
    (step node (.cycle c)).guard.timedOut = false ∧
      (target node c).cmd = (step node (.cycle c)).mux.lastTarget := by
  have hmux := (cycle_eq node c).2.1
  cases hfresh : (selected node c).fresh with
  | true =>
      obtain ⟨htarget, -, hout⟩ := cycle_of_fresh hfresh
      exact ⟨hout, by rw [htarget, hmux]⟩
  | false =>
      obtain ⟨-, ⟨-, hzero⟩ | ⟨hout, -, htarget, -⟩⟩ := cycle_of_not_fresh hfresh
      · exact absurd hzero h
      · exact ⟨hout, by rw [htarget, hmux]⟩

/-- The reading the age of a command counts from: that of its selection, or of the
last later cycle, newest first, in which the clock jumped back. -/
def reference (origin : Time) : List Time → Time
  | [] => origin
  | now :: earlier =>
      if now < earlier.headD origin then now else reference origin earlier

/-- A reading not later than the reference stays so when the clock moves on, and when
it jumps back. -/
theorem le_reference_cons {origin last : Time} {earlier : List Time}
    (h : last ≤ reference origin earlier) (now : Time) :
    (if now < last then now else last) ≤ reference origin (now :: earlier) := by
  rw [reference]
  split <;> split
  · exact le_rfl
  · rename_i hbefore _
    exact hbefore.le.trans h
  · rename_i hafter _
    exact not_lt.mp hafter
  · exact h

def record (p : ControllerNode × RtCycle) : ControllerNode × Event := (p.1, .cycle p.2)

/-- The command selected in the cycle `origin` is held in every cycle `since` then,
newest first: none selects a new one, none declares a timeout, and in none the
command is older than the timeout. -/
structure HeldSince (timeout : ℚ) (origin : ControllerNode × RtCycle)
    (since : List (ControllerNode × RtCycle)) : Prop where
  selected : (selected origin.1 origin.2).fresh = true
  held : ∀ p ∈ since, (CommandTimeout.selected p.1 p.2).fresh = false
  inTime : ∀ p ∈ since, (step p.1 (.cycle p.2)).guard.timedOut = false
  recent : ∀ later p earlier, since = later ++ p :: earlier →
    seconds (p.2.now - reference origin.2.now ((p :: earlier).map fun p => p.2.now)) ≤
      .fin timeout

/-- The command the mux holds, if it is not zero, was selected in a cycle and held
since, and the guard counts its age from no later than the reference. -/
structure Holds (timeout : ℚ) (node : ControllerNode) (past : List (ControllerNode × Event)) :
    Prop where
  connected : node.Connected
  cmdTimeout : node.guard.cmdTimeout = .fin timeout
  held : node.mux.lastTarget.twist = {} ∨ node.guard.timedOut = true ∨
    ∃ origin since older last, past = since.map record ++ record origin :: older ∧
      HeldSince timeout origin since ∧
      node.mux.lastTarget = (selected origin.1 origin.2).cmd ∧
      node.guard.lastProposal = some last ∧
      last ≤ reference origin.2.now (since.map fun p => p.2.now)

theorem seconds_le_of_not_lt {timeout : ℚ} {now last reference : Time}
    (hlast : last ≤ reference) (h : ¬ (.fin timeout : Double) < seconds (now - last)) :
    seconds (now - reference) ≤ .fin timeout := by
  rw [seconds_eq, fin_lt_fin, not_lt] at h
  rw [seconds_eq, fin_le_fin]
  refine le_trans ?_ h
  have hle : ((now - reference : Int) : ℚ) ≤ ((now - last : Int) : ℚ) := by
    exact_mod_cast Int.sub_le_sub_left hlast now
  linarith

theorem stop_holds {timeout : ℚ} {past : List (ControllerNode × Event)}
    (h : Holds timeout node past) (readings : StopReadings) :
    Holds timeout (node.stopRobot readings) ((node, .stop readings) :: past) := by
  obtain ⟨hstopped, htopics⟩ := node.stopRobot_of_connected h.connected readings
  exact ⟨htopics.connected h.connected, (node.stopRobot_cmdTimeout readings).trans h.cmdTimeout,
     Or.inl (by rw [hstopped.mux])⟩

theorem HeldSince.nil {timeout : ℚ} {origin : ControllerNode × RtCycle}
    (h : (CommandTimeout.selected origin.1 origin.2).fresh = true) :
    HeldSince timeout origin [] where
  selected := h
  held := by simp
  inTime := by simp
  recent := by simp

theorem HeldSince.cons {timeout : ℚ} {origin p : ControllerNode × RtCycle}
    {since : List (ControllerNode × RtCycle)} (h : HeldSince timeout origin since)
    (hfresh : (CommandTimeout.selected p.1 p.2).fresh = false)
    (hout : (step p.1 (.cycle p.2)).guard.timedOut = false)
    (hrecent : seconds (p.2.now -
        reference origin.2.now ((p :: since).map fun p => p.2.now)) ≤ .fin timeout) :
    HeldSince timeout origin (p :: since) where
  selected := h.selected
  held := List.forall_mem_cons.mpr ⟨hfresh, h.held⟩
  inTime := List.forall_mem_cons.mpr ⟨hout, h.inTime⟩
  recent := by
    intro later q earlier heq
    cases later with
    | nil =>
        obtain ⟨rfl, rfl⟩ := List.cons.inj heq
        exact hrecent
    | cons first later =>
        exact h.recent later q earlier (List.cons.inj heq).2

theorem cycle_holds {timeout : ℚ} (htimeout : 0 < timeout)
    {past : List (ControllerNode × Event)} (h : Holds timeout node past) (c : RtCycle) :
    Holds timeout (step node (.cycle c)) ((node, .cycle c) :: past) := by
  have htopics : ControllerNode.SameTopics (step node (.cycle c)) node :=
    (ControllerNode.publishCmdVelRt_sameTopics _ _ _).trans
      (node.cycleRt_sameTopics c.nav c.plugin)
  obtain ⟨-, hmux, hguard⟩ := cycle_eq node c
  refine ⟨htopics.connected h.connected, ?_, ?_⟩
  · rw [hguard.cmdTimeout, CommandGuard.supervise_cmdTimeout, h.cmdTimeout]
  cases hfresh : (selected node c).fresh with
  | true =>
      obtain ⟨-, hlast, -⟩ := cycle_of_fresh hfresh
      refine Or.inr (Or.inr ⟨(node, c), [], past, c.now, rfl, .nil hfresh, ?_, hlast, le_rfl⟩)
      rw [hmux]
  | false =>
      obtain ⟨hproposal, hcases⟩ := cycle_of_not_fresh hfresh
      rcases selected_cmd_of_not_fresh hfresh with hcmd | hzero
      · by_cases hzero : node.mux.lastTarget.twist = {}
        · exact Or.inl (by rw [hmux, hcmd, hzero])
        rcases hcases with ⟨hout, -⟩ | ⟨hout, hbefore, -, hlate⟩
        · exact Or.inr (Or.inl hout)
        rcases h.held with hheld | hheld | ⟨origin, since, older, last, hpast, hheld, htarget,
          hlast, hle⟩
        · exact absurd hheld hzero
        · rw [hbefore] at hheld
          contradiction
        -- The command is held one more cycle.
        have hcounted : node.guard.countedFrom c.now =
            some (if c.now < last then c.now else last) := by
          rw [CommandGuard.countedFrom, hlast]
          rfl
        have hreference : (if c.now < last then c.now else last) ≤
            reference origin.2.now (((node, c) :: since).map fun p => p.2.now) :=
          le_reference_cons hle c.now
        refine Or.inr (Or.inr ⟨origin, (node, c) :: since, older, _, by rw [hpast]; rfl,
          hheld.cons hfresh hout ?_, ?_, hproposal.trans hcounted, hreference⟩)
        · refine seconds_le_of_not_lt hreference ?_
          rw [h.cmdTimeout] at hlate
          refine hlate (fin_lt_fin.mpr htimeout) ?_ _ hcounted
          rw [hcmd, Bool.eq_false_iff]
          exact fun heq => hzero (Twist.eq_of_eq heq)
        · rw [hmux, hcmd, htarget]
      · exact Or.inl (by rw [hmux, hzero])

theorem run_holds {timeout : ℚ} (htimeout : 0 < timeout)
    {past : List (ControllerNode × Event)} (hrun : Run step (Start timeout) node past) :
    Holds timeout node past := by
  refine hrun.history_invariant (fun _ _ => True) ?_ ?_ (fun _ _ => trivial)
  · rintro node ⟨unconfigured, params, loading, hparams, hconfigure⟩
    have hready := unconfigured.onConfigure_ready hconfigure
    exact ⟨hready.connected, hready.cmdTimeout.trans hparams, Or.inl (by rw [hready.mux])⟩
  · rintro node (c | readings) past h -
    · exact cycle_holds htimeout h c
    · exact stop_holds h readings

theorem timedOut_cycle (hout : node.guard.timedOut = true)
    (hfresh : (selected node c).fresh = false) :
    (step node (.cycle c)).guard.timedOut = true ∧ (target node c).cmd.twist = {} := by
  obtain ⟨-, h | ⟨-, hbefore, -⟩⟩ := cycle_of_not_fresh hfresh
  · exact h
  · rw [hbefore] at hout
    contradiction

/-- Once a command has timed out the target stays zero, whatever the clock does,
until a new one is selected. -/
theorem timedOut_cycles {start : ControllerNode → Prop} {expired : ControllerNode × RtCycle}
    {since : List (ControllerNode × RtCycle)} {older : List (ControllerNode × Event)}
    (hrun : Run step start node (since.map record ++ record expired :: older))
    (hout : (step expired.1 (.cycle expired.2)).guard.timedOut = true)
    (hfresh : ∀ p ∈ since, (selected p.1 p.2).fresh = false) :
    node.guard.timedOut = true ∧ ∀ p ∈ since, (target p.1 p.2).cmd.twist = {} := by
  induction since generalizing node with
  | nil =>
      obtain ⟨hnode, -⟩ := hrun.last
      rw [hnode]
      exact ⟨hout, by simp⟩
  | cons p since ih =>
      obtain ⟨hnode, hbefore⟩ := hrun.last
      rw [List.forall_mem_cons] at hfresh
      obtain ⟨hstill, hzero⟩ := ih hbefore hfresh.2
      obtain ⟨hnext, hp⟩ := timedOut_cycle hstill hfresh.1
      rw [hnode]
      exact ⟨hnext, List.forall_mem_cons.mpr ⟨hp, hzero⟩⟩

/-- A stale command is never executed or resumed. In every run of RT cycles and
stops, a target that is not zero is the command of the last fresh selection, held
since without a timeout and never for longer than that; and after a timeout the
target is zero until a new selection. -/
theorem target_never_stale {timeout : ℚ} (htimeout : 0 < timeout)
    {past : List (ControllerNode × Event)} (hrun : Run step (Start timeout) node past) :
    (∀ cycle earlier, past = record cycle :: earlier →
      (target cycle.1 cycle.2).cmd.twist ≠ {} →
        ∃ origin since older, past = since.map record ++ record origin :: older ∧
          HeldSince timeout origin since ∧
          (target cycle.1 cycle.2).cmd = (selected origin.1 origin.2).cmd) ∧
    (∀ (since : List (ControllerNode × RtCycle)) (expired : ControllerNode × RtCycle)
        (older : List (ControllerNode × Event)),
      past = since.map record ++ record expired :: older →
      (step expired.1 (.cycle expired.2)).guard.timedOut = true →
      (∀ p ∈ since, (selected p.1 p.2).fresh = false) →
        ∀ p ∈ since, (target p.1 p.2).cmd.twist = {}) := by
  constructor
  · rintro cycle earlier rfl hne
    obtain ⟨hnode, -⟩ := hrun.last
    obtain ⟨hout, htarget⟩ := target_eq_of_ne_zero hne
    have hholds := run_holds htimeout hrun
    change node = step cycle.1 (.cycle cycle.2) at hnode
    rw [← hnode] at hout htarget
    rcases hholds.held with hzero | hheld | ⟨origin, since, older, -, hpast, hheld, hcmd, -, -⟩
    · rw [htarget, hzero] at hne
      contradiction
    · rw [hout] at hheld
      contradiction
    · exact ⟨origin, since, older, hpast, hheld, htarget.trans hcmd⟩
  · rintro since expired older rfl hout hfresh
    exact (timedOut_cycles hrun hout hfresh).2

def exampleNode : ControllerNode := (({} : ControllerNode).onConfigure {} {}).1

def exampleTakeover : RtCycle where
  nav := propose {} .takeover { twist := { linear := { x := .fin (1 / 10) } } }
  plugin := fun nav => ⟨false, nav⟩
  recovery := id
  now := 1000000000

def exampleSilence : RtCycle where
  nav := {}
  plugin := fun nav => ⟨false, nav⟩
  recovery := id
  now := 1500000000

theorem exampleNode_start : Start (1 / 2) exampleNode := by
  refine ⟨{}, {}, {}, rfl, ?_⟩
  have h : (({} : ControllerNode).onConfigure {} {}).2 = .success := by decide +kernel
  rw [← h]
  rfl

theorem target_never_stale_takeover :
    ∃ origin since older,
      [record (step exampleNode (.cycle exampleTakeover), exampleSilence),
          record (exampleNode, exampleTakeover)] = since.map record ++ record origin :: older ∧
        HeldSince (1 / 2) origin since ∧
        (target (step exampleNode (.cycle exampleTakeover)) exampleSilence).cmd =
          (selected origin.1 origin.2).cmd := by
  have hstart : Run step (Start (1 / 2)) exampleNode [] := .init exampleNode_start
  have hrun := (hstart.next (.cycle exampleTakeover)).next (.cycle exampleSilence)
  have hne : (target (step exampleNode (.cycle exampleTakeover)) exampleSilence).cmd.twist ≠
      {} := by
    decide +kernel
  exact (target_never_stale (by norm_num) hrun).1
    (step exampleNode (.cycle exampleTakeover), exampleSilence)
    [record (exampleNode, exampleTakeover)] rfl hne

end EasyNav.CommandTimeout
