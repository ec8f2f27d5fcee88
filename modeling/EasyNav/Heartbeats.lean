import EasyNav.Debouncing
import EasyNav.RobotAtExit

namespace EasyNav.Heartbeats

open EasyNav.ExtendedArithmetic
open EasyNav.ExtendedArithmetic.Extended
open EasyNav.DoubleArithmetic
open EasyNav.NavigationState
open EasyNav.SafetySupervision
open EasyNav.SafetySupervision.SafetySupervisor
open EasyNav.Lifecycle
open EasyNav.SystemLifecycle
open EasyNav.CommandFreshness
open EasyNav.Debouncing
open EasyNav.RobotAtExit
open EasyNav.Runs
open EasyNav.ProtectiveStop (RtSystem systemCycleRt)

def pickedTime (pick : Node → RtUpdate → Bool) (node : Node) : Event → List Time
  | .rtCycle update => if pick node update then [update.steady] else []
  | _ => []

/-- When the picked cycles started since the last activation, oldest first. -/
def timesSince (pick : Node → RtUpdate → Bool) : List (Node × Event) → List Time
  | [] => []
  | (node, e) :: past =>
      if Activates node e then [] else timesSince pick past ++ pickedTime pick node e

def cycleTimes : List (Node × Event) → List Time := timesSince fun node _ => node.data.active

def beats (node : Node) (update : RtUpdate) : Bool :=
  decide (node.data.world.supervisor.heartbeats.length <
    (step node (.rtCycle update)).data.world.supervisor.heartbeats.length)

def beatTimes : List (Node × Event) → List Time := timesSince beats

structure Pulse where
  enabled : Bool
  period : Double
  last : Option Time
  sequence : Nat
  sequences : List Nat
  deriving DecidableEq

def pulse (supervisor : SafetySupervisor) : Pulse where
  enabled := supervisor.heartbeatPub
  period := supervisor.heartbeatPeriod
  last := supervisor.lastHeartbeat
  sequence := supervisor.heartbeat.sequence
  sequences := supervisor.heartbeats.map Heartbeat.sequence

def Pulse.due (p : Pulse) (steady : Time) : Bool :=
  p.enabled &&
    match p.last with
    | none => true
    | some last => decide (p.period ≤ seconds (steady - last))

def Pulse.beat (p : Pulse) (steady : Time) : Pulse :=
  { p with
    last := some steady
    sequence := p.sequence + 1
    sequences := (p.sequence + 1) :: p.sequences }

def Pulse.Numbered (p : Pulse) : Prop := p.sequences = (List.range' 1 p.sequence).reverse

/-- Only a finite positive period is kept. -/
def Pulse.Sound (p : Pulse) : Prop :=
  p.enabled = true → ∃ period : ℚ, 0 < period ∧ p.period = .fin period

/-- What the next heartbeat has to exceed, in nanoseconds after the last one. -/
def gap (period : ℚ) : Time := ⌈period * 1000000000⌉ - 1

section Pulse

variable (supervisor : SafetySupervisor) (nav : NavState)

theorem gap_nonneg {period : ℚ} (hpos : 0 < period) : 0 ≤ gap period := by
  have hceil : 0 < ⌈period * 1000000000⌉ := Int.ceil_pos.mpr (by positivity)
  exact Int.le_sub_one_of_lt hceil

theorem gap_lt_iff (period : ℚ) (t : Time) : gap period < t ↔ period ≤ (t : ℚ) / 1000000000 := by
  rw [gap, Int.sub_one_lt_iff, Int.ceil_le, le_div_iff₀ (by norm_num)]

theorem Pulse.due_iff {p : Pulse} {period : ℚ} (henabled : p.enabled = true)
    (hperiod : p.period = .fin period) (steady : Time) :
    p.due steady = true ↔ Due (gap period) p.last steady := by
  rw [Pulse.due, henabled, Bool.true_and, Due]
  cases p.last with
  | none => exact iff_of_true rfl (fun s hs => by cases hs)
  | some last =>
      dsimp only
      rw [decide_eq_true_iff, hperiod, seconds_eq, fin_le_fin, ← gap_lt_iff]
      exact ⟨fun h s hs => Option.some.inj hs ▸ h, fun h => h last rfl⟩

theorem Pulse.Numbered.beat {p : Pulse} (h : p.Numbered) (steady : Time) :
    (p.beat steady).Numbered := by
  rw [Numbered] at h ⊢
  rw [Pulse.beat]
  dsimp only
  rw [h, List.range'_1_concat, List.reverse_append, Nat.add_comm 1]
  rfl

theorem publishHeartbeat_pulse (status : RtStatus) (steady now : Time) :
    pulse (supervisor.publishHeartbeat status steady now) =
      if (pulse supervisor).due steady then (pulse supervisor).beat steady
      else pulse supervisor := by
  rw [publishHeartbeat]
  change pulse (if (pulse supervisor).due steady = true then _ else _) = _
  split <;> rfl

theorem receiveStatus_pulse (msg : SafetyStatus) (steady : Time) :
    pulse (supervisor.receiveStatus msg steady) = pulse supervisor := by
  rw [receiveStatus]
  split <;> rfl

theorem cycleRt_pulse (steady now : Time) :
    pulse (supervisor.cycleRt nav steady now).2.1 =
      if (pulse supervisor).due steady then (pulse supervisor).beat steady
      else pulse supervisor := by
  have hreport : ∀ (s : SafetySupervisor) nav status,
      pulse (s.reportRtStatus nav status).1 = pulse s := by
    intro s nav status
    rw [reportRtStatus]
    split <;> rfl
  have happly : ∀ (s : SafetySupervisor) nav,
      pulse (s.applySafetyStatus nav steady).1 = pulse s := by
    intro s nav
    rw [applySafetyStatus]
    split
    · dsimp only
      rw [reportSafetyStatus]
      split <;> rfl
    · rfl
  have hpose : ∀ (s : SafetySupervisor) nav, pulse (s.checkPoseAge nav now).1 = pulse s := by
    intro s nav
    rw [checkPoseAge]
    split
    · rfl
    · split
      · rfl
      · dsimp only
        split <;> rfl
  have hlatch : ∀ (s : SafetySupervisor) status, pulse (s.latchFailure status) = pulse s := by
    intro s status
    rw [latchFailure]
    split <;> rfl
  rw [cycleRt, beforePoseAge]
  dsimp only
  rw [hlatch, hpose, happly, publishHeartbeat_pulse, hreport]
  rfl

theorem systemCycleRt_pulse (world : RtSystem) (update : RtUpdate) :
    pulse (systemCycleRt world update.cycle).supervisor =
      if (pulse world.supervisor).due update.steady then
        (pulse world.supervisor).beat update.steady
      else pulse world.supervisor :=
  cycleRt_pulse world.supervisor world.nav update.steady update.now

end Pulse

section Transitions

variable {choices : Choices}

/-- No transition of a subnode, and nothing in a configure, publishes a heartbeat. -/
theorem keeps_pulse (choices : Choices) :
    Keeps choices fun data : SystemData RtSystem => data.active = false ∧
      (pulse data.world.supervisor).Numbered ∧ (pulse data.world.supervisor).Sound := by
  constructor
  · rintro data name transition ⟨hactive, hpulse⟩
    refine ⟨hactive, ?_⟩
    refine Managed.trigger_data (motive := fun world : RtSystem =>
      (pulse world.supervisor).Numbered ∧ (pulse world.supervisor).Sound)
      ⟨data.subnodes name, data.world⟩ ?_ ?_ hpulse
    · intro world hworld
      cases name <;> cases transition <;> exact hworld
    · intro world hworld
      cases name <;> exact hworld
  · rintro data ⟨hactive, hnumbered, -⟩
    refine ⟨hactive, hnumbered, ?_⟩
    intro henabled
    obtain ⟨hfinite, hpos⟩ := Bool.and_eq_true_iff.mp henabled
    have hpos := of_decide_eq_true hpos
    change ∃ period : ℚ, 0 < period ∧ choices.safety.heartbeatPeriod = .fin period
    cases hperiod : choices.safety.heartbeatPeriod with
    | fin period =>
        rw [hperiod, zero_def, fin_lt_fin] at hpos
        exact ⟨period, hpos, rfl⟩
    | _ =>
        rw [hperiod] at hfinite
        cases hfinite
  · exact fun data h => h

end Transitions

structure Beating (past : List (Node × Event)) (node : Node) : Prop where
  halting : Halting node
  numbered : (pulse node.data.world.supervisor).Numbered
  sound : (pulse node.data.world.supervisor).Sound
  paced : node.data.active = true → ∀ period : ℚ,
    node.data.world.supervisor.heartbeatPub = true →
      node.data.world.supervisor.heartbeatPeriod = .fin period →
        beatTimes past = counted (gap period) none (cycleTimes past) ∧
          node.data.world.supervisor.lastHeartbeat =
            lastCounted (gap period) none (cycleTimes past)

section Runs

variable {node : Node} {past : List (Node × Event)}

theorem timesSince_of_quiet (pick : Node → RtUpdate → Bool) {e : Event}
    (hquiet : ¬ Activates node e) (he : ∀ update, e ≠ .rtCycle update) :
    timesSince pick ((node, e) :: past) = timesSince pick past := by
  have hpicked : pickedTime pick node e = [] := by
    cases e with
    | rtCycle update => exact absurd rfl (he update)
    | _ => rfl
  rw [timesSince, if_neg hquiet, hpicked, List.append_nil]

theorem Beating.quiet (h : Beating past node) {e : Event} (he : ∀ update, e ≠ .rtCycle update)
    (hpulse : pulse (step node e).data.world.supervisor = pulse node.data.world.supervisor)
    (hactive : (step node e).data.active = node.data.active) :
    Beating ((node, e) :: past) (step node e) := by
  have hquiet : ¬ Activates node e := by
    rintro ⟨hstopped, hactivated⟩
    rw [hactive, hstopped] at hactivated
    cases hactivated
  have henabled := congrArg Pulse.enabled hpulse
  have hperiod := congrArg Pulse.period hpulse
  have hlast := congrArg Pulse.last hpulse
  dsimp only [pulse] at henabled hperiod hlast
  refine ⟨halting_step h.halting e, ?_, ?_, ?_⟩
  · rw [hpulse]
    exact h.numbered
  · rw [hpulse]
    exact h.sound
  · rw [hactive, henabled, hperiod, hlast, beatTimes, cycleTimes,
      timesSince_of_quiet _ hquiet he, timesSince_of_quiet _ hquiet he]
    exact h.paced

theorem rtCycle_pulse (hactive : node.data.active = true) (update : RtUpdate) :
    pulse (step node (.rtCycle update)).data.world.supervisor =
      if (pulse node.data.world.supervisor).due update.steady then
        (pulse node.data.world.supervisor).beat update.steady
      else pulse node.data.world.supervisor := by
  obtain ⟨-, -, hworld⟩ := rtCycle_eq hactive update.cycle
  rw [step, hworld]
  exact systemCycleRt_pulse node.data.world update

theorem beats_eq (hactive : node.data.active = true) (update : RtUpdate) :
    beats node update = (pulse node.data.world.supervisor).due update.steady := by
  have hcount : ∀ supervisor : SafetySupervisor,
      supervisor.heartbeats.length = (pulse supervisor).sequences.length :=
    fun supervisor => (List.length_map _).symm
  rw [beats, hcount, hcount, rtCycle_pulse hactive update]
  cases (pulse node.data.world.supervisor).due update.steady with
  | false => exact decide_eq_false (lt_irrefl _)
  | true => exact decide_eq_true (Nat.lt_succ_self _)

theorem rtCycle_beating (h : Beating past node) (update : RtUpdate) :
    Beating ((node, .rtCycle update) :: past) (step node (.rtCycle update)) := by
  cases hactive : node.data.active with
  | false =>
      have hsame : step node (.rtCycle update) = node := by
        rw [step, Deactivation.rtCycle_of_stopped hactive]
      refine ⟨halting_step h.halting _, ?_, ?_, ?_⟩
      · rw [hsame]
        exact h.numbered
      · rw [hsame]
        exact h.sound
      · rw [hsame, hactive]
        exact fun hrunning => by cases hrunning
  | true =>
      have hpulse := rtCycle_pulse hactive update
      have hkeeps : ¬ Activates node (.rtCycle update) := by
        rintro ⟨hstopped, -⟩
        rw [hactive] at hstopped
        cases hstopped
      refine ⟨halting_step h.halting _, ?_, ?_, ?_⟩
      · rw [hpulse]
        split
        · exact h.numbered.beat update.steady
        · exact h.numbered
      · rw [hpulse]
        split <;> exact h.sound
      · intro _ period henabled hperiod
        have hsame : ∀ p : Pulse,
            (if (pulse node.data.world.supervisor).due update.steady then p.beat update.steady
              else p).enabled = p.enabled ∧
            (if (pulse node.data.world.supervisor).due update.steady then p.beat update.steady
              else p).period = p.period := by
          intro p
          split <;> exact ⟨rfl, rfl⟩
        change (pulse _).enabled = true at henabled
        change (pulse _).period = _ at hperiod
        change _ ∧ (pulse _).last = _
        rw [hpulse, (hsame _).1] at henabled
        rw [hpulse, (hsame _).2] at hperiod
        obtain ⟨htimes, hlast⟩ := h.paced hactive period henabled hperiod
        have hdue := Pulse.due_iff henabled hperiod update.steady
        change (pulse node.data.world.supervisor).last = _ at hlast
        have hcycles : cycleTimes ((node, .rtCycle update) :: past) =
            cycleTimes past ++ [update.steady] := by
          rw [cycleTimes, timesSince, if_neg hkeeps, pickedTime, hactive]
          rfl
        have hbeats : beatTimes ((node, .rtCycle update) :: past) = beatTimes past ++
            if (pulse node.data.world.supervisor).due update.steady then [update.steady]
            else [] := by
          rw [beatTimes, timesSince, if_neg hkeeps, pickedTime, beats_eq hactive]
        rw [hcycles, hbeats, htimes, counted_append_singleton, lastCounted_append_singleton,
          hpulse, ← hlast]
        by_cases hnext : Due (gap period) (pulse node.data.world.supervisor).last update.steady
        · rw [if_pos hnext, if_pos hnext, if_pos (hdue.mpr hnext), if_pos (hdue.mpr hnext)]
          exact ⟨rfl, rfl⟩
        · have hnot := fun h => hnext (hdue.mp h)
          rw [if_neg hnext, if_neg hnext, if_neg hnot, if_neg hnot]
          exact ⟨rfl, rfl⟩

theorem transition_beating (h : Beating past node) (transition : Transition)
    (choices : Choices) :
    Beating ((node, .transition transition choices) :: past)
      (step node (.transition transition choices)) := by
  have hkeeps := keeps_pulse choices
  -- What is left when the cycles do not run.
  have hidle : ∀ data : SystemData RtSystem, (step node (.transition transition choices)).data =
      data → (data.active = false ∧ (pulse data.world.supervisor).Numbered ∧
        (pulse data.world.supervisor).Sound) →
      Beating ((node, .transition transition choices) :: past)
        (step node (.transition transition choices)) := by
    rintro data hdata ⟨hactive, hnumbered, hsound⟩
    rw [← hdata] at hactive hnumbered hsound
    exact ⟨halting_step h.halting _, hnumbered, hsound,
      fun hrunning => by rw [hactive] at hrunning; cases hrunning⟩
  cases hactive : node.data.active with
  | true =>
      have hstate : node.state = .active ∨ node.state = .finalized := by
        cases h.halting with
        | running hstate hrunning => exact hstate
        | halted hhalted => exact absurd hactive (by rw [hhalted.1]; decide)
      rcases hkeeps.transition_running hstate ⟨rfl, h.numbered, h.sound⟩ transition with
        hsame | hstopped
      · refine h.quiet (fun _ => by rintro ⟨⟩) ?_ ?_
        · rw [hsame]
        · rw [hsame]
      · exact hidle _ rfl hstopped
  | false =>
      rcases hkeeps.transition (fun _ hdata => ⟨rfl, hdata.2⟩) ⟨hactive, h.numbered, h.sound⟩
          transition with hstopped | ⟨-, data, ⟨-, hnumbered, hsound⟩, hstep⟩
      · exact hidle _ rfl hstopped
      · have hactivates : Activates node (.transition transition choices) := by
          refine ⟨hactive, ?_⟩
          rw [hstep]
        have hempty : ∀ pick, timesSince pick ((node, .transition transition choices) :: past) =
            [] := fun pick => by rw [timesSince, if_pos hactivates]
        refine ⟨halting_step h.halting _, ?_, ?_, ?_⟩
        · rw [hstep]
          exact hnumbered
        · rw [hstep]
          exact hsound
        · intro _ period _ _
          rw [beatTimes, cycleTimes, hempty, hempty, hstep]
          exact ⟨rfl, rfl⟩

theorem step_beating (h : Beating past node) (e : Event) :
    Beating ((node, e) :: past) (step node e) := by
  cases e with
  | rtCycle update => exact rtCycle_beating h update
  | transition transition choices => exact transition_beating h transition choices
  | cycle components recovery =>
      refine h.quiet (fun _ => by rintro ⟨⟩) ?_ ?_
      · rw [step]
        split <;> rfl
      · rw [step]
        split <;> rfl
  | status msg steady =>
      exact h.quiet (fun _ => by rintro ⟨⟩) (receiveStatus_pulse _ msg steady) rfl
  | requestShutdown reason => exact h.quiet (fun _ => by rintro ⟨⟩) rfl rfl
  | cleanupSubnodes choices =>
      by_cases hstate : node.state = .unconfigured
      · have hactive : node.data.active = false := by
          cases h.halting with
          | running hother _ =>
              dsimp only at hstate
              subst hstate
              rcases hother with hother | hother <;> cases hother
          | halted hhalted => exact hhalted.1
        have hcleaned := (keeps_pulse choices).cleanupSubnodes ⟨hactive, h.numbered, h.sound⟩
        rw [step, if_pos hstate]
        refine ⟨?_, hcleaned.2.1, hcleaned.2.2, ?_⟩
        · have hhalting := halting_step h.halting (.cleanupSubnodes choices)
          rw [step, if_pos hstate] at hhalting
          exact hhalting
        · intro hrunning
          rw [hcleaned.1] at hrunning
          cases hrunning
      · refine h.quiet (fun _ => by rintro ⟨⟩) ?_ ?_
        · rw [step, if_neg hstate]
        · rw [step, if_neg hstate]

theorem run_beating (hrun : Run step Start node past) : Beating past node := by
  refine hrun.history_invariant (motive := fun node past => Beating past node)
    (fun _ _ => True) ?_ (fun _ e _ h _ => step_beating h e) (fun _ _ => trivial)
  rintro node rfl
  refine ⟨halting_constructed, rfl, ?_, ?_⟩
  · intro henabled
    cases henabled
  · intro hactive
    cases hactive

/-- The times of two heartbeats, one after the other, are a period apart and less than a
cycle longer. -/
def Paced (period : ℚ) (cycle s t : Time) : Prop :=
  period ≤ (t - s : Int) / 1000000000 ∧
    ((t - s : Int) : ℚ) / 1000000000 < period + (cycle : ℚ) / 1000000000

theorem paced_of_gap {period : ℚ} {cycle s t : Time}
    (h : gap period < t - s ∧ t - s ≤ gap period + cycle) : Paced period cycle s t := by
  obtain ⟨hlow, hhigh⟩ := h
  refine ⟨(gap_lt_iff period _).mp hlow, ?_⟩
  have hover : ¬ gap period < t - s - cycle := not_lt.mpr (sub_le_iff_le_add.mpr hhigh)
  rw [gap_lt_iff, not_le] at hover
  push_cast at hover ⊢
  linarith

/-- While the system is active the first cycle publishes a heartbeat, each heartbeat comes
a period after the one before and less than one cycle later, and the newest cycle less
than a period after the newest heartbeat. No number is left out or used again, whatever
the system went through before. -/
theorem heartbeats_punctual (hrun : Run step Start node past) (hactive : node.data.active = true)
    (hpub : node.data.world.supervisor.heartbeatPub = true) {cycle : Time}
    (hcycles : (cycleTimes past).IsChain fun s t => t - s ≤ cycle) :
    let supervisor := node.data.world.supervisor
    supervisor.heartbeats.map Heartbeat.sequence =
        (List.range' 1 supervisor.heartbeats.length).reverse ∧
      ∃ period : ℚ, 0 < period ∧ supervisor.heartbeatPeriod = .fin period ∧
        (beatTimes past).head? = (cycleTimes past).head? ∧
        (beatTimes past).IsChain (Paced period cycle) ∧
        ∀ t ∈ (cycleTimes past).getLast?, ∃ s ∈ (beatTimes past).getLast?,
          ((t - s : Int) : ℚ) / 1000000000 < period := by
  have hbeating := run_beating hrun
  obtain ⟨period, hpos, hperiod⟩ := hbeating.sound hpub
  have hgap := gap_nonneg hpos
  obtain ⟨hbeats, -⟩ := hbeating.paced hactive period hpub hperiod
  refine ⟨?_, period, hpos, hperiod, ?_, ?_, ?_⟩
  · have hnumbered := hbeating.numbered
    rw [Pulse.Numbered] at hnumbered
    have hlength := congrArg List.length hnumbered
    rw [List.length_reverse, List.length_range'] at hlength
    rw [← hlength] at hnumbered
    dsimp only [pulse] at hnumbered
    rw [List.length_map] at hnumbered
    exact hnumbered
  · rw [hbeats]
    cases cycleTimes past with
    | nil => rfl
    | cons t times => rw [counted_none_cons, List.head?_cons, List.head?_cons]
  · rw [hbeats]
    exact (counted_none_isChain hgap hcycles).imp fun _ _ => paced_of_gap
  · intro t ht
    obtain ⟨s, hs, hrecent⟩ := counted_recent hgap ht
    rw [hbeats]
    refine ⟨s, hs, ?_⟩
    rw [← not_le, ← gap_lt_iff]
    exact not_lt.mpr hrecent

def exampleChoices : Choices where
  readings := { start := 500000000, loop := [], last := 500000000 }
  safety := { heartbeatPeriod := .fin (1 / 2) }

def exampleCycle (steady : Time) : RtUpdate where
  steady := steady
  now := steady
  publishTime := steady

def exampleRun : List Event :=
  [.transition .configure exampleChoices, .transition .activate exampleChoices,
    .rtCycle (exampleCycle 0), .rtCycle (exampleCycle 200000000),
    .rtCycle (exampleCycle 400000000), .rtCycle (exampleCycle 600000000),
    .rtCycle (exampleCycle 800000000)]

theorem heartbeats_punctual_example :
    let past := history step constructed exampleRun []
    beatTimes past = [0, 600000000] ∧
      (beatTimes past).IsChain (Paced (1 / 2) 200000000) := by
  have hrun : Run step Start constructed [] := .init rfl
  have hcycles : cycleTimes (history step constructed exampleRun []) =
      [0, 200000000, 400000000, 600000000, 800000000] := by decide +kernel
  have hperiod : (exampleRun.foldl step constructed).data.world.supervisor.heartbeatPeriod =
      .fin (1 / 2) := by decide +kernel
  obtain ⟨-, period, -, heq, -, hchain, -⟩ := heartbeats_punctual
    (hrun.foldl exampleRun) (by decide +kernel) (by decide +kernel)
    (show (cycleTimes _).IsChain fun s t => t - s ≤ 200000000 by rw [hcycles]; decide)
  obtain rfl : period = 1 / 2 := by
    rw [hperiod] at heq
    exact (Extended.fin.inj heq).symm
  exact ⟨by decide +kernel, hchain⟩

end Runs

end EasyNav.Heartbeats
