import EasyNav.RateRounding

namespace EasyNav.ScheduledRate

open EasyNav.ExtendedArithmetic
open EasyNav.ExtendedArithmetic.Extended
open EasyNav.DoubleArithmetic
open EasyNav.MachineNumbers
open EasyNav.NavigationState
open EasyNav.RateMonitoring
open EasyNav.RateMonitoring.RateMonitor
open EasyNav.RateRounding
open EasyNav.ExecutionSchedule

/-- A scheduling check without a trigger, at one reading of the clock. -/
def schedulingCycle (nodeName : String) (state : Cycle × NavState) (now : Time) :
    Cycle × NavState :=
  (state.1.internalUpdate nodeName false ⟨now, now, now⟩ state.2).2

/-- The readings do not go back and are at most a period apart. -/
def NeverLate (period : Time) (readings : List Time) : Prop :=
  readings.IsChain fun previous now => previous ≤ now ∧ now ≤ previous + period

/-- How far before the end of a period a check has to be for the error of the clock. -/
def slack (period : Time) : Time := 3000 + period / 10 ^ 12

/-- A check of a component that runs ten times a second, of a clock that shows less than
2^49 ns, or in good time. -/
def Precise (f : ℚ) (period previous now : Time) : Prop :=
  10001 / 1000 ≤ f ∨ now < 2 ^ 49 ∨ now + slack period ≤ previous + period

section Window

variable {f : ℚ} {T opened previous now : Time} {runs : Nat} {monitor : RateMonitor}

theorem seconds_le {k : Nat} (hopened : 0 ≤ opened) (hnow : opened ≤ now) (h : now < 2 ^ k) :
    secondsAt now - secondsAt opened ≤
      ((now : ℚ) - opened) / 1000000000 + 2 ^ k * (32 / 10 ^ 26) := by
  have hupper := (abs_le.mp (secondsAt_error (hopened.trans hnow) h)).2
  have hlower := (abs_le.mp (secondsAt_error hopened (hnow.trans_lt h))).1
  linarith

theorem le_slack (T : Time) : (3000 : ℚ) + T / 10 ^ 12 ≤ (slack T + 1 : Int) := by
  have hfloor := Int.lt_floor_add_one ((T : ℚ) / 10 ^ 12)
  have hdiv : ⌊(T : ℚ) / 10 ^ 12⌋ = T / 10 ^ 12 := by
    exact_mod_cast Rat.floor_intCast_div_natCast T (10 ^ 12)
  rw [hdiv] at hfloor
  rw [slack]
  push_cast at hfloor ⊢
  linarith

theorem runs_suffice_of_precise (hT : IsPeriod f T) (hopened : 0 ≤ opened) (hnow : opened ≤ now)
    (hclock : now < 2 ^ 63) (hprevious : previous + T < opened + (runs + 2) * T)
    (hlate : now ≤ previous + T) (hprecise : Precise f T previous now)
    (hone : 1 - 1 / 2 ^ 52 ≤ secondsAt now - secondsAt opened)
    (hten : 10 * (1 - 2 / 2 ^ 53) ≤ f * (secondsAt now - secondsAt opened)) :
    9 / 10 * (f * (secondsAt now - secondsAt opened)) * (1 + 6 / 2 ^ 53) ≤ runs + 1 := by
  have hcut (cut : Int) (h : now + cut ≤ previous + T + 1) :
      ((now : ℚ) - opened) + cut ≤ (runs + 2) * T := by
    have hnext := Int.add_one_le_of_lt hprevious
    have hint : now - opened + cut ≤ (runs + 2) * T := by linarith
    exact_mod_cast hint
  have herror := seconds_le hopened hnow hclock
  rcases hprecise with hfrequent | hsmall | hgood
  · have hruns := periods_le hT (hcut 0 (by linarith)) herror
    have hsecond := mul_le_mul_of_nonneg_left hone hT.pos.le
    apply runs_suffice_of_more
    · norm_num at hsecond ⊢
      linarith
    · norm_num at hruns hsecond ⊢
      linarith
  · have herror := seconds_le hopened hnow hsmall
    have hruns := periods_le hT (hcut 1 (by linarith)) herror
    -- ten periods do not take longer than the clock has shown
    have hbound : f * (secondsAt now - secondsAt opened) ≤ f * 562951 := by
      have hcast : (now : ℚ) < 2 ^ 49 := by exact_mod_cast hsmall
      have hnonneg : (0 : ℚ) ≤ opened := Int.cast_nonneg hopened
      refine mul_le_mul_of_nonneg_left ?_ hT.pos.le
      norm_num at herror hcast ⊢
      linarith
    refine runs_suffice_of_room hten ?_ hruns
    norm_num at hten hbound ⊢
    linarith
  · have hruns := periods_le hT (hcut (slack T + 1) (by linarith)) herror
    refine runs_suffice_of_room hten ?_ hruns
    have hroom := mul_le_mul_of_nonneg_left (le_slack T) hT.pos.le
    have hpos := hT.pos
    have hle := hT.le
    norm_num at hroom hle ⊢
    linarith

theorem not_isSlow_of_precise (hT : IsPeriod f T) (hfrequency : monitor.frequency = .fin f)
    (hopened : 0 ≤ opened) (hnow : opened ≤ now) (hclock : now < 2 ^ 63)
    (hprevious : previous + T < opened + (monitor.runs + 2) * T) (hlate : now ≤ previous + T)
    (hprecise : Precise f T previous now)
    (hclosed : ¬ rounded (.fin (secondsAt now) - .fin (secondsAt opened)) < windowOf (.fin f)) :
    monitor.isSlow (rounded (.fin (secondsAt now) - .fin (secondsAt opened))) = false := by
  rw [sub_fin] at hclosed ⊢
  have helapsed := sub_nonneg.mpr (secondsAt_mono hopened hnow)
  have hfinite : secondsAt now - secondsAt opened ≤ 2 ^ 40 := by
    have herror := seconds_le hopened hnow hclock
    have hcast : (now : ℚ) < 2 ^ 63 := by exact_mod_cast hclock
    have hnonneg : (0 : ℚ) ≤ opened := Int.cast_nonneg hopened
    norm_num at herror hcast ⊢
    linarith
  obtain ⟨hrounded, hone, hten, hnear⟩ :=
    closed_bounds hT.pos hT.frequency_le helapsed hfinite hclosed
  have hperiods := mul_le_mul_of_nonneg_left hnear hT.pos.le
  have hruns := runs_suffice_of_precise hT hopened hnow hclock hprevious hlate hprecise
    (by norm_num at hone hnear ⊢; linarith) (by norm_num at hten hperiods ⊢; linarith)
  rw [hrounded]
  refine not_isSlow hfrequency hT.frequency_le hone ?_ hten ?_
  · norm_num at hnear hfinite ⊢
    linarith
  · norm_num at hperiods hruns ⊢
    linarith

end Window

section Monitor

variable {f : ℚ} {T start previous now : Time} {k : Nat} {monitor : RateMonitor}

/-- The monitor after a reading with `k` runs since the start: the open window started at
`opened`, with `before` of them. -/
structure CountsSince (f : ℚ) (T start previous : Time) (k before : Nat) (opened : Time)
    (monitor : RateMonitor) : Prop where
  measures : monitor.Measures (.fin f) (.fin (secondsAt opened)) (.fin (secondsAt previous))
  opened_nonneg : 0 ≤ opened
  opened_le : opened ≤ previous
  before_le : start + (before : Int) * T ≤ opened
  runs : monitor.runs + before = k
  slowWindows : monitor.slowWindows = 0
  status : monitor.status = .ok

def Counts (f : ℚ) (T start previous : Time) (k : Nat) (monitor : RateMonitor) : Prop :=
  ∃ before opened, CountsSince f T start previous k before opened monitor

theorem update_counts_of_configure (old : RateMonitor) (hnow : 0 ≤ now) (hclock : now < 2 ^ 63)
    (hpast : start ≤ now) :
    Counts f T start now 0 ((old.configure (.fin f)).update (machineSeconds now)) := by
  have hstart : (old.configure (.fin f)).update (machineSeconds now) =
      (old.configure (.fin f)).startWindow (machineSeconds now) :=
    update_of_not_started rfl _
  rw [hstart, machineSeconds_eq hnow hclock]
  exact ⟨0, now, startWindow_measures rfl rfl _, hnow, le_rfl, by simpa using hpast, rfl, rfl, rfl⟩

theorem update_counts (hT : IsPeriod f T) (h : Counts f T start previous k monitor)
    (hdue : start + k * T ≤ previous) (hnotYet : previous < start + (k + 1) * T)
    (hpast : previous ≤ now) (hlate : now ≤ previous + T) (hprecise : Precise f T previous now)
    (hclock : now < 2 ^ 63) :
    Counts f T start now k (monitor.update (machineSeconds now)) := by
  obtain ⟨before, opened, h⟩ := h
  have hnow := h.opened_le.trans hpast
  have hlast : ¬ (.fin (secondsAt now) : Double) < .fin (secondsAt previous) := by
    rw [fin_lt_fin, not_lt]
    exact secondsAt_mono (h.opened_nonneg.trans h.opened_le) hpast
  rw [machineSeconds_eq (h.opened_nonneg.trans hnow) hclock]
  by_cases hopen : rounded (.fin (secondsAt now) - .fin (secondsAt opened)) < windowOf (.fin f)
  · rw [update_of_open h.measures hlast hopen]
    refine ⟨before, opened,
      ⟨?_, h.opened_nonneg, hnow, h.before_le, h.runs, h.slowWindows, h.status⟩⟩
    exact ⟨h.measures.frequency, h.measures.window, h.measures.started, h.measures.windowStart, rfl⟩
  · have hkept :
        monitor.isSlow (rounded (.fin (secondsAt now) - .fin (secondsAt opened))) = false := by
      have hprevious : previous + T < opened + (monitor.runs + 2) * T := by
        have hbefore := h.before_le
        have hruns : (k : Int) = monitor.runs + before := by exact_mod_cast h.runs.symm
        rw [hruns] at hnotYet
        linarith
      exact not_isSlow_of_precise hT h.measures.frequency h.opened_nonneg hnow hclock hprevious
        hlate hprecise hopen
    rw [update_of_kept h.measures hlast hopen hkept]
    refine ⟨k, now,
      ⟨?_, h.opened_nonneg.trans hnow, le_rfl, hdue.trans hpast, Nat.zero_add k, rfl, rfl⟩⟩
    exact ⟨h.measures.frequency, h.measures.window, h.measures.started, rfl, rfl⟩

theorem run_counts (hclock : now < 2 ^ 63) (h : Counts f T start now k monitor) :
    Counts f T start now (k + 1) (monitor.run (machineSeconds now)) := by
  obtain ⟨before, opened, h⟩ := h
  have hnotBack : ¬ (.fin (secondsAt now) : Double) < .fin (secondsAt opened) := by
    rw [fin_lt_fin, not_lt]
    exact secondsAt_mono h.opened_nonneg h.opened_le
  rw [machineSeconds_eq (h.opened_nonneg.trans h.opened_le) hclock,
    run_of_measures h.measures hnotBack]
  have hruns := h.runs
  refine ⟨before, opened,
    ⟨?_, h.opened_nonneg, h.opened_le, h.before_le, ?_, h.slowWindows, h.status⟩⟩
  · exact ⟨h.measures.frequency, h.measures.window, h.measures.started, h.measures.windowStart,
      h.measures.lastUpdate⟩
  · change monitor.runs + 1 + before = k + 1
    omega

end Monitor

section Runs

variable {f : ℚ} {T start previous now : Time} {k : Nat} {cycle : Cycle}

theorem report_fst (cycle : Cycle) (nodeName : String) (nav : NavState) (now : Time) :
    (cycle.report nodeName nav now).1 =
      { cycle with
        monitor := cycle.monitor.update (machineSeconds now)
        reported := some (cycle.monitor.update (machineSeconds now)).status } := by
  rw [Cycle.report]
  dsimp only
  split
  · rename_i hreported
    rw [← hreported]
  · rfl

def OnTime (f : ℚ) (T start previous : Time) (cycle : Cycle) : Prop :=
  ∃ k, Scheduled T start previous k cycle ∧ Counts f T start previous k cycle.monitor

theorem schedulingCycle_onTime (nodeName : String) (nav : NavState)
    (h : Scheduled T start previous k cycle)
    (hcounts : Counts f T start now k (cycle.monitor.update (machineSeconds now)))
    (hpast : previous ≤ now) (hlate : now ≤ previous + T) (hclock : now < 2 ^ 63) :
    OnTime f T start now (schedulingCycle nodeName (cycle, nav) now).1 := by
  have hreport := report_fst cycle nodeName nav now
  have hreported : Scheduled T start previous k (cycle.report nodeName nav now).1 := by
    rw [hreport]
    exact ⟨h.period, h.lastTs, h.nextTs, h.due, h.notYet, h.scheduled⟩
  have hmonitor : (cycle.report nodeName nav now).1.monitor =
      cycle.monitor.update (machineSeconds now) := by
    rw [hreport]
  rw [schedulingCycle, Cycle.internalUpdate]
  dsimp only
  rcases isTimeToRun_scheduled hreported hpast hlate with ⟨hwait, hnext⟩ | ⟨hdue, hnext⟩
  · rw [hwait]
    exact ⟨k, hnext, hmonitor ▸ hcounts⟩
  · rw [hdue]
    refine ⟨k + 1, hnext, ?_⟩
    have hrun := run_counts hclock hcounts
    rw [← hmonitor] at hrun
    exact hrun

theorem foldl_onTime (nodeName : String) (hT : IsPeriod f T) (readings : List Time)
    {state : Cycle × NavState} (h : OnTime f T start previous state.1)
    (hclock : ∀ t ∈ readings, t < 2 ^ 63) (hlate : NeverLate T (previous :: readings))
    (hprecise : (previous :: readings).IsChain (Precise f T)) :
    (readings.foldl (schedulingCycle nodeName) state).1.monitor.status = .ok := by
  induction readings generalizing previous state with
  | nil =>
      obtain ⟨_, _, _, _, hcounts⟩ := h
      exact hcounts.status
  | cons now readings ih =>
      obtain ⟨⟨hpast, hnext⟩, hrest⟩ := List.isChain_cons_cons.mp hlate
      obtain ⟨hcheck, hchecks⟩ := List.isChain_cons_cons.mp hprecise
      obtain ⟨hnow, hlater⟩ := List.forall_mem_cons.mp hclock
      obtain ⟨k, hscheduled, hcounts⟩ := h
      have hupdated := update_counts hT hcounts hscheduled.due hscheduled.notYet hpast hnext
        hcheck hnow
      exact ih (schedulingCycle_onTime nodeName state.2 hscheduled hupdated hpast hnext hnow)
        hlater hrest hchecks

/-- A component whose checks come in time is never reported slow, where they leave room for what
the clock's seconds are rounded by. -/
theorem never_slow_on_schedule (nodeName : String) (nav : NavState) {f : ℚ} {old cycle : Cycle}
    {pluginName name : String} {start : Time}
    (hinit : old.initializeCycle pluginName name (.fin f) start = .ok cycle)
    (hperiod : 0 < cycle.period) {readings : List Time}
    (hclock : ∀ t ∈ start :: readings, 0 ≤ t ∧ t < 2 ^ 63)
    (hreadings : NeverLate cycle.period (start :: readings))
    (hprecise : (start :: readings).IsChain (Precise f cycle.period)) :
    ∀ upTo, upTo <+: readings →
      (upTo.foldl (schedulingCycle nodeName) (cycle, nav)).1.monitor.status = .ok := by
  obtain ⟨hf, hfrequency, hlast, hnext, hscheduled, hmonitor⟩ := initializeCycle_ok hinit
  rintro upTo ⟨rest, rfl⟩
  have happend : start :: (upTo ++ rest) = (start :: upTo) ++ rest := rfl
  rw [happend] at hclock hreadings hprecise
  have hupTo : NeverLate cycle.period (start :: upTo) := hreadings.left_of_append
  have hchecks := hprecise.left_of_append
  cases upTo with
  | nil =>
      change cycle.monitor.status = _
      rw [hmonitor]
      rfl
  | cons now upTo =>
      obtain ⟨⟨hpast, hlate⟩, hrest⟩ := List.isChain_cons_cons.mp hupTo
      have hclock : ∀ t ∈ now :: upTo, 0 ≤ t ∧ t < 2 ^ 63 := by
        intro t ht
        exact hclock t (List.mem_append_left rest (List.mem_cons_of_mem start ht))
      obtain ⟨⟨hnow, hsmall⟩, hlater⟩ := List.forall_mem_cons.mp hclock
      have hT : IsPeriod f cycle.period := by
        rw [Cycle.period, hfrequency] at hperiod ⊢
        exact periodOf_isPeriod hf hperiod
      have hstart : Scheduled cycle.period start start 0 cycle :=
        ⟨rfl, hlast.le, by rw [hnext]; simp, by simp, by simpa using hperiod, hscheduled⟩
      have hopened := update_counts_of_configure (f := f) (T := cycle.period) old.monitor hnow
        hsmall hpast
      rw [← hmonitor] at hopened
      exact foldl_onTime nodeName hT upTo
        (schedulingCycle_onTime nodeName nav hstart hopened hpast hlate hsmall)
        (fun t ht => (hlater t ht).2) hrest (List.isChain_cons_cons.mp hchecks).2

def exampleReadings : List Time :=
  [0, 200000000, 350000000, 550000000, 750000000, 950000000, 1100000000, 1250000000,
    1450000000, 1650000000, 1850000000, 2050000000, 2250000000]

def exampleCycle : Cycle where
  lastTs := 0
  nextTs := 200000000
  frequency := .fin 5
  name := "plugin.rt_rate"
  parameter := "rt_freq"
  monitor := { frequency := .fin 5, window := .fin 2 }

theorem never_slow_on_schedule_five :
    (exampleReadings.foldl (schedulingCycle "controller_node")
      (exampleCycle, ({} : NavState))).1.monitor.status = .ok := by
  have hinit : ({ parameter := "rt_freq" } : Cycle).initializeCycle "plugin" ".rt_rate" (.fin 5) 0 =
      .ok exampleCycle := by
    decide +kernel
  have hreadings : NeverLate exampleCycle.period (0 :: exampleReadings) := by
    rw [NeverLate]
    decide +kernel
  have hprecise : (0 :: exampleReadings).IsChain (Precise 5 exampleCycle.period) := by
    unfold Precise
    decide +kernel
  exact never_slow_on_schedule "controller_node" {} hinit (by decide +kernel) (by decide +kernel)
    hreadings hprecise exampleReadings List.prefix_rfl

def epochStart : Time := 1700000000000000047

def epochReadings : List Time :=
  ((List.range 9).map fun j => epochStart + j * 333333333) ++
    [epochStart + 9 * 333333333 - 1, epochStart + 10 * 333333333 - 1]

/-- The ten periods seem longer than they are. -/
theorem slow_on_schedule :
    ∃ cycle, ({ parameter := "rt_freq" } : Cycle).initializeCycle "plugin" ".rt_rate" (.fin 3)
        epochStart = .ok cycle ∧
      cycle.period = 333333333 ∧ NeverLate cycle.period (epochStart :: epochReadings) ∧
      (epochReadings.foldl (schedulingCycle "controller_node")
        (cycle, ({} : NavState))).1.monitor.status = .warn := by
  refine ⟨_, rfl, by decide +kernel, ?_, by decide +kernel⟩
  rw [NeverLate]
  decide +kernel

end Runs

end EasyNav.ScheduledRate
