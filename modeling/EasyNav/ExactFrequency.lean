import EasyNav.ScheduledRate

namespace EasyNav.ExactFrequency

open EasyNav.ExtendedArithmetic
open EasyNav.ExtendedArithmetic.Extended
open EasyNav.DoubleArithmetic
open EasyNav.ExecutionSchedule

/-- The clock readings of one scheduling cycle: for the check and, if it is due, for the
run. -/
structure CycleReadings where
  check : Time
  run : Time

/-- A scheduling cycle without a trigger, which counts the runs. -/
def schedulingCycle (state : Cycle × Nat) (readings : CycleReadings) : Cycle × Nat :=
  let (due, cycle) := state.1.isTimeToRun readings.check
  if due then (cycle.setRun readings.run, state.2 + 1) else (cycle, state.2)

/-- The checks are at most a period apart, and each run is between its check and the next. -/
def Punctual (T : Time) (start : Time) (cycles : List CycleReadings) : Prop :=
  (∀ readings ∈ cycles, readings.check ≤ readings.run) ∧
    List.IsChain (fun previous next => previous.run ≤ next.check ∧ next.check ≤ previous.check + T)
      (⟨start, start⟩ :: cycles)

variable {T start : Time} {k : Nat} {cycle : Cycle} {previous next : CycleReadings}

/-- The schedule after a cycle: `k` runs so far, one for every period since the start. -/
structure Keeps (T start : Time) (previous : CycleReadings) (k : Nat) (cycle : Cycle) : Prop where
  period : cycle.period = T
  lastTs : cycle.lastTs ≤ previous.run
  nextTs : cycle.nextTs = start + (k + 1) * T
  due : start + k * T ≤ previous.check
  notYet : previous.check < start + (k + 1) * T
  scheduled : cycle.scheduled = false

theorem Keeps.runs_eq (h : Keeps T start previous k cycle) (hT : 0 < T) :
    (k : Int) = ⌊((previous.check - start : Int) : ℚ) / T⌋ := by
  have hpos : (0 : ℚ) < T := by exact_mod_cast hT
  have hdue := h.due
  have hnotYet := h.notYet
  symm
  rw [Int.floor_eq_iff]
  constructor
  · rw [le_div_iff₀ hpos]
    norm_cast
    linarith
  · rw [div_lt_iff₀ hpos]
    norm_cast
    push_cast
    linarith

/-- A cycle that is not late runs once if a period has passed since the last run was due. -/
theorem schedulingCycle_keeps (h : Keeps T start previous k cycle) (hrun : next.check ≤ next.run)
    (hpast : previous.check ≤ previous.run) (hnext : previous.run ≤ next.check)
    (hlate : next.check ≤ previous.check + T) :
    Keeps T start next (schedulingCycle (cycle, k) next).2 (schedulingCycle (cycle, k) next).1 := by
  have hnextTs := h.nextTs
  have hdue := h.due
  have hnotYet := h.notYet
  have hperiod : next.check < cycle.nextTs + cycle.period := by
    rw [h.period]
    linarith
  rw [schedulingCycle, isTimeToRun_of_not_late (h.lastTs.trans hnext) hperiod]
  by_cases hwaits : next.check < cycle.nextTs
  · rw [if_pos hwaits]
    change Keeps T start next k cycle
    refine ⟨h.period, h.lastTs.trans (hnext.trans hrun), hnextTs, ?_, ?_, h.scheduled⟩
    · linarith
    · exact hnextTs ▸ hwaits
  · rw [if_neg hwaits]
    change Keeps T start next (k + 1) (Cycle.setRun { cycle with
      nextTs := cycle.nextTs + cycle.period, scheduled := true } next.run)
    refine ⟨h.period, le_rfl, ?_, ?_, ?_, rfl⟩
    · rw [Cycle.setRun, if_pos rfl]
      dsimp only
      rw [h.period, hnextTs]
      push_cast
      ring
    · push_cast
      linarith
    · push_cast
      linarith

theorem foldl_keeps (cycles : List CycleReadings) (h : Keeps T start previous k cycle)
    (hpast : previous.check ≤ previous.run)
    (hruns : ∀ readings ∈ cycles, readings.check ≤ readings.run)
    (hchain : List.IsChain
      (fun previous next => previous.run ≤ next.check ∧ next.check ≤ previous.check + T)
      (previous :: cycles)) :
    Keeps T start ((previous :: cycles).getLast (List.cons_ne_nil _ _))
      (cycles.foldl schedulingCycle (cycle, k)).2 (cycles.foldl schedulingCycle (cycle, k)).1 := by
  induction cycles generalizing previous cycle k with
  | nil => exact h
  | cons next cycles ih =>
      obtain ⟨⟨hnext, hlate⟩, hrest⟩ := List.isChain_cons_cons.mp hchain
      obtain ⟨hrun, hruns⟩ := List.forall_mem_cons.mp hruns
      exact ih (schedulingCycle_keeps h hrun hpast hnext hlate) hrun hruns hrest

/-- After every cycle, there have been as many runs as periods. -/
theorem runs_at_exact_frequency {frequency : Double} {old : Cycle} {pluginName name : String}
    (hinit : old.initializeCycle pluginName name frequency start = .ok cycle)
    (hT : 0 < cycle.period) {cycles : List CycleReadings}
    (hpunctual : Punctual cycle.period start cycles) :
    ∀ earlier last, earlier ++ [last] <+: cycles →
      (((earlier ++ [last]).foldl schedulingCycle (cycle, 0)).2 : Int) =
        ⌊((last.check - start : Int) : ℚ) / cycle.period⌋ := by
  rintro earlier last ⟨rest, rfl⟩
  obtain ⟨hruns, hchain⟩ := hpunctual
  have hupTo : ∀ readings ∈ earlier ++ [last], readings.check ≤ readings.run :=
    fun readings hmem => hruns readings (List.mem_append_left _ hmem)
  rw [← List.cons_append] at hchain
  have hstart : Keeps cycle.period start ⟨start, start⟩ 0 cycle := by
    obtain ⟨f, rfl⟩ : ∃ f, frequency = .fin f := by
      rw [← isFinite_iff]
      by_contra hinfinite
      rw [Cycle.initializeCycle, if_pos (Or.inl (by simpa using hinfinite))] at hinit
      contradiction
    obtain ⟨-, -, hlast, hnext, hscheduled, -⟩ := initializeCycle_ok hinit
    exact ⟨rfl, hlast.le, by rw [hnext]; simp, by simp, by simpa using hT, hscheduled⟩
  have h := foldl_keeps _ hstart le_rfl hupTo hchain.left_of_append
  have hlast : (⟨start, start⟩ :: (earlier ++ [last])).getLast (List.cons_ne_nil _ _) = last := by
    simp
  rw [hlast] at h
  exact h.runs_eq hT

def jitteredCycles : List CycleReadings :=
  [⟨150000000, 150000000⟩, ⟨320000000, 330000000⟩, ⟨390000000, 390000000⟩, ⟨480000000, 490000000⟩,
    ⟨680000000, 700000000⟩]

theorem runs_at_exact_frequency_jittered :
    ((jitteredCycles.foldl schedulingCycle (ScheduledRate.exampleCycle, 0)).2 : Int) =
      ⌊((680000000 - 0 : Int) : ℚ) / ScheduledRate.exampleCycle.period⌋ := by
  have hinit : ({ parameter := "rt_freq" } : Cycle).initializeCycle "plugin" ".rt_rate" (.fin 5) 0 =
      .ok ScheduledRate.exampleCycle := by
    decide +kernel
  have hpunctual : Punctual ScheduledRate.exampleCycle.period 0 jitteredCycles := by
    rw [Punctual]
    decide +kernel
  exact runs_at_exact_frequency hinit (by decide +kernel) hpunctual (jitteredCycles.take 4)
    ⟨680000000, 700000000⟩ List.prefix_rfl

example : (jitteredCycles.foldl schedulingCycle (ScheduledRate.exampleCycle, 0)).2 = 3 := by
  decide +kernel

end EasyNav.ExactFrequency
