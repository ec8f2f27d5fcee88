import EasyNav.Runs
import EasyNav.ScheduledRate

namespace EasyNav.ScheduleRestarts

open EasyNav.DoubleArithmetic
open EasyNav.ExecutionSchedule
open EasyNav.Runs

/-- What a cycle does: run if it is time to, or run in any case, after the check or
without it. -/
inductive Kind where
  | scheduled
  | triggered (checked : Bool)
  deriving DecidableEq

structure CycleEvent where
  kind : Kind
  now : Time

def runsIn (cycle : Cycle) (e : CycleEvent) : Bool :=
  match e.kind with
  | .scheduled => (cycle.isTimeToRun e.now).1
  | .triggered _ => true

def step (cycle : Cycle) (e : CycleEvent) : Cycle :=
  match e.kind with
  | .scheduled =>
      let (due, cycle) := cycle.isTimeToRun e.now
      if due then cycle.setRun e.now else cycle
  | .triggered checked =>
      if checked then (cycle.isTimeToRun e.now).2.setRun e.now else cycle.setRun e.now

def IsInitial (T : Time) (cycle : Cycle) : Prop :=
  (∃ old pluginName name frequency start,
    Cycle.initializeCycle old pluginName name frequency start = .ok cycle) ∧ cycle.period = T

abbrev History := List (Cycle × CycleEvent)

def lastRun : History → Option Time
  | [] => none
  | (cycle, e) :: past => if runsIn cycle e then some e.now else lastRun past

/-- The next run is due within the period after the last one. -/
structure Restarted (T t : Time) (cycle : Cycle) : Prop where
  lastTs : cycle.lastTs = t
  after : t < cycle.nextTs
  within : cycle.nextTs ≤ t + T

variable {T t now : Time} {cycle : Cycle}

theorem isTimeToRun_period (cycle : Cycle) (now : Time) :
    (cycle.isTimeToRun now).2.period = cycle.period := by
  rw [Cycle.isTimeToRun]
  generalize (if now < cycle.lastTs then now else cycle.nextTs) = nextTs
  split
  · rfl
  · rfl

theorem isTimeToRun_of_due (hT : 0 < cycle.period) (hdue : (cycle.isTimeToRun now).1 = true) :
    now < (cycle.isTimeToRun now).2.nextTs ∧
      (cycle.isTimeToRun now).2.nextTs ≤ now + cycle.period := by
  rw [Cycle.isTimeToRun] at hdue ⊢
  generalize (if now < cycle.lastTs then now else cycle.nextTs) = nextTs at hdue ⊢
  split at hdue
  · contradiction
  · rename_i hreached
    rw [if_neg hreached]
    dsimp only
    split
    · exact ⟨by linarith, le_rfl⟩
    · rename_i hkept
      exact ⟨not_le.mp hkept, by linarith⟩

theorem isTimeToRun_of_not_due (hdue : (cycle.isTimeToRun now).1 = false) :
    (cycle.isTimeToRun now).2 = cycle := by
  rw [Cycle.isTimeToRun] at hdue ⊢
  by_cases hback : now < cycle.lastTs
  · rw [if_pos hback, if_neg (lt_irrefl now)] at hdue
    contradiction
  · rw [if_neg hback] at hdue ⊢
    split
    · rfl
    · rename_i hreached
      rw [if_neg hreached] at hdue
      contradiction

theorem setRun_restarted (hT : 0 < cycle.period)
    (hnext : cycle.scheduled = true → t < cycle.nextTs ∧ cycle.nextTs ≤ t + cycle.period) :
    Restarted cycle.period t (cycle.setRun t) := by
  rw [Cycle.setRun]
  refine ⟨rfl, ?_, ?_⟩
  · dsimp only
    split
    · rename_i hscheduled
      exact (hnext hscheduled).1
    · linarith
  · dsimp only
    split
    · rename_i hscheduled
      exact (hnext hscheduled).2
    · exact le_rfl

theorem checkedRun_restarted (hT : 0 < cycle.period) (hscheduled : cycle.scheduled = false) :
    Restarted cycle.period now ((cycle.isTimeToRun now).2.setRun now) := by
  cases hdue : (cycle.isTimeToRun now).1 with
  | true =>
      have hnext := isTimeToRun_of_due hT hdue
      rw [← isTimeToRun_period cycle now] at hT hnext ⊢
      exact setRun_restarted hT fun _ => hnext
  | false =>
      rw [isTimeToRun_of_not_due hdue]
      refine setRun_restarted hT fun h => ?_
      rw [hscheduled] at h
      contradiction

/-- What every state of a run keeps, with its history. -/
structure Scheduling (T : Time) (cycle : Cycle) (past : History) : Prop where
  period : cycle.period = T
  scheduled : cycle.scheduled = false
  restarted : ∀ t, lastRun past = some t → Restarted T t cycle

theorem Scheduling.ran {past : History} (h : Scheduling T cycle past) {e : CycleEvent}
    {next : Cycle} (hruns : runsIn cycle e = true) (hperiod : next.period = T)
    (hscheduled : next.scheduled = false) (hrestarted : Restarted cycle.period e.now next) :
    Scheduling T next ((cycle, e) :: past) := by
  refine ⟨hperiod, hscheduled, fun t ht => ?_⟩
  rw [lastRun, if_pos hruns] at ht
  obtain rfl := Option.some.inj ht
  rwa [h.period] at hrestarted

theorem Scheduling.waited {past : History} (h : Scheduling T cycle past) {e : CycleEvent}
    (hwaits : runsIn cycle e = false) : Scheduling T cycle ((cycle, e) :: past) := by
  refine ⟨h.period, h.scheduled, fun t ht => h.restarted t ?_⟩
  rwa [lastRun, hwaits] at ht

theorem step_scheduling {past : History} (hT : 0 < T) (h : Scheduling T cycle past)
    (e : CycleEvent) : Scheduling T (step cycle e) ((cycle, e) :: past) := by
  have hperiod : 0 < cycle.period := h.period ▸ hT
  have hkept : ∀ now, ((cycle.isTimeToRun now).2.setRun now).period = T :=
    fun now => (isTimeToRun_period cycle now).trans h.period
  obtain ⟨kind, now⟩ := e
  cases kind with
  | scheduled =>
      rw [step]
      dsimp only
      cases hdue : (cycle.isTimeToRun now).1 with
      | true =>
          rw [if_pos rfl]
          exact h.ran hdue (hkept now) rfl (checkedRun_restarted hperiod h.scheduled)
      | false =>
          rw [if_neg Bool.false_ne_true, isTimeToRun_of_not_due hdue]
          exact h.waited hdue
  | triggered checked =>
      cases checked with
      | true => exact h.ran rfl (hkept now) rfl (checkedRun_restarted hperiod h.scheduled)
      | false =>
          refine h.ran rfl h.period rfl (setRun_restarted hperiod fun hscheduled => ?_)
          rw [h.scheduled] at hscheduled
          contradiction

/-- After every run, the next one is scheduled within the period; until then, a check is due
that finds the clock before the run or a period after it, and none is at the same time. -/
theorem neither_starves_nor_bursts {past : History} (hT : 0 < T)
    (hrun : Run step (IsInitial T) cycle past) (hlast : lastRun past = some t) :
    (t < cycle.nextTs ∧ cycle.nextTs ≤ t + T) ∧
      (∀ now, now < t ∨ t + T ≤ now → (cycle.isTimeToRun now).1 = true) ∧
        (cycle.isTimeToRun t).1 = false := by
  have h : Scheduling T cycle past := by
    refine hrun.history_invariant (fun _ _ => True) ?_ ?_ (fun _ _ => trivial)
    · rintro cycle ⟨⟨old, pluginName, name, frequency, start, hinit⟩, hperiod⟩
      rw [Cycle.initializeCycle] at hinit
      split at hinit
      · contradiction
      · cases hinit
        exact ⟨hperiod, rfl, fun t ht => by contradiction⟩
    · exact fun cycle e past h _ => step_scheduling hT h e
  obtain ⟨hlastTs, hafter, hwithin⟩ := h.restarted t hlast
  refine ⟨⟨hafter, hwithin⟩, fun now hnow => ?_, ?_⟩
  · rw [Cycle.isTimeToRun, hlastTs]
    rcases hnow with hback | hlate
    · rw [if_pos hback, if_neg (lt_irrefl now)]
    · rw [if_neg (show ¬ now < t by linarith), if_neg (show ¬ now < cycle.nextTs by linarith)]
  · rw [Cycle.isTimeToRun, hlastTs, if_neg (lt_irrefl t), if_pos hafter]

def setBack : List CycleEvent :=
  [⟨.triggered true, 1300000000⟩, ⟨.scheduled, 90000000⟩, ⟨.scheduled, 150000000⟩]

theorem neither_starves_nor_bursts_set_back :
    ((setBack.foldl step ScheduledRate.exampleCycle).isTimeToRun 290000000).1 = true ∧
      ((setBack.foldl step ScheduledRate.exampleCycle).isTimeToRun 90000000).1 = false := by
  have hinit : ({ parameter := "rt_freq" } : Cycle).initializeCycle "plugin" ".rt_rate" (.fin 5) 0 =
      .ok ScheduledRate.exampleCycle := by
    decide +kernel
  have hstart : IsInitial 200000000 ScheduledRate.exampleCycle :=
    ⟨⟨_, _, _, _, _, hinit⟩, by decide +kernel⟩
  obtain ⟨-, hdue, hnotDue⟩ := neither_starves_nor_bursts (t := 90000000) (by decide)
    ((Run.init hstart).foldl setBack) (by decide +kernel)
  exact ⟨hdue 290000000 (Or.inr (by decide)), hnotDue⟩

end EasyNav.ScheduleRestarts
