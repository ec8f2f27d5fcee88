import EasyNav.NavigationState
import EasyNav.RateMonitoring

namespace EasyNav.ExecutionSchedule

open EasyNav.ExtendedArithmetic
open EasyNav.ExtendedArithmetic.Extended
open EasyNav.DoubleArithmetic
open EasyNav.MachineNumbers
open EasyNav.NavigationState
open EasyNav.RateMonitoring
open EasyNav.RateMonitoring.RateMonitor

/-- `name` is the one of its diagnostic, which is kept under `diagnostics.<name>`. -/
structure Cycle where
  parameter : String := ""
  frequency : Double := .fin 10
  lastTs : Time := 0
  nextTs : Time := 0
  scheduled : Bool := false
  monitor : RateMonitor := {}
  name : String := ""
  reported : Option Status := none
  deriving DecidableEq

namespace Cycle

def period (cycle : Cycle) : Time := fromSeconds (rounded (.fin 1 / cycle.frequency))

def initializeCycle (cycle : Cycle) (pluginName name : String) (frequency : Double) (now : Time) :
    Except String Cycle :=
  if !frequency.isFinite ∨ frequency ≤ 0 then
    .error ("[" ++ pluginName ++ "] Invalid frequency configuration: " ++ pluginName ++ "." ++
      cycle.parameter ++ "=" ++ stdToString frequency ++ " (must be finite and > 0.0)")
  else
    .ok { cycle with
      frequency := frequency
      lastTs := now
      nextTs := now + fromSeconds (rounded (.fin 1 / frequency))
      scheduled := false
      monitor := cycle.monitor.configure frequency
      name := pluginName ++ name
      reported := none }

def isTimeToRun (cycle : Cycle) (now : Time) : Bool × Cycle :=
  -- a clock that went back does not hold up the next run
  let nextTs := if now < cycle.lastTs then now else cycle.nextTs
  if now < nextTs then (false, { cycle with nextTs := nextTs })
  else
    (true, { cycle with
      nextTs := if nextTs + cycle.period ≤ now then now + cycle.period else nextTs + cycle.period
      scheduled := true })

def setRun (cycle : Cycle) (now : Time) : Cycle :=
  { cycle with
    lastTs := now
    nextTs := if cycle.scheduled then cycle.nextTs else now + cycle.period
    scheduled := false
    monitor := cycle.monitor.run (machineSeconds now) }

def diagnosticText (cycle : Cycle) : String :=
  let required := cycle.parameter ++ " " ++ printfFixed 1 cycle.frequency ++ " Hz"
  match cycle.monitor.status with
  | .ok =>
      if beqIeee cycle.monitor.rate 0 then required ++ ": measuring" else required ++ " kept"
  | .warn => required ++ " not kept: " ++ printfFixed 1 cycle.monitor.rate ++ " Hz"
  | .error =>
      required ++ " not kept for " ++
        printfFixed 0 (rounded (.fin cycle.monitor.slowWindows * cycle.monitor.window)) ++ " s: " ++
        printfFixed 1 cycle.monitor.rate ++ " Hz"

/-- The text is cut at the size of the source's buffer. -/
def diagnostic (cycle : Cycle) (nodeName : String) : DiagnosticStatus where
  level := if cycle.monitor.status = .ok then .ok else .warn
  name := cycle.name
  hardwareId := nodeName
  message := String.ofList (cycle.diagnosticText.toList.take 159)

def report (cycle : Cycle) (nodeName : String) (nav : NavState) (now : Time) :
    Cycle × NavState :=
  let cycle := { cycle with monitor := cycle.monitor.update (machineSeconds now) }
  if cycle.reported = some cycle.monitor.status then (cycle, nav)
  else
    ({ cycle with reported := some cycle.monitor.status },
      nav.setDiagnostic cycle.name (cycle.diagnostic nodeName))

structure Readings where
  report : Time
  check : Time
  run : Time

/-- What every `internal_update` does before the plugin's own update, and whether it
goes on to it. -/
def internalUpdate (cycle : Cycle) (nodeName : String) (trigger : Bool) (readings : Readings)
    (nav : NavState) : Bool × Cycle × NavState :=
  let (cycle, nav) := cycle.report nodeName nav readings.report
  let (due, cycle) := cycle.isTimeToRun readings.check
  if due || trigger then (true, cycle.setRun readings.run, nav) else (false, cycle, nav)

end Cycle

structure MethodBase where
  pluginName : String := ""
  rtCycle : Cycle := {}
  cycle : Cycle := {}
  deriving DecidableEq

/-- Whose cycle: that of the real-time update, or of the other one. -/
inductive CycleKind where
  | rt
  | nonRt
  deriving DecidableEq

namespace MethodBase

def cycleOf (method : MethodBase) : CycleKind → Cycle
  | .rt => method.rtCycle
  | .nonRt => method.cycle

def withCycle (method : MethodBase) (cycle : Cycle) : CycleKind → MethodBase
  | .rt => { method with rtCycle := cycle }
  | .nonRt => { method with cycle := cycle }

/-- `now` are the readings of the clock, one for each cycle. -/
def initializeMethod (method : MethodBase) (pluginName : String) (rtFreq freq : Double)
    (now : Time × Time) : Except String MethodBase := do
  let rtCycle := { method.rtCycle with parameter := "rt_freq" }
  let cycle := { method.cycle with parameter := "freq" }
  let rtCycle ← rtCycle.initializeCycle pluginName ".rt_rate" rtFreq now.1
  let cycle ← cycle.initializeCycle pluginName ".rate" freq now.2
  return { pluginName := pluginName, rtCycle := rtCycle, cycle := cycle }

def resetRateMonitors (method : MethodBase) : MethodBase :=
  { method with
    rtCycle := { method.rtCycle with monitor := method.rtCycle.monitor.reset }
    cycle := { method.cycle with monitor := method.cycle.monitor.reset } }

@[simp] theorem cycleOf_withCycle (method : MethodBase) (cycle : Cycle) (kind : CycleKind) :
    (method.withCycle cycle kind).cycleOf kind = cycle := by
  cases kind <;> rfl

theorem initializeMethod_ok {method new : MethodBase} {pluginName : String}
    {rtFreq freq : Double} {now : Time × Time}
    (h : method.initializeMethod pluginName rtFreq freq now = .ok new) :
    Cycle.initializeCycle { method.rtCycle with parameter := "rt_freq" } pluginName ".rt_rate"
        rtFreq now.1 = .ok new.rtCycle ∧
      Cycle.initializeCycle { method.cycle with parameter := "freq" } pluginName ".rate"
        freq now.2 = .ok new.cycle := by
  rw [initializeMethod] at h
  dsimp only at h
  cases hrt : Cycle.initializeCycle { method.rtCycle with parameter := "rt_freq" } pluginName
      ".rt_rate" rtFreq now.1 with
  | error e =>
      rw [hrt] at h
      cases h
  | ok rtCycle =>
      rw [hrt] at h
      cases hother : Cycle.initializeCycle { method.cycle with parameter := "freq" } pluginName
          ".rate" freq now.2 with
      | error e =>
          simp only [hother, bind, Except.bind] at h
          cases h
      | ok cycle =>
          simp only [hother, bind, Except.bind] at h
          obtain rfl := Except.ok.inj h
          exact ⟨rfl, rfl⟩

theorem cycleOf_withCycle_of_ne (method : MethodBase) (cycle : Cycle) {kind other : CycleKind}
    (h : other ≠ kind) : (method.withCycle cycle kind).cycleOf other = method.cycleOf other := by
  cases kind with
  | rt =>
      cases other with
      | rt => exact absurd rfl h
      | nonRt => rfl
  | nonRt =>
      cases other with
      | rt => rfl
      | nonRt => exact absurd rfl h

end MethodBase

section Schedule

variable {T start previous now : Time} {k : Nat} {cycle : Cycle}

/-- The schedule after a reading: `k` runs so far, one for every period since the start. -/
structure Scheduled (T start previous : Time) (k : Nat) (cycle : Cycle) : Prop where
  period : cycle.period = T
  lastTs : cycle.lastTs ≤ previous
  nextTs : cycle.nextTs = start + (k + 1) * T
  due : start + k * T ≤ previous
  notYet : previous < start + (k + 1) * T
  scheduled : cycle.scheduled = false

theorem initializeCycle_ok {old : Cycle} {pluginName name : String} {f : ℚ}
    (h : old.initializeCycle pluginName name (.fin f) start = .ok cycle) :
    0 < f ∧ cycle.frequency = .fin f ∧ cycle.lastTs = start ∧
      cycle.nextTs = start + cycle.period ∧ cycle.scheduled = false ∧
      cycle.monitor = old.monitor.configure (.fin f) := by
  rw [Cycle.initializeCycle] at h
  split at h
  · exact absurd h (by simp)
  · rename_i hvalid
    have hf : ¬ f ≤ 0 := by
      intro hf
      exact hvalid (Or.inr (fin_le_fin.mpr hf))
    cases h
    exact ⟨not_le.mp hf, rfl, rfl, rfl, rfl, rfl⟩

theorem isTimeToRun_of_not_late (hlast : cycle.lastTs ≤ now)
    (hlate : now < cycle.nextTs + cycle.period) :
    cycle.isTimeToRun now =
      if now < cycle.nextTs then (false, cycle)
      else (true, { cycle with nextTs := cycle.nextTs + cycle.period, scheduled := true }) := by
  rw [Cycle.isTimeToRun, if_neg (not_lt.mpr hlast), if_neg (not_le.mpr hlate)]

/-- A scheduling check that is not late: it runs if the next run is due, which keeps to
the schedule. -/
theorem isTimeToRun_scheduled (h : Scheduled T start previous k cycle) (hpast : previous ≤ now)
    (hperiod : now ≤ previous + T) :
    cycle.isTimeToRun now = (false, cycle) ∧ Scheduled T start now k cycle ∨
      cycle.isTimeToRun now =
          (true, { cycle with nextTs := cycle.nextTs + T, scheduled := true }) ∧
        Scheduled T start now (k + 1)
          (({ cycle with nextTs := cycle.nextTs + T, scheduled := true } : Cycle).setRun now) := by
  have hnext := h.nextTs
  have hnotYet := h.notYet
  have hsucc : start + ((k + 1 : Nat) + 1) * T = start + (k + 1) * T + T := by
    push_cast
    ring
  have hlate : now < cycle.nextTs + cycle.period := by
    rw [h.period]
    linarith
  rw [isTimeToRun_of_not_late (h.lastTs.trans hpast) hlate, h.period]
  by_cases hdue : now < cycle.nextTs
  · left
    rw [if_pos hdue]
    refine ⟨rfl, h.period, h.lastTs.trans hpast, hnext, h.due.trans hpast, ?_, h.scheduled⟩
    exact hnext ▸ hdue
  · right
    rw [if_neg hdue]
    refine ⟨rfl, h.period, le_rfl, ?_, ?_, ?_, rfl⟩
    · rw [hsucc, ← hnext]
      rfl
    · push_cast
      linarith
    · rw [hsucc]
      linarith

end Schedule

end EasyNav.ExecutionSchedule
