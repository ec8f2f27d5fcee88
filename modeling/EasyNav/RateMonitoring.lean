import EasyNav.MachineNumbers

/-!
The monitor that checks that a component runs at its configured frequency. Runs are counted in
windows; times are seconds of a clock, and what is computed of them is rounded.
-/

namespace EasyNav.RateMonitoring

open EasyNav.ExtendedArithmetic
open EasyNav.ExtendedArithmetic.Extended
open EasyNav.DoubleArithmetic
open EasyNav.MachineNumbers

inductive Status where
  | ok
  | warn
  | error
  deriving DecidableEq

def kMinRatio : Double := rounded (.fin (9 / 10))

def kMaxSlowWindows : Int := 3

def kMinWindow : Double := .fin 1

def kWindowPeriods : Double := .fin 10

structure RateMonitor where
  frequency : Double := .fin 1
  window : Double := kMinWindow
  started : Bool := false
  windowStart : Double := 0
  lastUpdate : Double := 0
  runs : Nat := 0
  rate : Double := 0
  slowWindows : Int := 0
  status : Status := .ok
  deriving DecidableEq

namespace RateMonitor

def reset (monitor : RateMonitor) : RateMonitor :=
  { monitor with started := false, runs := 0, rate := 0, slowWindows := 0, status := .ok }

def windowOf (frequency : Double) : Double :=
  stdMax kMinWindow (rounded (kWindowPeriods / frequency))

def configure (monitor : RateMonitor) (frequency : Double) : RateMonitor :=
  { monitor with frequency := frequency, window := windowOf frequency }.reset

def startWindow (monitor : RateMonitor) (now : Double) : RateMonitor :=
  { monitor with started := true, windowStart := now, lastUpdate := now, runs := 0 }

def run (monitor : RateMonitor) (now : Double) : RateMonitor :=
  let monitor :=
    if !monitor.started ∨ now < monitor.windowStart then monitor.startWindow now else monitor
  { monitor with runs := monitor.runs + 1 }

def statusOf (slowWindows : Int) : Status :=
  if kMaxSlowWindows ≤ slowWindows then .error else if 0 < slowWindows then .warn else .ok

/-- The open window holds too few runs for these seconds since it opened. -/
def isSlow (monitor : RateMonitor) (elapsed : Double) : Bool :=
  decide (.fin (monitor.runs + 1) < rounded (rounded (kMinRatio * monitor.frequency) * elapsed))

def spanned (monitor : RateMonitor) (elapsed : Double) : Int :=
  truncate (rounded (elapsed / monitor.window))

/-- The status afterwards is the one that the source returns. -/
def update (monitor : RateMonitor) (now : Double) : RateMonitor :=
  if !monitor.started ∨ now < monitor.lastUpdate then monitor.startWindow now
  else
    let elapsed := rounded (now - monitor.windowStart)
    if elapsed < monitor.window then { monitor with lastUpdate := now }
    else
      let slowWindows :=
        -- a long gap counts as every window it spans
        if monitor.isSlow elapsed then monitor.slowWindows + monitor.spanned elapsed else 0
      { monitor with
        lastUpdate := now
        rate := rounded (.fin monitor.runs / elapsed)
        slowWindows := slowWindows
        status := statusOf slowWindows
        windowStart := now
        runs := 0 }

/-- Started, for this frequency. -/
structure Measures (monitor : RateMonitor) (f start last : Double) : Prop where
  frequency : monitor.frequency = f
  window : monitor.window = windowOf f
  started : monitor.started = true
  windowStart : monitor.windowStart = start
  lastUpdate : monitor.lastUpdate = last

variable {monitor : RateMonitor} {f start last now : Double}

theorem startWindow_measures (hfrequency : monitor.frequency = f)
    (hwindow : monitor.window = windowOf f) (now : Double) :
    (monitor.startWindow now).Measures f now now :=
  ⟨hfrequency, hwindow, rfl, rfl, rfl⟩

theorem update_of_not_started (h : monitor.started = false) (now : Double) :
    monitor.update now = monitor.startWindow now := by
  rw [update, h]
  rfl

theorem run_of_measures (h : monitor.Measures f start last) (hnow : ¬ now < start) :
    monitor.run now = { monitor with runs := monitor.runs + 1 } := by
  have hback : ¬ (!monitor.started ∨ now < monitor.windowStart) := by
    rw [h.started, h.windowStart]
    simpa using hnow
  rw [run, if_neg hback]

theorem update_of_measures (h : monitor.Measures f start last) (hnow : ¬ now < last) :
    monitor.update now =
      if rounded (now - start) < windowOf f then { monitor with lastUpdate := now }
      else
        let slowWindows :=
          if monitor.isSlow (rounded (now - start)) then
            monitor.slowWindows + monitor.spanned (rounded (now - start))
          else 0
        { monitor with
          lastUpdate := now
          rate := rounded (.fin monitor.runs / rounded (now - start))
          slowWindows := slowWindows
          status := statusOf slowWindows
          windowStart := now
          runs := 0 } := by
  obtain ⟨-, hwindow, hstarted, rfl, rfl⟩ := h
  have hback : ¬ (!monitor.started ∨ now < monitor.lastUpdate) := by
    rw [hstarted]
    simpa using hnow
  rw [update, if_neg hback, ← hwindow]

theorem update_of_open (h : monitor.Measures f start last) (hnow : ¬ now < last)
    (hopen : rounded (now - start) < windowOf f) :
    monitor.update now = { monitor with lastUpdate := now } := by
  rw [update_of_measures h hnow, if_pos hopen]

theorem update_of_slow (h : monitor.Measures f start last) (hnow : ¬ now < last)
    (hclosed : ¬ rounded (now - start) < windowOf f)
    (hslow : monitor.isSlow (rounded (now - start)) = true) :
    monitor.update now =
      { monitor with
        lastUpdate := now
        rate := rounded (.fin monitor.runs / rounded (now - start))
        slowWindows := monitor.slowWindows + monitor.spanned (rounded (now - start))
        status := statusOf (monitor.slowWindows + monitor.spanned (rounded (now - start)))
        windowStart := now
        runs := 0 } := by
  rw [update_of_measures h hnow, if_neg hclosed, if_pos hslow]

theorem update_of_kept (h : monitor.Measures f start last) (hnow : ¬ now < last)
    (hclosed : ¬ rounded (now - start) < windowOf f)
    (hkept : monitor.isSlow (rounded (now - start)) = false) :
    monitor.update now =
      { monitor with
        lastUpdate := now
        rate := rounded (.fin monitor.runs / rounded (now - start))
        slowWindows := 0
        status := .ok
        windowStart := now
        runs := 0 } := by
  rw [update_of_measures h hnow, if_neg hclosed, hkept]
  rfl

end RateMonitor

end EasyNav.RateMonitoring
