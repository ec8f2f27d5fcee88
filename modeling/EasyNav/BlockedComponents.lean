import EasyNav.RateMonitoring
import EasyNav.Runs

/-!
What the monitor of the rate makes of a component that is blocked. The gap falls into the
open window, and runs that the window has already counted may make up for it; so may rounding,
if the gap is just so many windows long.
-/

namespace EasyNav.BlockedComponents

open EasyNav.ExtendedArithmetic
open EasyNav.ExtendedArithmetic.Extended
open EasyNav.DoubleArithmetic
open EasyNav.MachineNumbers
open EasyNav.RateMonitoring
open EasyNav.RateMonitoring.RateMonitor
open EasyNav.Runs

inductive Event where
  | run (now : ℚ)
  | update (now : ℚ)

def Event.now : Event → ℚ
  | .run now => now
  | .update now => now

def step (monitor : RateMonitor) : Event → RateMonitor
  | .run now => monitor.run (.fin now)
  | .update now => monitor.update (.fin now)

def IsConfigured (f : ℚ) (monitor : RateMonitor) : Prop :=
  ∃ old : RateMonitor, monitor = old.configure (.fin f)

abbrev History := List (RateMonitor × Event)

def InOrder (past : History) : Prop :=
  past.IsChain fun newer older => older.2.now ≤ newer.2.now

/-- There is no call for so many windows before this time. -/
def QuietFor (f : ℚ) (n : Nat) (past : History) (now : ℚ) : Prop :=
  ∀ p ∈ past, p.2.now + n * max 1 (10 / f) ≤ now

def sinceStart (monitor : RateMonitor) (now : ℚ) : Double :=
  rounded (.fin now - monitor.windowStart)

def Closes (monitor : RateMonitor) (now : ℚ) : Prop :=
  monitor.started = true ∧ ¬ .fin now < monitor.lastUpdate ∧
    ¬ sinceStart monitor now < monitor.window

instance (monitor : RateMonitor) (now : ℚ) : Decidable (Closes monitor now) :=
  inferInstanceAs (Decidable (_ ∧ _ ∧ _))

/-- What the call computes fits the counters, which are of type `int`. -/
def Fits (monitor : RateMonitor) : Event → Prop
  | .run now => (monitor.run (.fin now)).runs < 2 ^ 31
  | .update now => Closes monitor now → monitor.runs + 1 < 2 ^ 31 ∧
      (monitor.isSlow (sinceStart monitor now) = true →
        (rounded (sinceStart monitor now / monitor.window)).isFinite = true ∧
          monitor.slowWindows + monitor.spanned (sinceStart monitor now) < 2 ^ 31)

instance (monitor : RateMonitor) (e : Event) : Decidable (Fits monitor e) :=
  match e with
  | .run _ => inferInstanceAs (Decidable (_ < _))
  | .update _ => inferInstanceAs (Decidable (_ → _))

/-- No call so far overflowed a counter, nor does the next update; it counts as many slow
windows, and calls them an error if they are too many. -/
structure Reported (monitor : RateMonitor) (past : History) (n : Nat) (now : ℚ) : Prop where
  fits : ∀ p ∈ (monitor, .update now) :: past, Fits p.1 p.2
  slowWindows : monitor.slowWindows + n ≤ (monitor.update (.fin now)).slowWindows
  status : kMaxSlowWindows ≤ n → (monitor.update (.fin now)).status = .error

/-- No counter overflows, the open window holds too few runs for the time since it opened, and
as many windows fit in this time as it is computed. -/
structure SeesGap (monitor : RateMonitor) (past : History) (n : Nat) (now : ℚ) : Prop where
  fits : ∀ p ∈ (monitor, .update now) :: past, Fits p.1 p.2
  started : monitor.started = true
  tooFewRuns : monitor.isSlow (sinceStart monitor now) = true
  spans : n ≤ monitor.spanned (sinceStart monitor now)

/-- The monitor after its calls: the window opened no later than the last of them. -/
inductive Watches (f : ℚ) : RateMonitor → History → Prop
  | fresh {monitor : RateMonitor} (hfrequency : monitor.frequency = .fin f)
      (hwindow : monitor.window = windowOf (.fin f)) (hstarted : monitor.started = false)
      (hslow : 0 ≤ monitor.slowWindows) : Watches f monitor []
  | watching {monitor before : RateMonitor} {e : Event} {past : History} {start last : ℚ}
      (hmeasures : monitor.Measures (.fin f) (.fin start) (.fin last)) (hstart : start ≤ e.now)
      (hlast : last ≤ e.now) (hslow : 0 ≤ monitor.slowWindows) :
      Watches f monitor ((before, e) :: past)

section Steps

variable {f start last now : ℚ} {n : Nat} {monitor : RateMonitor} {past : History}

theorem not_fin_lt {x y : ℚ} (h : x ≤ y) : ¬ (.fin y : Double) < .fin x := by
  rw [fin_lt_fin]
  exact not_lt.mpr h

theorem windowOf_fin (hf : 0 < f) :
    windowOf (.fin f) = stdMax kMinWindow (rounded (.fin (10 / f))) := by
  rw [windowOf, kWindowPeriods, div_fin hf.ne']

theorem windowOf_notNegative (hf : 0 < f) : NotNegative (windowOf (.fin f)) := by
  have hperiods : NotNegative (.fin (10 / f)) := by
    rintro _ ⟨⟩
    exact div_nonneg (by norm_num) hf.le
  rw [windowOf_fin hf, stdMax]
  split
  · exact hperiods.rounded
  · rintro _ ⟨⟩
    exact zero_le_one

theorem not_lt_windowOf (hf : 0 < f) {elapsed : ℚ} (h : max 1 (10 / f) ≤ elapsed) :
    ¬ rounded (.fin elapsed) < windowOf (.fin f) := by
  obtain ⟨hone, hperiods⟩ := max_le_iff.mp h
  rw [windowOf_fin hf, stdMax]
  split
  · exact not_rounded_lt (div_nonneg (by norm_num) hf.le) hperiods
  · have hkept : rounded (.fin 1) = kMinWindow := by
      have hint := rounded_intCast (n := 1) (by norm_num)
      rwa [Int.cast_one] at hint
    rw [← hkept]
    exact not_rounded_lt zero_le_one hone

theorem sinceStart_of_measures (hmeasures : monitor.Measures (.fin f) (.fin start) (.fin last))
    (now : ℚ) : sinceStart monitor now = rounded (.fin (now - start)) := by
  rw [sinceStart, hmeasures.windowStart, sub_fin]

theorem spanned_nonneg (hf : 0 < f)
    (hmeasures : monitor.Measures (.fin f) (.fin start) (.fin last)) (h : start ≤ now) :
    0 ≤ monitor.spanned (sinceStart monitor now) := by
  have helapsed : NotNegative (.fin (now - start)) := by
    rintro _ ⟨⟩
    exact sub_nonneg.mpr h
  rw [spanned, hmeasures.window, sinceStart_of_measures hmeasures]
  exact truncate_nonneg (helapsed.rounded.div (windowOf_notNegative hf)).rounded

theorem step_of_fresh (hfrequency : monitor.frequency = .fin f)
    (hwindow : monitor.window = windowOf (.fin f)) (hstarted : monitor.started = false)
    (hslow : 0 ≤ monitor.slowWindows) (e : Event) (past : History) :
    Watches f (step monitor e) ((monitor, e) :: past) := by
  cases e with
  | run now =>
      have hrun : monitor.run (.fin now) =
          { monitor.startWindow (.fin now) with runs := 0 + 1 } := by
        rw [run, hstarted]
        rfl
      rw [step, hrun]
      have hmeasures : Measures { monitor.startWindow (.fin now) with runs := 0 + 1 }
          (.fin f) (.fin now) (.fin now) :=
        ⟨hfrequency, hwindow, rfl, rfl, rfl⟩
      exact .watching hmeasures le_rfl le_rfl hslow
  | update now =>
      rw [step, update_of_not_started hstarted]
      exact .watching (startWindow_measures hfrequency hwindow _) le_rfl le_rfl hslow

theorem step_of_measures (hf : 0 < f)
    (hmeasures : monitor.Measures (.fin f) (.fin start) (.fin last))
    (hslow : 0 ≤ monitor.slowWindows) (e : Event) (hstart : start ≤ e.now) (hlast : last ≤ e.now)
    (past : History) : Watches f (step monitor e) ((monitor, e) :: past) := by
  obtain ⟨hfrequency, hwindow, hstarted, hwindowStart, hlastUpdate⟩ := id hmeasures
  cases e with
  | run now =>
      change start ≤ now at hstart
      rw [step, run_of_measures hmeasures (not_fin_lt hstart)]
      have hcounted : Measures { monitor with runs := monitor.runs + 1 }
          (.fin f) (.fin start) (.fin last) :=
        ⟨hfrequency, hwindow, hstarted, hwindowStart, hlastUpdate⟩
      exact .watching hcounted hstart hlast hslow
  | update now =>
      change last ≤ now at hlast
      have hspanned := spanned_nonneg hf hmeasures (show start ≤ now from hstart)
      rw [sinceStart, hwindowStart] at hspanned
      rw [step, update_of_measures hmeasures (not_fin_lt hlast)]
      split
      · have hkept : Measures { monitor with lastUpdate := .fin now }
            (.fin f) (.fin start) (.fin now) :=
          ⟨hfrequency, hwindow, hstarted, hwindowStart, rfl⟩
        exact .watching hkept hstart le_rfl hslow
      · refine @Watches.watching f _ _ _ _ now now ?_ le_rfl le_rfl ?_
        · exact ⟨hfrequency, hwindow, hstarted, rfl, rfl⟩
        · dsimp only
          split
          · exact Int.add_nonneg hslow hspanned
          · exact le_rfl

theorem run_watches (hf : 0 < f) (hrun : Run step (IsConfigured f) monitor past)
    (horder : InOrder past) : Watches f monitor past := by
  induction hrun with
  | init h =>
      obtain ⟨old, rfl⟩ := h
      exact .fresh rfl rfl rfl le_rfl
  | @next monitor past hrun e ih =>
      have h := ih horder.tail
      cases h with
      | fresh hfrequency hwindow hstarted hslow =>
          exact step_of_fresh hfrequency hwindow hstarted hslow e []
      | watching hmeasures hstart hlast hslow =>
          have hnext := (List.isChain_cons_cons.mp horder).1
          exact step_of_measures hf hmeasures hslow e (hstart.trans hnext) (hlast.trans hnext) _

theorem reported_iff_of_measures (hf : 0 < f)
    (hmeasures : monitor.Measures (.fin f) (.fin start) (.fin last))
    (hslow : 0 ≤ monitor.slowWindows) (hn : 1 ≤ n) (hlast : last ≤ now)
    (hgap : start + n * max 1 (10 / f) ≤ now) :
    Reported monitor past n now ↔ SeesGap monitor past n now := by
  have hsince := sinceStart_of_measures hmeasures now
  have hwhole : max 1 (10 / f) ≤ now - start := by
    have hone : (1 : ℚ) ≤ n := by exact_mod_cast hn
    have hpos : (0 : ℚ) < max 1 (10 / f) := lt_max_of_lt_left one_pos
    have hleast := le_mul_of_one_le_left hpos.le hone
    linarith
  have hclosed : ¬ rounded (.fin now - .fin start) < windowOf (.fin f) := by
    rw [sub_fin]
    exact not_lt_windowOf hf hwhole
  have hnow := not_fin_lt hlast
  rw [← sub_fin] at hsince
  constructor
  · rintro ⟨hfits, hreported, -⟩
    cases hfew : monitor.isSlow (sinceStart monitor now) with
    | false =>
        rw [hsince] at hfew
        rw [update_of_kept hmeasures hnow hclosed hfew] at hreported
        dsimp only at hreported
        omega
    | true =>
        refine ⟨hfits, hmeasures.started, hfew, ?_⟩
        rw [hsince] at hfew ⊢
        rw [update_of_slow hmeasures hnow hclosed hfew] at hreported
        exact Int.le_of_add_le_add_left hreported
  · rintro ⟨hfits, -, hfew, hspans⟩
    rw [hsince] at hfew hspans
    have hupdate := update_of_slow hmeasures hnow hclosed hfew
    refine ⟨hfits, ?_, fun hmany => ?_⟩
    · rw [hupdate]
      exact Int.add_le_add_left hspans _
    · rw [hupdate]
      exact if_pos (by omega)

theorem not_reported_of_fresh (hn : 1 ≤ n) (hstarted : monitor.started = false) :
    ¬ Reported monitor past n now := by
  rintro ⟨-, hreported, -⟩
  rw [update_of_not_started hstarted] at hreported
  change monitor.slowWindows + n ≤ monitor.slowWindows at hreported
  omega

end Steps

/-- The gap is seen exactly when the runs before it do not make up for it in the average of
the open window, as many windows are computed to fit in it, and no counter overflows. -/
theorem blocked_reported_iff {f now : ℚ} {n : Nat} {monitor : RateMonitor} {past : History}
    (hf : 0 < f) (hn : 1 ≤ n) (hrun : Run step (IsConfigured f) monitor past)
    (horder : InOrder past) (hquiet : QuietFor f n past now) :
    Reported monitor past n now ↔ SeesGap monitor past n now := by
  have hspan : 0 ≤ (n : ℚ) * max 1 (10 / f) :=
    mul_nonneg (Nat.cast_nonneg n) (lt_max_of_lt_left one_pos).le
  cases run_watches hf hrun horder with
  | fresh hfrequency hwindow hstarted hslow =>
      have hblind : ¬ SeesGap monitor [] n now := by
        intro h
        have hstarted' := h.started
        rw [hstarted] at hstarted'
        cases hstarted'
      exact iff_of_false (not_reported_of_fresh hn hstarted) hblind
  | watching hmeasures hstart hlast hslow =>
      have hgap := hquiet _ List.mem_cons_self
      exact reported_iff_of_measures hf hmeasures hslow hn (by linarith) (by linarith)

def exampleMonitor : RateMonitor := ({} : RateMonitor).configure (.fin 10)

def blockedHistory : History := history step exampleMonitor [.run 0] []

theorem blocked_reported_iff_once : Reported (exampleMonitor.run 0) blockedHistory 3 3 := by
  have hrun : Run step (IsConfigured 10) exampleMonitor [] := .init ⟨_, rfl⟩
  have horder : InOrder blockedHistory := List.isChain_singleton _
  have hquiet : QuietFor 10 3 blockedHistory 3 := by
    unfold QuietFor
    decide +kernel
  have hfits : ∀ p ∈ (exampleMonitor.run 0, Event.update 3) :: blockedHistory,
      Fits p.1 p.2 := by
    decide +kernel
  exact (blocked_reported_iff (by norm_num) (by norm_num) (hrun.foldl [.run 0]) horder
    hquiet).mpr ⟨hfits, rfl, by decide +kernel, by decide +kernel⟩

-- At 7.25 Hz, 29 windows fit in 40 s, and 28 are computed.
example : (29 : ℚ) * max 1 (10 / (29 / 4)) = 40 ∧
    (({} : RateMonitor).configure (.fin (29 / 4))).spanned (.fin 40) = 28 := by
  decide +kernel

def triggeredRuns : List Event := (List.range 30).map fun k => .run (k / 100)

def triggeredHistory : History := history step exampleMonitor triggeredRuns []

/-- Blocked for three windows after these runs, it is still reported as on time. -/
theorem blocked_after_triggered_runs :
    ∃ monitor : RateMonitor, Run step (IsConfigured 10) monitor triggeredHistory ∧
      InOrder triggeredHistory ∧ QuietFor 10 3 triggeredHistory (329 / 100) ∧
      (monitor.update (.fin (329 / 100))).slowWindows = 0 ∧
      (monitor.update (.fin (329 / 100))).status = .ok ∧
      ¬ Reported monitor triggeredHistory 3 (329 / 100) := by
  have hrun : Run step (IsConfigured 10) exampleMonitor [] := .init ⟨_, rfl⟩
  have horder : InOrder triggeredHistory := by
    unfold InOrder
    decide +kernel
  have hquiet : QuietFor 10 3 triggeredHistory (329 / 100) := by
    unfold QuietFor
    decide +kernel
  have hslow : ((triggeredRuns.foldl step exampleMonitor).update (.fin (329 / 100))).slowWindows =
      0 := by
    decide +kernel
  have hstatus : ((triggeredRuns.foldl step exampleMonitor).update (.fin (329 / 100))).status =
      .ok := by
    decide +kernel
  refine ⟨_, hrun.foldl triggeredRuns, horder, hquiet, hslow, hstatus, ?_⟩
  intro hreported
  have herror := hreported.status le_rfl
  rw [hstatus] at herror
  cases herror

end EasyNav.BlockedComponents
