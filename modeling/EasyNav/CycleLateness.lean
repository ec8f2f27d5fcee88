import EasyNav.Runs
import EasyNav.SafetySupervision

namespace EasyNav.CycleLateness

open EasyNav.ExtendedArithmetic
open EasyNav.ExtendedArithmetic.Extended
open EasyNav.DoubleArithmetic
open EasyNav.MachineNumbers
open EasyNav.NavigationState
open EasyNav.SafetySupervision
open EasyNav.SafetySupervision.SafetySupervisor
open EasyNav.Runs

inductive Event where
  | activate
  | status (msg : SafetyStatus) (steady : Time)
  | cycle (nav : NavState) (steady now : Time)

def step (supervisor : SafetySupervisor) : Event → SafetySupervisor
  | .activate => supervisor.onActivate
  | .status msg steady => supervisor.receiveStatus msg steady
  | .cycle nav steady now => (supervisor.cycleRt nav steady now).2.1

/-- Configured with parameters that the supervisor accepts, the period being that of
`rtFreq`. -/
def Start (params : SafetyParameters) (rtFreq factor : ℚ) (supervisor : SafetySupervisor) :
    Prop :=
  params.rtFreq = .fin rtFreq ∧ 0 < rtFreq ∧ params.maxPeriodFactor = .fin factor ∧
    ∃ (old : SafetySupervisor) (nodeName : String) (checks : SystemChecks),
      (old.checkSystem nodeName params checks).2 = true ∧
        supervisor = (old.checkSystem nodeName params checks).1

/-- When the cycles since the last activation started, newest first. -/
def starts : List (SafetySupervisor × Event) → List Time
  | [] => []
  | (_, .activate) :: _ => []
  | (_, .status _ _) :: past => starts past
  | (_, .cycle _ steady _) :: past => steady :: starts past

def Activated (past : List (SafetySupervisor × Event)) : Prop :=
  ∃ p ∈ past, p.2 = .activate

/-- More than `limit` seconds after the previous one. -/
def IsLate (limit : ℚ) (start previous : Time) : Prop :=
  limit < (start - previous : Int) / 1000000000

instance (limit : ℚ) (start previous : Time) : Decidable (IsLate limit start previous) :=
  inferInstanceAs (Decidable (_ < _))

/-- As the monitor compares it. -/
def ComparedLate (period : Double) (start previous : Time) : Prop :=
  period < machineSeconds (start - previous)

instance (period : Double) (start previous : Time) :
    Decidable (ComparedLate period start previous) :=
  inferInstanceAs (Decidable (_ < _))

section Counting

variable (late : Time → Time → Prop) [DecidableRel late]

def lateInARow : List Time → Nat
  | start :: previous :: earlier =>
      if late start previous then lateInARow (previous :: earlier) + 1 else 0
  | _ => 0

def lateCount : List Time → Nat
  | start :: previous :: earlier =>
      lateCount (previous :: earlier) + if late start previous then 1 else 0
  | _ => 0

end Counting

/-- What the status promises about so many late cycles in a row. -/
def promisedStatus (maxLateCycles : Int) (inARow : Nat) : RtStatus :=
  if maxLateCycles ≤ inARow then .error else if 0 < inARow then .late else .ok

/-- A cycle is reported as promised; `starts` ends with it. -/
structure PromisedAt (params : SafetyParameters) (limit : ℚ) (supervisor : SafetySupervisor)
    (nav : NavState) (steady now : Time) (starts : List Time) : Prop where
  status : (supervisor.cycleRt nav steady now).2.1.rtMonitor.status =
    promisedStatus params.maxLateCycles (lateInARow (IsLate limit) starts)
  lateCycles : (supervisor.cycleRt nav steady now).2.1.rtMonitor.lateCycles =
    lateCount (IsLate limit) starts
  stops : params.mode = true →
    ((supervisor.cycleRt nav steady now).1 = false ↔
      ∃ upTo, upTo <:+ starts ∧ params.maxLateCycles ≤ lateInARow (IsLate limit) upTo)

/-- Every cycle since the last activation is reported as promised. -/
def Promised (params : SafetyParameters) (limit : ℚ) : List (SafetySupervisor × Event) → Prop
  | [] => True
  | (_, .activate) :: _ => True
  | (_, .status _ _) :: past => Promised params limit past
  | (supervisor, .cycle nav steady now) :: past =>
      PromisedAt params limit supervisor nav steady now (steady :: starts past) ∧
        Promised params limit past

/-- So many late cycles in a row fit an `int`, and the number that is an error does so too
or, cut down to one, is not reached. -/
def CountFits (maxLateCycles : Int) (inARow : Nat) : Prop :=
  (inARow : Int) < 2 ^ 31 ∧ (maxLateCycles < 2 ^ 31 ∨ (inARow : Int) < toInt32 maxLateCycles)

/-- They do at every cycle. -/
def FitsInt (maxLateCycles : Int) (limit : ℚ) (starts : List Time) : Prop :=
  ∀ upTo, upTo <:+ starts → upTo ≠ [] →
    CountFits maxLateCycles (lateInARow (IsLate limit) upTo)

/-- Rounding tips no comparison: in doubles each cycle is late exactly if it is. -/
def ComparedExactly (period : Double) (limit : ℚ) (starts : List Time) : Prop :=
  starts.IsChain fun start previous =>
    (ComparedLate period start previous ↔ IsLate limit start previous)

-- At 70 Hz, three and a half periods are compared as less than the 50 ms that they are.
example : ComparedLate (rounded (rounded (.fin 1 / .fin 70) * .fin (7 / 2))) 50000000 0 ∧
    ¬ IsLate (1 / 70 * (7 / 2)) 50000000 0 := by
  decide +kernel

section Monitor

variable {period : Double} {limit : ℚ}

theorem toInt32_of_lt {n : Int} (hlow : -2 ^ 31 ≤ n) (hhigh : n < 2 ^ 31) : toInt32 n = n := by
  rw [toInt32]
  apply Int.bmod_eq_of_le
  · omega
  · omega

theorem toInt32_lt (n : Int) : toInt32 n < 2 ^ 31 := by
  have h : Int.bmod n (2 ^ 32) < _ := Int.bmod_lt (by norm_num)
  rw [toInt32]
  norm_num at h ⊢
  exact h

theorem toInt32_zero : toInt32 0 = 0 := toInt32_of_lt (by norm_num) (by norm_num)

theorem toInt32_toInt32_add (n : Int) : toInt32 (toInt32 n + 1) = toInt32 (n + 1) := by
  simp only [toInt32, Int.bmod_add_bmod]

theorem lateInARow_cons_le (late : Time → Time → Prop) [DecidableRel late] (start : Time)
    (earlier : List Time) :
    lateInARow late (start :: earlier) ≤ lateInARow late earlier + 1 := by
  cases earlier with
  | nil => exact Nat.zero_le _
  | cons previous earlier =>
      rw [lateInARow]
      split
      · exact le_rfl
      · exact Nat.zero_le _

theorem lateInARow_exact {starts : List Time} (h : ComparedExactly period limit starts) :
    lateInARow (ComparedLate period) starts = lateInARow (IsLate limit) starts := by
  induction starts with
  | nil => rfl
  | cons start earlier ih =>
      cases earlier with
      | nil => rfl
      | cons previous earlier =>
          obtain ⟨hfirst, hrest⟩ := List.isChain_cons_cons.mp h
          simp only [lateInARow, hfirst, ih hrest]

theorem lateCount_exact {starts : List Time} (h : ComparedExactly period limit starts) :
    lateCount (ComparedLate period) starts = lateCount (IsLate limit) starts := by
  induction starts with
  | nil => rfl
  | cons start earlier ih =>
      cases earlier with
      | nil => rfl
      | cons previous earlier =>
          obtain ⟨hfirst, hrest⟩ := List.isChain_cons_cons.mp h
          simp only [lateCount, hfirst, ih hrest]

/-- Where the earlier cycles are compared exactly, the number of late ones tells whether the
newest one is. -/
theorem comparedExactly_cons_iff (start : Time) {earlier : List Time}
    (h : ComparedExactly period limit earlier) :
    ComparedExactly period limit (start :: earlier) ↔
      lateCount (ComparedLate period) (start :: earlier) =
        lateCount (IsLate limit) (start :: earlier) := by
  refine ⟨lateCount_exact, ?_⟩
  cases earlier with
  | nil => exact fun _ => List.isChain_singleton _
  | cons previous earlier =>
      intro hcount
      rw [lateCount, lateCount, lateCount_exact h] at hcount
      refine List.isChain_cons_cons.mpr ⟨?_, h⟩
      by_cases hcompared : ComparedLate period start previous <;>
        by_cases hlate : IsLate limit start previous <;> simp [hcompared, hlate] at hcount ⊢

structure Counts (maxLateCycles : Int) (period : Double) (monitor : RtMonitor)
    (starts : List Time) : Prop where
  maxPeriod : monitor.maxPeriod = period
  maxLateCycles : monitor.maxLateCycles = toInt32 maxLateCycles
  lastStart : monitor.lastStart = starts.head?
  consecutiveLate : monitor.consecutiveLate =
    toInt32 (lateInARow (ComparedLate period) starts)
  lateCycles : monitor.lateCycles = lateCount (ComparedLate period) starts

variable {maxLateCycles : Int} {monitor : RtMonitor} {earlier : List Time}

theorem reset_counts (hperiod : monitor.maxPeriod = period)
    (hcycles : monitor.maxLateCycles = toInt32 maxLateCycles) :
    Counts maxLateCycles period monitor.reset [] where
  maxPeriod := hperiod
  maxLateCycles := hcycles
  lastStart := rfl
  consecutiveLate := toInt32_zero.symm
  lateCycles := rfl

/-- The status as the code compares it. -/
def comparedStatus (maxLateCycles : Int) (inARow : Nat) : RtStatus :=
  if toInt32 maxLateCycles ≤ toInt32 inARow then .error
  else if 0 < toInt32 inARow then .late
  else .ok

theorem cycleStarted_counts (h : Counts maxLateCycles period monitor earlier)
    (steady : Time) :
    Counts maxLateCycles period (monitor.cycleStarted steady) (steady :: earlier) ∧
      (monitor.cycleStarted steady).status = comparedStatus maxLateCycles
        (lateInARow (ComparedLate period) (steady :: earlier)) := by
  cases earlier with
  | nil =>
      have hlast : monitor.lastStart = none := h.lastStart
      have hrow : monitor.consecutiveLate =
          toInt32 (lateInARow (ComparedLate period) [steady]) := h.consecutiveLate
      rw [RtMonitor.cycleStarted, hlast]
      dsimp only
      rw [comparedStatus, ← hrow, ← h.maxLateCycles]
      exact ⟨⟨h.maxPeriod, h.maxLateCycles, rfl, hrow, h.lateCycles⟩, rfl⟩
  | cons previous earlier =>
      have hlast : monitor.lastStart = some previous := h.lastStart
      have hlate : monitor.maxPeriod < machineSeconds (steady - previous) ↔
          ComparedLate period steady previous := by
        rw [h.maxPeriod, ComparedLate]
      rw [RtMonitor.cycleStarted, hlast]
      dsimp only
      split
      · rename_i hslow
        have hslow := hlate.mp hslow
        have hrow : toInt32 (monitor.consecutiveLate + 1) =
            toInt32 (lateInARow (ComparedLate period) (steady :: previous :: earlier)) := by
          rw [lateInARow, if_pos hslow, h.consecutiveLate, toInt32_toInt32_add]
          push_cast
          rfl
        have hcount : monitor.lateCycles + 1 =
            lateCount (ComparedLate period) (steady :: previous :: earlier) := by
          rw [lateCount, if_pos hslow, h.lateCycles]
        dsimp only
        rw [comparedStatus, ← hrow, ← h.maxLateCycles]
        exact ⟨⟨h.maxPeriod, h.maxLateCycles, rfl, hrow, hcount⟩, rfl⟩
      · rename_i hslow
        have hslow := fun h' => hslow (hlate.mpr h')
        have hrow : (0 : Int) =
            toInt32 (lateInARow (ComparedLate period) (steady :: previous :: earlier)) := by
          rw [lateInARow, if_neg hslow]
          exact toInt32_zero.symm
        have hcount : monitor.lateCycles =
            lateCount (ComparedLate period) (steady :: previous :: earlier) := by
          rw [lateCount, if_neg hslow, h.lateCycles]
          rfl
        dsimp only
        rw [comparedStatus, ← hrow, ← h.maxLateCycles]
        exact ⟨⟨h.maxPeriod, h.maxLateCycles, rfl, hrow, hcount⟩, rfl⟩

end Monitor

section Comparison

variable {limit : ℚ} {maxLateCycles : Int} {inARow : Nat}

theorem comparedStatus_of_fits (hpos : 1 ≤ maxLateCycles) (h : CountFits maxLateCycles inARow) :
    comparedStatus maxLateCycles inARow = promisedStatus maxLateCycles inARow := by
  obtain ⟨hrow, hcycles⟩ := h
  have hrow' : toInt32 inARow = inARow := toInt32_of_lt (by omega) hrow
  rw [comparedStatus, promisedStatus, hrow']
  rcases lt_or_ge maxLateCycles (2 ^ 31) with hsmall | hlarge
  · rw [toInt32_of_lt (by omega) hsmall]
    simp only [Int.natCast_pos]
  · have hlow : (inARow : Int) < toInt32 maxLateCycles := by
      rcases hcycles with hcycles | hcycles
      · omega
      · exact hcycles
    have hcompared : ¬ toInt32 maxLateCycles ≤ (inARow : Int) := not_le.mpr hlow
    have hpromised : ¬ maxLateCycles ≤ (inARow : Int) := by omega
    rw [if_neg hcompared, if_neg hpromised]
    simp only [Int.natCast_pos]

/-- The first count that does not fit is compared wrongly. -/
theorem fits_of_comparedStatus (hpos : 1 ≤ maxLateCycles) (hrow : (inARow : Int) ≤ 2 ^ 31)
    (hreached : (inARow : Int) = 2 ^ 31 → maxLateCycles < 2 ^ 31)
    (h : comparedStatus maxLateCycles inARow = promisedStatus maxLateCycles inARow) :
    CountFits maxLateCycles inARow := by
  rcases hrow.lt_or_eq with hrow | hrow
  · refine ⟨hrow, ?_⟩
    rcases lt_or_ge maxLateCycles (2 ^ 31) with hsmall | hlarge
    · exact Or.inl hsmall
    · have hrow' : toInt32 inARow = inARow := toInt32_of_lt (by omega) hrow
      have hpromised : ¬ maxLateCycles ≤ (inARow : Int) := by omega
      rw [comparedStatus, promisedStatus, hrow', if_neg hpromised] at h
      refine Or.inr (not_le.mp ?_)
      intro hle
      rw [if_pos hle] at h
      split at h
      · exact absurd h (by decide)
      · exact absurd h (by decide)
  · have hsmall := hreached hrow
    have hwrapped : toInt32 inARow = -2 ^ 31 := by
      rw [hrow, toInt32, Int.bmod]
      norm_num
    have hpromised : maxLateCycles ≤ (inARow : Int) := by omega
    have herror : ¬ maxLateCycles ≤ -2 ^ 31 := by omega
    rw [comparedStatus, promisedStatus, hwrapped, toInt32_of_lt (by omega) hsmall,
      if_pos hpromised, if_neg herror, if_neg (by norm_num)] at h
    exact absurd h (by decide)

theorem fitsInt_cons (start : Time) (earlier : List Time) :
    FitsInt maxLateCycles limit (start :: earlier) ↔
      CountFits maxLateCycles (lateInARow (IsLate limit) (start :: earlier)) ∧
        FitsInt maxLateCycles limit earlier := by
  constructor
  · intro h
    exact ⟨h _ (List.suffix_refl _) (by simp),
      fun upTo hsuffix => h upTo (hsuffix.trans (List.suffix_cons _ _))⟩
  · rintro ⟨hlast, h⟩ upTo hsuffix hne
    rcases List.suffix_cons_iff.mp hsuffix with rfl | hsuffix
    · exact hlast
    · exact h upTo hsuffix hne

theorem fits_cons_iff (hpos : 1 ≤ maxLateCycles) (start : Time) {earlier : List Time}
    (h : FitsInt maxLateCycles limit earlier) :
    CountFits maxLateCycles (lateInARow (IsLate limit) (start :: earlier)) ↔
      comparedStatus maxLateCycles (lateInARow (IsLate limit) (start :: earlier)) =
        promisedStatus maxLateCycles (lateInARow (IsLate limit) (start :: earlier)) := by
  refine ⟨comparedStatus_of_fits hpos, ?_⟩
  cases earlier with
  | nil =>
      intro hstatus
      have hrow : lateInARow (IsLate limit) [start] = 0 := rfl
      rw [hrow] at hstatus ⊢
      exact fits_of_comparedStatus hpos (by norm_num) (by norm_num) hstatus
  | cons previous earlier =>
      obtain ⟨hrow, hcycles⟩ := h _ (List.suffix_refl _) (List.cons_ne_nil _ _)
      have hnext := lateInARow_cons_le (IsLate limit) start (previous :: earlier)
      have hint := toInt32_lt maxLateCycles
      apply fits_of_comparedStatus hpos
      · omega
      · intro hreached
        rcases hcycles with hcycles | hcycles
        · exact hcycles
        · omega

end Comparison

section Runs

variable {params : SafetyParameters} {rtFreq factor : ℚ} {supervisor : SafetySupervisor}
  {past : List (SafetySupervisor × Event)}

/-- The code saw an error since the activation. -/
def ErrorCompared (maxLateCycles : Int) (period : Double) (starts : List Time) : Prop :=
  ∃ upTo, upTo <:+ starts ∧ upTo ≠ [] ∧
    comparedStatus maxLateCycles (lateInARow (ComparedLate period) upTo) = .error

theorem errorCompared_cons (maxLateCycles : Int) (period : Double) (start : Time)
    (earlier : List Time) :
    ErrorCompared maxLateCycles period (start :: earlier) ↔
      ErrorCompared maxLateCycles period earlier ∨ comparedStatus maxLateCycles
        (lateInARow (ComparedLate period) (start :: earlier)) = .error := by
  constructor
  · rintro ⟨upTo, hsuffix, hne, herror⟩
    rcases List.suffix_cons_iff.mp hsuffix with rfl | hsuffix
    · exact Or.inr herror
    · exact Or.inl ⟨upTo, hsuffix, hne, herror⟩
  · rintro (⟨upTo, hsuffix, hne, herror⟩ | herror)
    · exact ⟨upTo, hsuffix.trans (List.suffix_cons _ _), hne, herror⟩
    · exact ⟨_, List.suffix_refl _, List.cons_ne_nil _ _, herror⟩

/-- Where the counts fit and are exact, the code sees the errors that were promised. -/
theorem errorCompared_iff {maxLateCycles : Int} (hpos : 1 ≤ maxLateCycles) {period : Double}
    {limit : ℚ} {starts : List Time} (hexact : ComparedExactly period limit starts)
    (h : FitsInt maxLateCycles limit starts) :
    ErrorCompared maxLateCycles period starts ↔
      ∃ upTo, upTo <:+ starts ∧ maxLateCycles ≤ lateInARow (IsLate limit) upTo := by
  have hrow : ∀ upTo, upTo <:+ starts →
      lateInARow (ComparedLate period) upTo = lateInARow (IsLate limit) upTo :=
    fun upTo hsuffix => lateInARow_exact (hexact.suffix hsuffix)
  constructor
  · rintro ⟨upTo, hsuffix, hne, herror⟩
    rw [hrow upTo hsuffix, comparedStatus_of_fits hpos (h upTo hsuffix hne),
      promisedStatus] at herror
    refine ⟨upTo, hsuffix, ?_⟩
    split at herror
    · assumption
    · split at herror
      · exact absurd herror (by decide)
      · exact absurd herror (by decide)
  · rintro ⟨upTo, hsuffix, hreached⟩
    have hne : upTo ≠ [] := by
      rintro rfl
      have hnone : lateInARow (IsLate limit) [] = 0 := rfl
      omega
    refine ⟨upTo, hsuffix, hne, ?_⟩
    rw [hrow upTo hsuffix, comparedStatus_of_fits hpos (h upTo hsuffix hne), promisedStatus,
      if_pos hreached]

/-- The supervisor counts the cycles since the last activation, and keeps asking to stop
after an error. -/
structure Supervises (params : SafetyParameters) (period : Double)
    (supervisor : SafetySupervisor) (past : List (SafetySupervisor × Event)) : Prop where
  safetyMode : supervisor.safetyMode = params.mode
  counts : Counts params.maxLateCycles period supervisor.rtMonitor (starts past)
  failure : Activated past → params.mode = true →
    (supervisor.failure ≠ "" ↔ ErrorCompared params.maxLateCycles period (starts past))

/-- The longest period that the monitor does not call late. -/
def configuredPeriod (rtFreq factor : ℚ) : Double :=
  rounded (rounded (.fin 1 / .fin rtFreq) * .fin factor)

theorem activated_cons {p : SafetySupervisor × Event} (h : p.2 ≠ .activate) :
    Activated (p :: past) ↔ Activated past := by
  constructor
  · rintro ⟨q, hq, hactivate⟩
    rcases List.mem_cons.mp hq with rfl | hq
    · exact absurd hactivate h
    · exact ⟨q, hq, hactivate⟩
  · rintro ⟨q, hq, hactivate⟩
    exact ⟨q, List.mem_cons_of_mem _ hq, hactivate⟩

theorem maxLateCycles_pos {checks : SystemChecks}
    (h : (systemErrors params checks).isEmpty = true) : 1 ≤ params.maxLateCycles := by
  simp only [systemErrors, List.isEmpty_iff, List.append_eq_nil_iff] at h
  have hcycles := h.1.1.2
  split at hcycles
  · contradiction
  · omega

theorem start_supervises (h : Start params rtFreq factor supervisor) :
    Supervises params (configuredPeriod rtFreq factor) supervisor [] ∧
      1 ≤ params.maxLateCycles := by
  obtain ⟨hfreq, hfreq', hfactor, old, nodeName, checks, haccepted, rfl⟩ := h
  have hvalid : (params.rtFreq.isFinite && decide (0 < params.rtFreq)) = true := by
    rw [hfreq]
    simpa [isFinite, zero_def] using hfreq'
  have hmonitor : (old.checkSystem nodeName params checks).1.rtMonitor =
      old.rtMonitor.configure (rounded (.fin 1 / params.rtFreq)) params.maxPeriodFactor
        (toInt32 params.maxLateCycles) := by
    rw [checkSystem]
    dsimp only
    rw [if_pos hvalid]
  refine ⟨⟨rfl, ?_, ?_⟩, maxLateCycles_pos haccepted⟩
  · rw [hmonitor]
    refine ⟨?_, rfl, rfl, toInt32_zero.symm, rfl⟩
    rw [RtMonitor.configure, hfreq, hfactor]
    rfl
  · rintro ⟨p, hp, -⟩
    exact absurd hp List.not_mem_nil

theorem step_supervises {period : Double} (h : Supervises params period supervisor past)
    (e : Event) : Supervises params period (step supervisor e) ((supervisor, e) :: past) := by
  cases e with
  | activate =>
      refine ⟨h.safetyMode, reset_counts h.counts.maxPeriod h.counts.maxLateCycles, ?_⟩
      intro _ _
      refine iff_of_false (by simp [step, onActivate]) ?_
      rintro ⟨upTo, hsuffix, hne, -⟩
      exact hne (List.suffix_nil.mp hsuffix)
  | status msg steady =>
      have hsame := supervisor.receiveStatus_sameButReports msg steady
      rw [step]
      constructor
      · exact hsame.safetyMode.trans h.safetyMode
      · rw [hsame.rtMonitor]
        exact h.counts
      · intro hactivated
        rw [hsame.failure]
        exact h.failure ((activated_cons (by simp)).mp hactivated)
  | cycle nav steady now =>
      obtain ⟨hmode, -, hmonitor, hfailure, -⟩ := supervisor.cycleRt_decides nav steady now
      obtain ⟨hcounts, hstatus⟩ := cycleStarted_counts h.counts steady
      rw [step]
      constructor
      · exact hmode.trans h.safetyMode
      · rw [hmonitor]
        exact hcounts
      · intro hactivated hsafety
        have hearlier := h.failure ((activated_cons (by simp)).mp hactivated) hsafety
        rw [hfailure, hearlier, hstatus, h.safetyMode]
        simp only [hsafety, true_and]
        exact (errorCompared_cons _ _ _ _).symm

theorem run_supervises (hrun : Run step (Start params rtFreq factor) supervisor past) :
    Supervises params (configuredPeriod rtFreq factor) supervisor past ∧
      1 ≤ params.maxLateCycles := by
  refine hrun.history_invariant (motive := fun supervisor past =>
    Supervises params (configuredPeriod rtFreq factor) supervisor past ∧ 1 ≤ params.maxLateCycles)
    (fun _ _ => True) (fun _ h => start_supervises h) ?_ (fun _ _ => trivial)
  rintro supervisor e past ⟨h, hpos⟩ -
  exact ⟨step_supervises h e, hpos⟩

/-- Once the earlier cycles fit and are compared exactly, a cycle is reported as promised exactly
if it does so too. -/
theorem promisedAt_iff {period : Double} {limit : ℚ}
    (h : Supervises params period supervisor past) (hpos : 1 ≤ params.maxLateCycles)
    (hactivated : Activated past) (hexact : ComparedExactly period limit (starts past))
    (hfits : FitsInt params.maxLateCycles limit (starts past)) (nav : NavState)
    (steady now : Time) :
    PromisedAt params limit supervisor nav steady now (steady :: starts past) ↔
      ComparedExactly period limit (steady :: starts past) ∧
        CountFits params.maxLateCycles (lateInARow (IsLate limit) (steady :: starts past)) := by
  obtain ⟨-, -, hmonitor, hfailure, hstops⟩ := supervisor.cycleRt_decides nav steady now
  obtain ⟨hcounts, hstatus⟩ := cycleStarted_counts h.counts steady
  rw [fits_cons_iff hpos steady hfits]
  constructor
  · rintro ⟨hpromised, hcount, -⟩
    have hexact : ComparedExactly period limit (steady :: starts past) := by
      rw [comparedExactly_cons_iff steady hexact, ← hcount, hmonitor, hcounts.lateCycles]
    refine ⟨hexact, ?_⟩
    rw [← hpromised, hmonitor, hstatus, lateInARow_exact hexact]
  · rintro ⟨hexact, hcompared⟩
    have hpromised : (supervisor.rtMonitor.cycleStarted steady).status =
        promisedStatus params.maxLateCycles
          (lateInARow (IsLate limit) (steady :: starts past)) := by
      rw [hstatus, lateInARow_exact hexact, hcompared]
    refine ⟨?_, ?_, ?_⟩
    · rw [hmonitor]
      exact hpromised
    · rw [hmonitor, hcounts.lateCycles, lateCount_exact hexact]
    · intro hsafety
      have hall : FitsInt params.maxLateCycles limit (steady :: starts past) := by
        rw [fitsInt_cons, fits_cons_iff hpos steady hfits]
        exact ⟨hcompared, hfits⟩
      rw [← errorCompared_iff hpos hexact hall, errorCompared_cons, hstops, hfailure,
        h.failure hactivated hsafety, hstatus, h.safetyMode]
      simp only [hsafety, true_and]

/-- The lateness is reported as promised over the cycles since an activation exactly if at each
of them rounding tips no comparison and the counts fit an `int`. -/
theorem promised_iff_fitsInt (hrun : Run step (Start params rtFreq factor) supervisor past)
    (hactivated : Activated past) :
    Promised params (1 / rtFreq * factor) past ↔
      ComparedExactly (configuredPeriod rtFreq factor) (1 / rtFreq * factor) (starts past) ∧
        FitsInt params.maxLateCycles (1 / rtFreq * factor) (starts past) := by
  have hnone : ComparedExactly (configuredPeriod rtFreq factor) (1 / rtFreq * factor) [] ∧
      FitsInt params.maxLateCycles (1 / rtFreq * factor) [] :=
    ⟨List.isChain_nil, fun upTo hsuffix hne => absurd (List.suffix_nil.mp hsuffix) hne⟩
  induction hrun with
  | init h => exact iff_of_true trivial hnone
  | @next supervisor past hrun e ih =>
      cases e with
      | activate => exact iff_of_true trivial hnone
      | status msg steady => exact ih ((activated_cons (by simp)).mp hactivated)
      | cycle nav steady now =>
          have hactivated := (activated_cons (by simp)).mp hactivated
          obtain ⟨h, hpos⟩ := run_supervises hrun
          rw [Promised, starts, fitsInt_cons]
          constructor
          · rintro ⟨hcycle, hearlier⟩
            obtain ⟨hexact, hfits⟩ := (ih hactivated).mp hearlier
            obtain ⟨hexact', hfits'⟩ :=
              (promisedAt_iff h hpos hactivated hexact hfits nav steady now).mp hcycle
            exact ⟨hexact', hfits', hfits⟩
          · rintro ⟨hexact, hcycle, hfits⟩
            have hearlier := List.IsChain.tail hexact
            exact ⟨(promisedAt_iff h hpos hactivated hearlier hfits nav steady now).mpr
              ⟨hexact, hcycle⟩, (ih hactivated).mpr ⟨hearlier, hfits⟩⟩

def safetyParams (maxLateCycles : Int) : SafetyParameters where
  mode := true
  plcMaxLinearVel := .fin 1
  plcMaxAngularVel := .fin 1
  heartbeatPeriod := .fin (1 / 10)
  statusTimeout := .fin (1 / 2)
  maxLateCycles := maxLateCycles

def safetySupervisor (maxLateCycles : Int) : SafetySupervisor :=
  (({} : SafetySupervisor).checkSystem "system_node" (safetyParams maxLateCycles) {}).1

theorem safetySupervisor_start {maxLateCycles : Int}
    (haccepted : (({} : SafetySupervisor).checkSystem "system_node"
      (safetyParams maxLateCycles) {}).2 = true) :
    Start (safetyParams maxLateCycles) 200 2 (safetySupervisor maxLateCycles) :=
  ⟨rfl, by norm_num, rfl, {}, "system_node", {}, haccepted, rfl⟩

def cycleAt (steady : Time) : Event := .cycle {} steady steady

/-- Two cycles in a row are late, which is an error and stops the robot. -/
theorem promised_iff_fitsInt_two :
    let activated := step (safetySupervisor 2) .activate
    let started := step activated (cycleAt 0)
    let late := step started (cycleAt 30000000)
    Promised (safetyParams 2) (1 / 200 * 2)
        [(late, cycleAt 60000000), (started, cycleAt 30000000), (activated, cycleAt 0),
          (safetySupervisor 2, .activate)] ∧
      (late.cycleRt {} 60000000 60000000).1 = false := by
  have hstart : Run step (Start (safetyParams 2) 200 2) (safetySupervisor 2) [] :=
    .init (safetySupervisor_start (by decide +kernel))
  have hrun := (((hstart.next .activate).next (cycleAt 0)).next (cycleAt 30000000)).next
    (cycleAt 60000000)
  refine ⟨(promised_iff_fitsInt hrun ⟨(safetySupervisor 2, .activate), by simp, rfl⟩).mpr
    ⟨?_, ?_⟩, by decide +kernel⟩
  · unfold ComparedExactly
    decide +kernel
  have hfits : ∀ inARow : Nat, inARow ≤ 2 → CountFits 2 inARow :=
    fun inARow hle => ⟨by omega, Or.inl (by norm_num)⟩
  simp only [cycleAt, starts, fitsInt_cons]
  refine ⟨hfits _ (by decide +kernel), hfits _ (by decide +kernel), hfits _ (by decide +kernel),
    fun upTo hsuffix hne => absurd (List.suffix_nil.mp hsuffix) hne⟩

/-- With 2^31 the first cycle since the activation is an error, and stops the robot. -/
theorem not_promised_at_boundary :
    let activated := step (safetySupervisor 2147483648) .activate
    let past := [(activated, cycleAt 0), (safetySupervisor 2147483648, .activate)]
    (∃ supervisor, Run step (Start (safetyParams 2147483648) 200 2) supervisor past) ∧
      lateInARow (IsLate (1 / 200 * 2)) (starts past) = 0 ∧
      (activated.cycleRt {} 0 0).1 = false ∧
      ¬ Promised (safetyParams 2147483648) (1 / 200 * 2) past := by
  have hstart : Run step (Start (safetyParams 2147483648) 200 2) (safetySupervisor 2147483648)
      [] := .init (safetySupervisor_start (by decide +kernel))
  refine ⟨⟨_, (hstart.next .activate).next (cycleAt 0)⟩, rfl, by decide +kernel, ?_⟩
  rintro ⟨hcycle, -⟩
  exact absurd hcycle.status (by decide +kernel)

end Runs

end EasyNav.CycleLateness
