import EasyNav.Debouncing
import EasyNav.ProcessExit

namespace EasyNav.ProcessTermination

open EasyNav.Debouncing
open EasyNav.SystemMain
open EasyNav.ProcessExit
open EasyNav.Runs

/-- The thread has a step to make: `main` waits for the setup of the real-time thread, for
its end and for the watcher's, and the watcher for the semaphore. -/
def Ready (p : Process) : Input → Bool
  | .signal _ => false
  | .watcher =>
      match p.watcher with
      | .waiting => decide (p.globals.signalSem ≠ 0)
      | .woken | .shuttingDown => true
      | .finished => false
  | .rt _ =>
      match p.rtThread with
      | .notStarted | .finished => false
      | _ => true
  | .main _ =>
      match p.main with
      | .waitingForRt => p.rtSetup.isSome
      | .joining => decide (p.rtThread = .finished)
      | .joiningWatcher _ => decide (p.watcher = .finished)
      | .exited _ | .killed => false
      | _ => true

def Enabled (p : Process) (input : Input) : Bool := !p.over && Ready p input

/-- How many steps the threads have to make to end, at most, once they are to stop. -/
def mainRank : MainPhase → Nat
  | .configuring => 20
  | .configured => 19
  | .activating => 18
  | .activated => 17
  | .waitingForRt => 16
  | .cycling => 15
  | .reconfiguring => 14
  | .spinning => 13
  | .looping => 12
  | .stopping => 11
  | .joining => 10
  | .deciding => 9
  | .deactivating => 8
  | .destroying _ => 7
  | .shuttingDown => 6
  | .endingWatcher _ => 5
  | .posting _ => 4
  | .joiningWatcher _ => 3
  | .closing _ => 2
  | .exited _ | .killed => 0

def rtRank : RtPhase → Nat
  | .notStarted => 5
  | .settingUp => 4
  | .cycling => 3
  | .spinning => 2
  | .looping => 1
  | .finished => 0

def watcherRank : WatcherPhase → Nat
  | .waiting => 3
  | .woken => 2
  | .shuttingDown => 1
  | .finished => 0

def rank (p : Process) : Nat := mainRank p.main + rtRank p.rtThread + watcherRank p.watcher

theorem rank_le (p : Process) : rank p ≤ 28 := by
  have hmain : mainRank p.main ≤ 20 := by cases p.main <;> simp [mainRank]
  have hrt : rtRank p.rtThread ≤ 5 := by cases p.rtThread <;> decide
  have hwatcher : watcherRank p.watcher ≤ 3 := by cases p.watcher <;> decide
  rw [rank]
  omega

def threadSteps : Process → List Input → Nat
  | _, [] => 0
  | p, input :: inputs =>
      (if Enabled p input then 1 else 0) + threadSteps (p.step input) inputs

section Steps

variable {p : Process}

theorem mainStep_of_blocked (turn : MainTurn) (h : Ready p (.main turn) = false) :
    mainStep p turn = p := by
  rw [Ready] at h
  rw [mainStep]
  cases hmain : p.main with
  | waitingForRt =>
      rw [hmain] at h
      rw [Option.isSome_eq_false_iff, Option.isNone_iff_eq_none] at h
      rw [h]
  | joining =>
      rw [hmain] at h
      exact if_neg (of_decide_eq_false h)
  | joiningWatcher code =>
      rw [hmain] at h
      exact if_neg (of_decide_eq_false h)
  | exited code => rfl
  | killed => rfl
  | _ =>
      rw [hmain] at h
      cases h

/-- A step of `main` brings it closer to its end, once it is to stop. -/
theorem mainStep_mainRank (hstop : p.globals.stop = true)
    (hactivated : p.main = .activated → p.rtThread = .notStarted) (turn : MainTurn)
    (h : Ready p (.main turn) = true) :
    mainRank (mainStep p turn).main < mainRank p.main ∧
      (mainStep p turn).watcher = p.watcher ∧
        rtRank (mainStep p turn).rtThread ≤ rtRank p.rtThread := by
  rw [Ready] at h
  rw [mainStep]
  cases hmain : p.main with
  | configuring => exact ⟨show 19 < 20 by decide, rfl, le_rfl⟩
  | configured =>
      dsimp only
      rw [if_pos hstop]
      exact ⟨show 7 < 19 by decide, rfl, le_rfl⟩
  | activating => exact ⟨show 17 < 18 by decide, rfl, le_rfl⟩
  | activated =>
      dsimp only
      split
      · exact ⟨show 7 < 17 by decide, rfl, le_rfl⟩
      · rw [hactivated hmain]
        exact ⟨show 16 < 17 by decide, rfl, show 4 ≤ 5 by decide⟩
  | waitingForRt =>
      rw [hmain] at h
      obtain ⟨error, hsetup⟩ := Option.isSome_iff_exists.mp h
      rw [hsetup]
      dsimp only
      split
      · exact ⟨show 12 < 16 by decide, rfl, le_rfl⟩
      · exact ⟨show 12 < 16 by decide, rfl, le_rfl⟩
  | looping =>
      dsimp only
      rw [hstop, Bool.true_or, if_pos rfl]
      exact ⟨show 11 < 12 by decide, rfl, le_rfl⟩
  | cycling => exact ⟨show 14 < 15 by decide, rfl, le_rfl⟩
  | reconfiguring => exact ⟨show 13 < 14 by decide, rfl, le_rfl⟩
  | spinning => exact ⟨show 12 < 13 by decide, rfl, le_rfl⟩
  | stopping => exact ⟨show 10 < 11 by decide, rfl, le_rfl⟩
  | joining =>
      rw [hmain] at h
      dsimp only
      rw [if_pos (of_decide_eq_true h)]
      exact ⟨show 9 < 10 by decide, rfl, le_rfl⟩
  | deciding =>
      dsimp only
      split
      · exact ⟨show 8 < 9 by decide, rfl, le_rfl⟩
      · exact ⟨show 7 < 9 by decide, rfl, le_rfl⟩
  | deactivating => exact ⟨show 7 < 8 by decide, rfl, le_rfl⟩
  | destroying leaving =>
      cases leaving with
      | returning code => exact ⟨show 5 < 7 by decide, rfl, le_rfl⟩
      | atEnd => exact ⟨show 6 < 7 by decide, rfl, le_rfl⟩
  | shuttingDown => exact ⟨show 5 < 6 by decide, rfl, le_rfl⟩
  | endingWatcher code => exact ⟨show 4 < 5 by decide, rfl, le_rfl⟩
  | posting code => exact ⟨show 3 < 4 by decide, rfl, le_rfl⟩
  | joiningWatcher code =>
      rw [hmain] at h
      dsimp only
      rw [if_pos (of_decide_eq_true h)]
      exact ⟨show 2 < 3 by decide, rfl, le_rfl⟩
  | closing code => exact ⟨show 0 < 2 by decide, rfl, le_rfl⟩
  | exited code =>
      rw [hmain] at h
      cases h
  | killed =>
      rw [hmain] at h
      cases h

theorem rtStep_rtRank (hstop : p.globals.stop = true) (turn : RtTurn) :
    (rtStep p turn).main = p.main ∧ (rtStep p turn).watcher = p.watcher ∧
      (if Ready p (.rt turn) then rtRank (rtStep p turn).rtThread < rtRank p.rtThread
        else rtStep p turn = p) := by
  rw [Ready, rtStep]
  cases hrt : p.rtThread with
  | notStarted => exact ⟨rfl, rfl, rfl⟩
  | finished => exact ⟨rfl, rfl, rfl⟩
  | settingUp =>
      have hle : ∀ (c : Prop) [Decidable c],
          rtRank (if c then .finished else .looping) < 4 := by
        intro c _
        split <;> decide
      exact ⟨rfl, rfl, hle _⟩
  | looping =>
      refine ⟨rfl, rfl, ?_⟩
      dsimp only
      rw [if_pos rfl, if_pos hstop]
      decide
  | cycling => exact ⟨rfl, rfl, show 2 < 3 by decide⟩
  | spinning => exact ⟨rfl, rfl, show 1 < 2 by decide⟩

theorem watcherStep_watcherRank :
    (watcherStep p).main = p.main ∧ (watcherStep p).rtThread = p.rtThread ∧
      (if Ready p .watcher then watcherRank (watcherStep p).watcher < watcherRank p.watcher
        else watcherStep p = p) := by
  rw [Ready, watcherStep]
  cases p.watcher with
  | waiting =>
      by_cases hsem : p.globals.signalSem = 0
      · simp [hsem]
      · simp [hsem, watcherRank]
  | woken =>
      refine ⟨rfl, rfl, ?_⟩
      dsimp only
      rw [if_pos rfl]
      split
      · decide
      · decide
  | shuttingDown => exact ⟨rfl, rfl, show 0 < 1 by decide⟩
  | finished => exact ⟨rfl, rfl, rfl⟩

theorem watcherStep_signals :
    (watcherStep p).globals.signals = p.globals.signals ∧
      (watcherStep p).globals.lastSignalNs = p.globals.lastSignalNs := by
  rw [watcherStep]
  split
  · split <;> exact ⟨rfl, rfl⟩
  · exact ⟨rfl, rfl⟩
  · exact ⟨rfl, rfl⟩
  · exact ⟨rfl, rfl⟩

theorem signalStep_rank (nowNs : Int) : rank (signalStep p nowNs) ≤ rank p := by
  unfold signalStep rank
  dsimp only
  split
  · have hkilled : mainRank .killed = 0 := rfl
    omega
  · exact le_rfl

/-- A thread that is ready makes progress, and no other step takes it back. -/
theorem step_rank (hconsistent : Consistent p) (hstop : p.globals.stop = true) (input : Input) :
    (if Enabled p input then 1 else 0) + rank (p.step input) ≤ rank p := by
  rw [Enabled]
  unfold Process.step
  cases p.over with
  | true => exact (Nat.zero_add _).le
  | false =>
      rw [Bool.not_false, Bool.true_and, if_neg Bool.false_ne_true]
      cases input with
      | signal nowNs => exact (Nat.zero_add _).trans_le (signalStep_rank nowNs)
      | watcher =>
          obtain ⟨hmain, hrt, hrank⟩ := watcherStep_watcherRank (p := p)
          dsimp only
          split at hrank
          · rename_i hready
            rw [if_pos hready, rank, rank, hmain, hrt]
            omega
          · rename_i hready
            rw [if_neg hready, hrank, Nat.zero_add]
      | rt turn =>
          obtain ⟨hmain, hwatcher, hrank⟩ := rtStep_rtRank hstop turn
          dsimp only
          split at hrank
          · rename_i hready
            rw [if_pos hready, rank, rank, hmain, hwatcher]
            omega
          · rename_i hready
            rw [if_neg hready, hrank, Nat.zero_add]
      | main turn =>
          dsimp only
          split
          · rename_i hready
            have hactivated : p.main = .activated → p.rtThread = .notStarted := by
              intro hmain
              have hpoint := hconsistent.point
              rw [hmain] at hpoint
              exact hpoint.2.1
            obtain ⟨hmain, hwatcher, hrt⟩ := mainStep_mainRank hstop hactivated turn hready
            rw [rank, rank, hwatcher]
            omega
          · rename_i hready
            rw [mainStep_of_blocked turn (by simpa using hready), Nat.zero_add]

structure MainMove (p p' : Process) : Prop where
  stop : p.globals.stop = true → p'.globals.stop = true
  signalSem : p.globals.signalSem ≤ p'.globals.signalSem
  watcher : p'.watcher = p.watcher
  rtSetup : p'.rtSetup = p.rtSetup
  rtThread : p'.rtThread = p.rtThread ∨ p'.rtThread = .settingUp
  joining : ∀ code, p'.main = .joiningWatcher code →
    p.main = .joiningWatcher code ∨ p'.globals.signalSem ≠ 0
  signals : p'.globals.signals = p.globals.signals
  lastSignalNs : p'.globals.lastSignalNs = p.globals.lastSignalNs
  killed : p.main ≠ .killed → p'.main ≠ .killed

theorem MainMove.refl (p : Process) : MainMove p p :=
  ⟨id, le_rfl, rfl, rfl, Or.inl rfl, fun _ => Or.inl, rfl, rfl, id⟩

def MainPhase.isElsewhere : MainPhase → Bool
  | .joiningWatcher _ | .killed => false
  | _ => true

theorem MainMove.elsewhere {p p' : Process} (hglobals : p'.globals = p.globals)
    (hwatcher : p'.watcher = p.watcher) (hsetup : p'.rtSetup = p.rtSetup)
    (hrt : p'.rtThread = p.rtThread) (hmain : MainPhase.isElsewhere p'.main = true) :
    MainMove p p' := by
  refine ⟨?_, ?_, hwatcher, hsetup, Or.inl hrt, ?_, ?_, ?_, ?_⟩
  · rw [hglobals]
    exact id
  · rw [hglobals]
  · intro code hjoining
    rw [hjoining] at hmain
    cases hmain
  · rw [hglobals]
  · rw [hglobals]
  · intro _ hkilled
    rw [hkilled] at hmain
    cases hmain

theorem mainStep_move (p : Process) (turn : MainTurn) : MainMove p (mainStep p turn) := by
  rw [mainStep]
  cases hmain : p.main with
  | configured =>
      dsimp only
      split
      · exact .elsewhere rfl rfl rfl rfl rfl
      · split
        · exact .elsewhere rfl rfl rfl rfl rfl
        · split <;> exact .elsewhere rfl rfl rfl rfl rfl
  | activated =>
      dsimp only
      split
      · exact .elsewhere rfl rfl rfl rfl rfl
      · exact { MainMove.refl p with
          rtThread := Or.inr rfl
          joining := fun _ hjoining => by cases hjoining
          killed := fun _ hkilled => by cases hkilled }
  | waitingForRt =>
      dsimp only
      split
      · exact .refl p
      · split <;> exact .elsewhere rfl rfl rfl rfl rfl
  | looping =>
      dsimp only
      split
      · exact .elsewhere rfl rfl rfl rfl rfl
      · split <;> exact .elsewhere rfl rfl rfl rfl rfl
  | stopping =>
      exact { MainMove.refl p with
        stop := fun _ => rfl
        joining := fun _ hjoining => by cases hjoining
        killed := fun _ hkilled => by cases hkilled }
  | joining =>
      dsimp only
      split
      · exact .elsewhere rfl rfl rfl rfl rfl
      · exact .refl p
  | deciding =>
      dsimp only
      split <;> exact .elsewhere rfl rfl rfl rfl rfl
  | destroying leaving =>
      cases leaving <;> exact .elsewhere rfl rfl rfl rfl rfl
  | endingWatcher code =>
      exact { MainMove.refl p with
        joining := fun _ hjoining => by cases hjoining
        killed := fun _ hkilled => by cases hkilled }
  | posting code =>
      exact { MainMove.refl p with
        signalSem := Nat.le_succ _
        joining := fun _ _ => Or.inr (Nat.succ_ne_zero _)
        killed := fun _ hkilled => by cases hkilled }
  | joiningWatcher code =>
      dsimp only
      split
      · exact .elsewhere rfl rfl rfl rfl rfl
      · exact .refl p
  | exited code => exact .refl p
  | killed => exact .refl p
  | _ => exact .elsewhere rfl rfl rfl rfl rfl

theorem step_stop (hstop : p.globals.stop = true) (input : Input) :
    (p.step input).globals.stop = true := by
  unfold Process.step
  split
  · exact hstop
  · cases input with
    | signal nowNs =>
        change (handleShutdownSignal p.globals nowNs).1.stop = true
        rcases handleShutdownSignal_cases p.globals nowNs with heq | ⟨g', heq, -, hstop', -⟩
        · rw [heq]
          exact hstop
        · rw [heq]
          exact hstop'
    | watcher =>
        change (watcherStep p).globals.stop = true
        rw [watcherStep]
        split
        · split <;> exact hstop
        · exact hstop
        · exact hstop
        · exact hstop
    | rt turn =>
        change (rtStep p turn).globals.stop = true
        rcases rtStep_cases p turn with heq | ⟨-, hmove⟩
        · rw [heq]
          exact hstop
        · rw [hmove.globals]
          exact hstop
    | main turn => exact (mainStep_move p turn).stop hstop

theorem threadSteps_le (hconsistent : Consistent p) (hstop : p.globals.stop = true)
    (inputs : List Input) : threadSteps p inputs ≤ rank p := by
  induction inputs generalizing p with
  | nil => exact Nat.zero_le _
  | cons input inputs ih =>
      have hrest := ih (step_consistent hconsistent input) (step_stop hstop input)
      have hstep := step_rank hconsistent hstop input
      rw [threadSteps]
      omega

end Steps

/-- What a thread waits for will come: the real-time thread sets its promise, and the
watcher is posted. -/
structure Unblocked (p : Process) : Prop where
  setup : p.rtSetup = none → p.rtThread = .notStarted ∨ p.rtThread = .settingUp
  watcher : ∀ code, p.main = .joiningWatcher code → p.watcher = .waiting →
    p.globals.signalSem ≠ 0

section Runs

variable {p : Process} {past : List (Process × Input)}

theorem step_unblocked (h : Unblocked p) (input : Input) : Unblocked (p.step input) := by
  unfold Process.step
  split
  · exact h
  · cases input with
    | signal nowNs =>
        change Unblocked (signalStep p nowNs)
        refine ⟨h.setup, ?_⟩
        unfold signalStep
        dsimp only
        rcases handleShutdownSignal_cases p.globals nowNs with heq | ⟨g', heq, -, -, -, hsem⟩
        · rw [heq]
          exact h.watcher
        · rw [heq]
          intro code hmain hwaiting
          split at hmain
          · cases hmain
          · have hposted := h.watcher code hmain hwaiting
            rw [hsem]
            split
            · exact Nat.succ_ne_zero _
            · exact hposted
    | watcher =>
        change Unblocked (watcherStep p)
        rw [watcherStep]
        split
        · split
          · exact h
          · exact ⟨h.setup, fun _ _ hwaiting => by cases hwaiting⟩
        · refine ⟨h.setup, fun _ _ hwaiting => ?_⟩
          dsimp only at hwaiting
          split at hwaiting <;> cases hwaiting
        · exact ⟨h.setup, fun _ _ hwaiting => by cases hwaiting⟩
        · exact h
    | rt turn =>
        change Unblocked (rtStep p turn)
        rcases rtStep_cases p turn with heq | ⟨-, hmove⟩
        · rw [heq]
          exact h
        · refine ⟨?_, ?_⟩
          · rw [rtStep]
            cases hrt : p.rtThread with
            | notStarted => exact h.setup
            | settingUp =>
                intro hunset
                cases hunset
            | finished => exact h.setup
            | looping | cycling | spinning =>
                intro hunset
                rcases h.setup hunset with hstart | hstart <;> rw [hrt] at hstart <;> cases hstart
          · rw [hmove.main, hmove.watcher, hmove.globals]
            exact h.watcher
    | main turn =>
        change Unblocked (mainStep p turn)
        have hmove := mainStep_move p turn
        refine ⟨?_, ?_⟩
        · rw [hmove.rtSetup]
          intro hunset
          rcases hmove.rtThread with hrt | hrt
          · rw [hrt]
            exact h.setup hunset
          · exact Or.inr hrt
        · intro code hmain hwaiting
          rw [hmove.watcher] at hwaiting
          rcases hmove.joining code hmain with hjoining | hposted
          · have hposted := h.watcher code hjoining hwaiting
            have hmore := hmove.signalSem
            omega
          · exact hposted

theorem run_unblocked (hrun : Run Process.step Started p past) : Unblocked p := by
  refine hrun.invariant_of_all (motive := Unblocked) ?_ fun _ input h => step_unblocked h input
  rintro _ rfl
  exact ⟨fun _ => Or.inl rfl, fun _ hjoining => by cases hjoining⟩

/-- Some thread is always ready: `main` waits for what another one will do. -/
theorem run_ready (hrun : Run Process.step Started p past) (hover : p.over = false) :
    Ready p .watcher = true ∨ (∀ turn, Ready p (.rt turn) = true) ∨
      ∀ turn, Ready p (.main turn) = true := by
  obtain ⟨hsetup, hwatcher⟩ := run_unblocked hrun
  have hpoint := (run_consistent hrun).point
  simp only [Ready]
  cases hmain : p.main with
  | waitingForRt =>
      rw [hmain] at hpoint
      cases hset : p.rtSetup with
      | some error => exact Or.inr (Or.inr fun _ => rfl)
      | none =>
          have hrt := (hsetup hset).resolve_left hpoint.2.1
          rw [hrt]
          exact Or.inr (Or.inl fun _ => rfl)
  | joining =>
      rw [hmain] at hpoint
      cases hrt : p.rtThread with
      | notStarted => exact absurd hrt hpoint.2.1
      | finished => exact Or.inr (Or.inr fun _ => rfl)
      | _ => exact Or.inr (Or.inl fun _ => rfl)
  | joiningWatcher code =>
      cases hwaiting : p.watcher with
      | waiting =>
          left
          exact decide_eq_true (hwatcher code hmain hwaiting)
      | woken => exact Or.inl rfl
      | shuttingDown => exact Or.inl rfl
      | finished => exact Or.inr (Or.inr fun _ => rfl)
  | exited code =>
      rw [Process.over, hmain] at hover
      cases hover
  | killed =>
      rw [Process.over, hmain] at hover
      cases hover
  | _ => exact Or.inr (Or.inr fun _ => rfl)

/-- When the signals arrived that were delivered, oldest first. -/
def signalTimes : List (Process × Input) → List Int
  | [] => []
  | (p, .signal nowNs) :: past =>
      if p.over then signalTimes past else signalTimes past ++ [nowNs]
  | _ :: past => signalTimes past

/-- How the handler keeps the time of the last signal that counted. -/
def lastSignal : Option Int → Int
  | none => 0
  | some t => t

structure Counts (p : Process) (times : List Int) : Prop where
  signals : p.globals.signals = (counted kDebounceNs none times).length
  last : p.globals.lastSignalNs = lastSignal (lastCounted kDebounceNs none times)
  killed : p.main = .killed ↔ 3 ≤ p.globals.signals

/-- Once EasyNav is to stop, however its threads are scheduled, they make at most 28 more
steps, and one of them is ready for its next step until EasyNav has ended. -/
theorem stop_terminates (hrun : Run Process.step Started p past)
    (hstop : p.globals.stop = true) :
    (∀ inputs, threadSteps p inputs ≤ 28) ∧
      (p.over = false → Enabled p .watcher = true ∨ (∀ turn, Enabled p (.rt turn) = true) ∨
        ∀ turn, Enabled p (.main turn) = true) := by
  constructor
  · intro inputs
    exact (threadSteps_le (run_consistent hrun) hstop inputs).trans (rank_le p)
  · intro hover
    simp only [Enabled, hover, Bool.not_false, Bool.true_and]
    exact run_ready hrun hover

/-- A time that is not zero tells that a signal counted. -/
theorem ignored_iff {times : List Int} (hpos : ∀ t ∈ times, 0 < t) (nowNs : Int) :
    (lastSignal (lastCounted kDebounceNs none times) ≠ 0 ∧
        nowNs - lastSignal (lastCounted kDebounceNs none times) ≤ kDebounceNs) ↔
      ¬ Due kDebounceNs (lastCounted kDebounceNs none times) nowNs := by
  cases hlast : lastCounted kDebounceNs none times with
  | none => simp [lastSignal, Due]
  | some t =>
      have hmem := (lastCounted_mem hlast).resolve_left fun h => by cases h
      have ht := hpos t hmem
      simp only [lastSignal, Due, Option.mem_def, Option.some.injEq, forall_eq', not_lt]
      exact and_iff_right ht.ne'

theorem signalStep_counts {times : List Int} (h : Counts p times) (hover : p.over = false)
    (hpos : ∀ t ∈ times, 0 < t) (nowNs : Int) :
    Counts (signalStep p nowNs) (times ++ [nowNs]) := by
  obtain ⟨hsignals, hlast, hkilled⟩ := h
  have hignored := ignored_iff hpos nowNs
  have halive : p.main ≠ .killed := by
    intro hmain
    rw [Process.over, hmain] at hover
    cases hover
  have hfew : p.globals.signals < 3 := by
    by_contra hmany
    exact halive (hkilled.mpr (by omega))
  by_cases hdue : Due kDebounceNs (lastCounted kDebounceNs none times) nowNs
  · have hcounted : ¬ (p.globals.lastSignalNs ≠ 0 ∧
        nowNs - p.globals.lastSignalNs ≤ kDebounceNs) := by
      rw [hlast, hignored]
      exact not_not_intro hdue
    refine ⟨?_, ?_, ?_⟩ <;> unfold signalStep handleShutdownSignal <;> rw [if_neg hcounted]
    · rw [counted_append_singleton, if_pos hdue, List.length_append, ← hsignals]
      dsimp only
      split <;> rfl
    · rw [lastCounted_append_singleton, if_pos hdue]
      dsimp only
      split <;> rfl
    · dsimp only
      split
      · rename_i htwo
        dsimp only
        rw [if_neg Bool.false_ne_true, htwo]
        exact iff_of_false halive (by decide)
      · dsimp only
        split
        · rename_i hthree
          exact iff_of_true rfl (of_decide_eq_true hthree)
        · rename_i hthree
          exact iff_of_false halive fun hmany => hthree (decide_eq_true hmany)
  · have hskipped : p.globals.lastSignalNs ≠ 0 ∧
        nowNs - p.globals.lastSignalNs ≤ kDebounceNs := by
      rw [hlast, hignored]
      exact hdue
    have hsame : signalStep p nowNs = p := by
      unfold signalStep handleShutdownSignal
      rw [if_pos hskipped]
      rfl
    rw [hsame]
    refine ⟨?_, ?_, hkilled⟩
    · rw [counted_append_singleton, if_neg hdue, List.append_nil]
      exact hsignals
    · rw [lastCounted_append_singleton, if_neg hdue]
      exact hlast

theorem Counts.congr {p' : Process} {times : List Int} (h : Counts p times)
    (hsignals : p'.globals.signals = p.globals.signals)
    (hlast : p'.globals.lastSignalNs = p.globals.lastSignalNs)
    (hkilled : p.main ≠ .killed → p'.main ≠ .killed) (halive : p.main ≠ .killed) :
    Counts p' times := by
  refine ⟨hsignals.trans h.signals, hlast.trans h.last, ?_⟩
  rw [hsignals, ← h.killed]
  exact iff_of_false (hkilled halive) halive

theorem run_counts (hrun : Run Process.step Started p past)
    (hpos : ∀ t ∈ signalTimes past, 0 < t) : Counts p (signalTimes past) := by
  induction hrun with
  | init h =>
      obtain rfl := h
      exact ⟨rfl, rfl, iff_of_false (fun h => by cases h) (by decide)⟩
  | @next p past hrun input ih =>
      unfold Process.step
      cases hover : p.over with
      | true =>
          have htimes : signalTimes ((p, input) :: past) = signalTimes past := by
            cases input with
            | signal nowNs =>
                rw [signalTimes, if_pos hover]
            | _ => rfl
          rw [htimes] at hpos ⊢
          exact ih hpos
      | false =>
          have halive : p.main ≠ .killed := by
            intro hmain
            rw [Process.over, hmain] at hover
            cases hover
          rw [if_neg Bool.false_ne_true]
          cases input with
          | signal nowNs =>
              have htimes : signalTimes ((p, .signal nowNs) :: past) =
                  signalTimes past ++ [nowNs] := by
                rw [signalTimes, hover]
                rfl
              rw [htimes] at hpos ⊢
              have hpast := fun t ht => hpos t (List.mem_append_left _ ht)
              exact signalStep_counts (ih hpast) hover hpast nowNs
          | watcher =>
              obtain ⟨hsignals, hlast⟩ := watcherStep_signals (p := p)
              refine (ih hpos).congr hsignals hlast ?_ halive
              rw [watcherStep_watcherRank.1]
              exact id
          | rt turn =>
              dsimp only
              rcases rtStep_cases p turn with heq | ⟨-, hmove⟩
              · rw [heq]
                exact ih hpos
              · refine (ih hpos).congr ?_ ?_ ?_ halive
                · rw [hmove.globals]
                · rw [hmove.globals]
                · rw [hmove.main]
                  exact id
          | main turn =>
              have hmove := mainStep_move p turn
              exact (ih hpos).congr hmove.signals hmove.lastSignalNs hmove.killed halive

/-- As many signals count as can be chosen more than a second apart, and the process is
killed exactly if that is three of them. -/
theorem signals_counted (hrun : Run Process.step Started p past)
    (hpos : ∀ t ∈ signalTimes past, 0 < t) (hsorted : (signalTimes past).Pairwise (· ≤ ·)) :
    (∀ n, n ≤ p.globals.signals ↔ ∃ chosen : List Int, chosen.Sublist (signalTimes past) ∧
        Spaced 1000000000 none chosen ∧ chosen.length = n) ∧
      (p.main = .killed ↔ ∃ chosen : List Int, chosen.Sublist (signalTimes past) ∧
        Spaced 1000000000 none chosen ∧ chosen.length = 3) := by
  obtain ⟨hsignals, -, hkilled⟩ := run_counts hrun hpos
  have hcounted : ∀ n, n ≤ p.globals.signals ↔ ∃ chosen : List Int,
      chosen.Sublist (signalTimes past) ∧ Spaced 1000000000 none chosen ∧
        chosen.length = n := by
    intro n
    rw [hsignals]
    exact le_counted_iff hsorted n
  exact ⟨hcounted, hkilled.trans (hcounted 3)⟩

def exampleStopped : List Input := exampleDriven ++ [.signal 1]

theorem stop_terminates_driven :
    (∀ inputs, threadSteps (exampleStopped.foldl Process.step {}) inputs ≤ 28) ∧
      Enabled (exampleStopped.foldl Process.step {}) .watcher = false := by
  have hrun : Run Process.step Started {} [] := .init rfl
  refine ⟨?_, by decide +kernel⟩
  exact (stop_terminates (hrun.foldl exampleStopped) (by decide +kernel)).1

def exampleSignals : List Input :=
  [.signal 1, .signal 500000001, .signal 1500000001, .signal 3000000001]

theorem signals_counted_impatient : (exampleSignals.foldl Process.step {}).main = .killed := by
  have hrun : Run Process.step Started {} [] := .init rfl
  have htimes : signalTimes (history Process.step {} exampleSignals []) =
      [1, 500000001, 1500000001, 3000000001] := by decide +kernel
  refine (signals_counted (hrun.foldl exampleSignals) ?_ ?_).2.mpr
    ⟨[1, 1500000001, 3000000001], ?_, ?_, rfl⟩
  · rw [htimes]
    decide
  · rw [htimes]
    decide
  · rw [htimes]
    decide
  · simp [Spaced, Due]

end Runs

end EasyNav.ProcessTermination
