import EasyNav.RobotAtExit

namespace EasyNav.ProcessExit

open EasyNav.NavigationState
open EasyNav.SystemLifecycle.SystemData
open EasyNav.CommandFreshness
open EasyNav.SystemMain
open EasyNav.RobotAtExit
open EasyNav.Runs

/-- The nodes exist, and the watcher was not told to end. -/
def Serving (p : Process) : Prop :=
  Halting p.node ∧ p.globals.watcherDone = false ∧
    (p.globals.signals < 2 → p.contextValid = true)

/-- The loops are to end: a signal was counted, or a shutdown requested. -/
def Ending (p : Process) : Prop :=
  1 ≤ p.globals.signals ∨ p.node.data.isShutdownRequested = true

/-- `main` has taken why it ends: the reason of the shutdown requested, or else a signal. -/
def Decided (p : Process) : Prop :=
  p.shutdownReason = p.node.data.shutdownReason ∧
    (p.shutdownReason = none → 1 ≤ p.globals.signals)

/-- The robot is stopped, unless a second signal cut `main` off. -/
def RobotStopped (p : Process) : Prop := p.globals.signals < 2 → LastZero p.delivered

/-- An exit without the loops, or after them. -/
def Outcome (p : Process) (code : Nat) : Prop :=
  p.rtThread = .notStarted ∧ (code = 0 ∧ 1 ≤ p.globals.signals ∨ code = 1) ∨
    p.rtThread = .finished ∧ Decided p ∧ code = if p.shutdownReason.isSome then 1 else 0

def Point (p : Process) : MainPhase → Prop
  | .configuring | .configured | .activating | .activated =>
      Serving p ∧ p.rtThread = .notStarted ∧ p.shutdownReason = none ∧
        (p.globals.stop = true → 1 ≤ p.globals.signals)
  | .waitingForRt | .looping | .cycling | .reconfiguring | .spinning =>
      Serving p ∧ p.rtThread ≠ .notStarted ∧ p.shutdownReason = none ∧
        (p.globals.stop = true → 1 ≤ p.globals.signals)
  | .stopping | .joining =>
      Serving p ∧ p.rtThread ≠ .notStarted ∧ p.shutdownReason = none ∧ Ending p
  | .deciding => Serving p ∧ p.rtThread = .finished ∧ p.shutdownReason = none ∧ Ending p
  | .deactivating =>
      Serving p ∧ p.rtThread = .finished ∧ Decided p ∧ p.node.data.isShutdownRequested = true
  | .destroying .atEnd => Serving p ∧ p.rtThread = .finished ∧ Decided p
  | .destroying (.returning code) =>
      Serving p ∧ p.rtThread = .notStarted ∧ (code = 0 ∧ 1 ≤ p.globals.signals ∨ code = 1)
  | .shuttingDown => RobotStopped p ∧ p.rtThread = .finished ∧ Decided p
  | .endingWatcher code => RobotStopped p ∧ Outcome p code
  | .posting code | .joiningWatcher code | .closing code | .exited code =>
      RobotStopped p ∧ Outcome p code ∧ p.globals.watcherDone = true
  | .killed => True

structure Consistent (p : Process) : Prop where
  delivered : p.contextValid = true → p.delivered = p.published
  quiet : p.globals.signals < 2 → p.watcher ≠ .shuttingDown ∧
    (p.globals.watcherDone = false → p.globals.signalSem = 0 ∧ p.watcher = .waiting)
  point : Point p p.main

/-- What no thread takes back: signals are counted, and nothing of `main` changes. -/
structure Undisturbed (p p' : Process) : Prop where
  node : p'.node = p.node
  delivered : p'.delivered = p.delivered
  shutdownReason : p'.shutdownReason = p.shutdownReason
  rtThread : p'.rtThread = p.rtThread
  watcherDone : p'.globals.watcherDone = p.globals.watcherDone
  signals : p.globals.signals ≤ p'.globals.signals
  stop : p'.globals.stop = true → p.globals.stop = true ∨ 1 ≤ p'.globals.signals
  contextValid : p'.globals.signals < 2 → p.contextValid = true → p'.contextValid = true

section Interference

variable {p p' : Process}

theorem Serving.undisturbed (h : Serving p) (hsame : Undisturbed p p') : Serving p' := by
  obtain ⟨hhalting, hdone, hvalid⟩ := h
  rw [Serving, hsame.node, hsame.watcherDone]
  refine ⟨hhalting, hdone, fun hsignals => ?_⟩
  exact hsame.contextValid hsignals (hvalid (hsame.signals.trans_lt hsignals))

theorem Ending.undisturbed (h : Ending p) (hsame : Undisturbed p p') : Ending p' := by
  rw [Ending, hsame.node]
  exact h.imp_left fun hsignals => hsignals.trans hsame.signals

theorem Decided.undisturbed (h : Decided p) (hsame : Undisturbed p p') : Decided p' := by
  rw [Decided, hsame.node, hsame.shutdownReason]
  exact ⟨h.1, fun hnone => (h.2 hnone).trans hsame.signals⟩

theorem RobotStopped.undisturbed (h : RobotStopped p) (hsame : Undisturbed p p') :
    RobotStopped p' := by
  intro hsignals
  rw [hsame.delivered]
  exact h (hsame.signals.trans_lt hsignals)

theorem Outcome.undisturbed {code : Nat} (h : Outcome p code) (hsame : Undisturbed p p') :
    Outcome p' code := by
  rw [Outcome, hsame.rtThread, hsame.shutdownReason]
  rcases h with ⟨hrt, hcode⟩ | ⟨hrt, hdecided, hcode⟩
  · left
    exact ⟨hrt, hcode.imp_left fun hsignals => ⟨hsignals.1, hsignals.2.trans hsame.signals⟩⟩
  · exact Or.inr ⟨hrt, hdecided.undisturbed hsame, hcode⟩

theorem Point.undisturbed {main : MainPhase} (h : Point p main) (hsame : Undisturbed p p') :
    Point p' main := by
  have hstop : (p.globals.stop = true → 1 ≤ p.globals.signals) →
      p'.globals.stop = true → 1 ≤ p'.globals.signals := by
    intro hcounted hstop
    rcases hsame.stop hstop with hstop | hsignals
    · exact (hcounted hstop).trans hsame.signals
    · exact hsignals
  have hrt := hsame.rtThread
  have hreason := hsame.shutdownReason
  cases main with
  | destroying leaving =>
      cases leaving with
      | returning code =>
          obtain ⟨hserving, hrt', hcode⟩ := h
          refine ⟨hserving.undisturbed hsame, hrt.trans hrt', ?_⟩
          exact hcode.imp_left fun hzero => ⟨hzero.1, hzero.2.trans hsame.signals⟩
      | atEnd => exact ⟨h.1.undisturbed hsame, hrt.trans h.2.1, h.2.2.undisturbed hsame⟩
  | deactivating =>
      obtain ⟨hserving, hrt', hdecided, hrequested⟩ := h
      refine ⟨hserving.undisturbed hsame, hrt.trans hrt', hdecided.undisturbed hsame, ?_⟩
      rw [hsame.node]
      exact hrequested
  | deciding =>
      obtain ⟨hserving, hrt', hnone, hending⟩ := h
      exact ⟨hserving.undisturbed hsame, hrt.trans hrt', hreason.trans hnone,
        hending.undisturbed hsame⟩
  | stopping | joining =>
      obtain ⟨hserving, hrt', hnone, hending⟩ := h
      exact ⟨hserving.undisturbed hsame, hrt ▸ hrt', hreason.trans hnone,
        hending.undisturbed hsame⟩
  | shuttingDown => exact ⟨h.1.undisturbed hsame, hrt.trans h.2.1, h.2.2.undisturbed hsame⟩
  | killed => trivial
  | configuring | configured | activating | activated =>
      obtain ⟨hserving, hrt', hnone, hcounted⟩ := h
      exact ⟨hserving.undisturbed hsame, hrt.trans hrt', hreason.trans hnone, hstop hcounted⟩
  | waitingForRt | looping | cycling | reconfiguring | spinning =>
      obtain ⟨hserving, hrt', hnone, hcounted⟩ := h
      exact ⟨hserving.undisturbed hsame, hrt ▸ hrt', hreason.trans hnone, hstop hcounted⟩
  | endingWatcher code => exact ⟨h.1.undisturbed hsame, h.2.undisturbed hsame⟩
  | posting code | joiningWatcher code | closing code | exited code =>
      obtain ⟨hstopped, houtcome, hdone⟩ := h
      exact ⟨hstopped.undisturbed hsame, houtcome.undisturbed hsame,
        hsame.watcherDone.trans hdone⟩

end Interference

theorem handleShutdownSignal_cases (g : Globals) (nowNs : Int) :
    handleShutdownSignal g nowNs = (g, false) ∨
      ∃ g', handleShutdownSignal g nowNs = (g', decide (3 ≤ g'.signals)) ∧
        g'.signals = g.signals + 1 ∧ g'.stop = true ∧ g'.watcherDone = g.watcherDone ∧
          g'.signalSem = if g.signals = 1 then g.signalSem + 1 else g.signalSem := by
  rw [handleShutdownSignal]
  split
  · exact Or.inl rfl
  · right
    dsimp only
    split
    · rename_i htwo
      have hone : g.signals = 1 := by omega
      refine ⟨{ g with
        lastSignalNs := nowNs, signals := g.signals + 1, stop := true
        signalSem := g.signalSem + 1 }, ?_, rfl, rfl, rfl, ?_⟩
      · simp [hone]
      · rw [if_pos hone]
    · rename_i htwo
      have hone : g.signals ≠ 1 := by omega
      refine ⟨_, rfl, rfl, rfl, rfl, ?_⟩
      rw [if_neg hone]

section Steps

variable {p : Process}

theorem signalStep_consistent (h : Consistent p) (nowNs : Int) :
    Consistent (signalStep p nowNs) := by
  obtain ⟨hdelivered, hquiet, hpoint⟩ := h
  rw [signalStep]
  rcases handleShutdownSignal_cases p.globals nowNs with
    heq | ⟨g', heq, hsignals, hstop, hdone, hsem⟩
  · rw [heq]
    exact ⟨hdelivered, hquiet, hpoint⟩
  · rw [heq]
    dsimp only
    have hmore : p.globals.signals ≤ g'.signals := by omega
    have hcounted : 1 ≤ g'.signals := by omega
    refine ⟨hdelivered, ?_, ?_⟩
    · intro hfew
      change g'.signals < 2 at hfew
      obtain ⟨hwatcher, hwaiting⟩ := hquiet (by omega)
      refine ⟨hwatcher, fun hdone' => ?_⟩
      obtain ⟨hempty, hwaits⟩ := hwaiting (hdone.symm.trans hdone')
      refine ⟨?_, hwaits⟩
      dsimp only
      rw [hsem, if_neg (by omega), hempty]
    · split
      · trivial
      · exact hpoint.undisturbed
          ⟨rfl, rfl, rfl, rfl, hdone, hmore, fun _ => Or.inr hcounted, fun _ h => h⟩

theorem watcherStep_consistent (h : Consistent p) : Consistent (watcherStep p) := by
  obtain ⟨hdelivered, hquiet, hpoint⟩ := h
  rw [watcherStep]
  split
  · rename_i hwatcher
    split
    · exact ⟨hdelivered, hquiet, hpoint⟩
    · rename_i hsem
      refine ⟨hdelivered, ?_, ?_⟩
      · intro hfew
        refine ⟨by simp, fun hdone => ?_⟩
        exact absurd ((hquiet hfew).2 hdone).1 hsem
      · exact hpoint.undisturbed ⟨rfl, rfl, rfl, rfl, rfl, le_rfl, Or.inl, fun _ h => h⟩
  · rename_i hwatcher
    refine ⟨hdelivered, ?_, ?_⟩
    · intro hfew
      have hdone : p.globals.watcherDone = true := by
        by_contra hdone
        have hwaits := ((hquiet hfew).2 (by simpa using hdone)).2
        rw [hwatcher] at hwaits
        cases hwaits
      simp [hdone]
    · exact hpoint.undisturbed ⟨rfl, rfl, rfl, rfl, rfl, le_rfl, Or.inl, fun _ h => h⟩
  · rename_i hwatcher
    -- Only a second signal brings the watcher here.
    have hmany : ¬ p.globals.signals < 2 := fun hfew => (hquiet hfew).1 hwatcher
    refine ⟨fun hvalid => Bool.noConfusion hvalid, fun hfew => absurd hfew hmany, ?_⟩
    exact hpoint.undisturbed
      ⟨rfl, rfl, rfl, rfl, rfl, le_rfl, Or.inl, fun hfew => absurd hfew hmany⟩
  · exact ⟨hdelivered, hquiet, hpoint⟩

/-- What a step of the real-time thread leaves of the process. -/
structure RtMove (p p' : Process) : Prop where
  globals : p'.globals = p.globals
  contextValid : p'.contextValid = p.contextValid
  watcher : p'.watcher = p.watcher
  main : p'.main = p.main
  shutdownReason : p'.shutdownReason = p.shutdownReason
  started : p'.rtThread ≠ .notStarted
  halting : Halting p.node → Halting p'.node
  requested : p.node.data.isShutdownRequested = true → p'.node.data.isShutdownRequested = true
  delivered : (p.contextValid = true → p.delivered = p.published) →
    p'.contextValid = true → p'.delivered = p'.published

theorem setNode_delivered (node : Node) (hvalid : p.contextValid = true) :
    (p.setNode node).delivered = node.data.world.controller.published := by
  rw [Process.setNode]
  dsimp only
  rw [if_pos hvalid]

theorem ite_ne {c : Prop} [Decidable c] {a b x : RtPhase} (ha : a ≠ x) (hb : b ≠ x) :
    (if c then a else b) ≠ x := by
  split
  · exact ha
  · exact hb

theorem rtStep_cases (p : Process) (turn : RtTurn) :
    rtStep p turn = p ∨
      (p.rtThread ≠ .notStarted ∧ p.rtThread ≠ .finished) ∧ RtMove p (rtStep p turn) := by
  cases hrt : p.rtThread with
  | notStarted =>
      left
      rw [rtStep, hrt]
  | finished =>
      left
      rw [rtStep, hrt]
  | settingUp =>
      right
      rw [rtStep, hrt]
      exact ⟨by decide, rfl, rfl, rfl, rfl, rfl, ite_ne (by decide) (by decide), id, id, id⟩
  | looping =>
      right
      rw [rtStep, hrt]
      exact ⟨by decide, rfl, rfl, rfl, rfl, rfl,
        ite_ne (by decide) (ite_ne (by decide) (by decide)), id, id, id⟩
  | cycling =>
      right
      rw [rtStep, hrt]
      exact ⟨by decide, rfl, rfl, rfl, rfl, rfl, RtPhase.noConfusion, fun h => halting_foldl h _,
        fun h => requested_foldl h _, fun _ hvalid => setNode_delivered _ hvalid⟩
  | spinning =>
      right
      rw [rtStep, hrt]
      exact ⟨by decide, rfl, rfl, rfl, rfl, rfl, RtPhase.noConfusion, fun h => halting_foldl h _,
        fun h => requested_foldl h _, fun _ hvalid => setNode_delivered _ hvalid⟩

/-- The real-time thread only works while `main` runs the loops or waits for its end. -/
theorem Point.rtMove {p' : Process} {main : MainPhase} (h : Point p main)
    (hworking : p.rtThread ≠ .notStarted ∧ p.rtThread ≠ .finished) (hmove : RtMove p p') :
    Point p' main := by
  have hserving : Serving p → Serving p' := by
    rintro ⟨hhalting, hdone, hvalid⟩
    refine ⟨hmove.halting hhalting, ?_, ?_⟩
    · rw [hmove.globals]
      exact hdone
    · rw [hmove.globals, hmove.contextValid]
      exact hvalid
  have hreason := hmove.shutdownReason
  cases main with
  | configuring | configured | activating | activated => exact absurd h.2.1 hworking.1
  | waitingForRt | looping | cycling | reconfiguring | spinning =>
      obtain ⟨hserves, -, hnone, hcounted⟩ := h
      refine ⟨hserving hserves, hmove.started, hreason.trans hnone, ?_⟩
      rw [hmove.globals]
      exact hcounted
  | stopping | joining =>
      obtain ⟨hserves, -, hnone, hending⟩ := h
      refine ⟨hserving hserves, hmove.started, hreason.trans hnone, ?_⟩
      rw [Ending, hmove.globals]
      exact hending.imp_right hmove.requested
  | deciding | deactivating | shuttingDown => exact absurd h.2.1 hworking.2
  | destroying leaving =>
      cases leaving with
      | returning code => exact absurd h.2.1 hworking.1
      | atEnd => exact absurd h.2.1 hworking.2
  | endingWatcher code =>
      rcases h.2 with ⟨hrt, -⟩ | ⟨hrt, -⟩
      · exact absurd hrt hworking.1
      · exact absurd hrt hworking.2
  | posting code | joiningWatcher code | closing code | exited code =>
      rcases h.2.1 with ⟨hrt, -⟩ | ⟨hrt, -⟩
      · exact absurd hrt hworking.1
      · exact absurd hrt hworking.2
  | killed => trivial

theorem rtStep_consistent (h : Consistent p) (turn : RtTurn) : Consistent (rtStep p turn) := by
  rcases rtStep_cases p turn with heq | ⟨hworking, hmove⟩
  · rw [heq]
    exact h
  · refine ⟨hmove.delivered h.delivered, ?_, ?_⟩
    · rw [hmove.globals, hmove.watcher]
      exact h.quiet
    · rw [hmove.main]
      exact h.point.rtMove hworking hmove

/-- Destroying the nodes stops the robot while the context is valid. -/
theorem Serving.destroyed (h : Serving p) (choices : Choices) :
    RobotStopped (p.setNode (destroy p.node choices)) := by
  obtain ⟨hhalting, -, hvalid⟩ := h
  intro hsignals
  rw [setNode_delivered _ (hvalid hsignals)]
  exact destroy_lastZero hhalting choices

theorem Consistent.goto (h : Consistent p) {main : MainPhase} (hpoint : Point p main) :
    Consistent { p with main := main } := ⟨h.delivered, h.quiet, hpoint⟩

theorem Consistent.gotoWith (h : Consistent p) (node : Node) {main : MainPhase}
    (hpoint : Point (p.setNode node) main) :
    Consistent { p.setNode node with main := main } :=
  ⟨fun hvalid => setNode_delivered (p := p) node hvalid, h.quiet, hpoint⟩

theorem starting_consistent (h : Consistent p) (turn : MainTurn)
    (hmain : p.main = .configuring ∨ p.main = .configured ∨ p.main = .activating ∨
      p.main = .activated) : Consistent (mainStep p turn) := by
  have hstarting : Point p .configuring := by
    have hpoint := h.point
    rcases hmain with hmain | hmain | hmain | hmain <;> rw [hmain] at hpoint <;> exact hpoint
  obtain ⟨hserving, hrt, hnone, hcounted⟩ := hstarting
  rw [mainStep]
  rcases hmain with hmain | hmain | hmain | hmain
  · rw [hmain]
    have hnode := halting_foldl hserving.1 (turn.choices.events (.transition .configure))
    exact h.gotoWith _ ⟨⟨hnode, hserving.2⟩, hrt, hnone, hcounted⟩
  · rw [hmain]
    dsimp only
    split
    · rename_i hstop
      exact h.goto ⟨hserving, hrt, Or.inl ⟨rfl, hcounted hstop⟩⟩
    · split
      · exact h.goto ⟨hserving, hrt, Or.inr rfl⟩
      · split
        · exact ⟨h.delivered, h.quiet, hserving, hrt, Or.inr rfl⟩
        · exact ⟨h.delivered, h.quiet, hserving, hrt, hnone, hcounted⟩
  · rw [hmain]
    have hnode := halting_foldl hserving.1 (turn.choices.events (.transition .activate))
    exact h.gotoWith _ ⟨⟨hnode, hserving.2⟩, hrt, hnone, hcounted⟩
  · rw [hmain]
    dsimp only
    split
    · exact h.goto ⟨hserving, hrt, Or.inr rfl⟩
    · exact ⟨h.delivered, h.quiet, hserving, RtPhase.noConfusion, hnone, hcounted⟩

theorem running_consistent (h : Consistent p) (turn : MainTurn)
    (hmain : p.main = .waitingForRt ∨ p.main = .looping ∨ p.main = .cycling ∨
      p.main = .reconfiguring ∨ p.main = .spinning) : Consistent (mainStep p turn) := by
  have hrunning : Point p .looping := by
    have hpoint := h.point
    rcases hmain with hmain | hmain | hmain | hmain | hmain <;> rw [hmain] at hpoint <;>
      exact hpoint
  obtain ⟨hserving, hrt, hnone, hcounted⟩ := hrunning
  rw [mainStep]
  rcases hmain with hmain | hmain | hmain | hmain | hmain
  · rw [hmain]
    dsimp only
    split
    · exact h
    · split
      · rename_i error _ _
        have hnode := halting_foldl hserving.1
          [.requestShutdown ("[safety.mode] no real-time scheduling: " ++ error)]
        exact h.gotoWith _ ⟨⟨hnode, hserving.2⟩, hrt, hnone, hcounted⟩
      · exact h.goto ⟨hserving, hrt, hnone, hcounted⟩
  · rw [hmain]
    dsimp only
    split
    · rename_i hending
      refine h.goto ⟨hserving, hrt, hnone, ?_⟩
      exact ((Bool.or_eq_true _ _).mp hending).imp_left hcounted
    · split <;> exact h.goto ⟨hserving, hrt, hnone, hcounted⟩
  · rw [hmain]
    have hnode := halting_foldl hserving.1
      (.cycle turn.components turn.recovery :: turn.requests.map .requestShutdown)
    exact h.gotoWith _ ⟨⟨hnode, hserving.2⟩, hrt, hnone, hcounted⟩
  · rw [hmain]
    have hnode := halting_applyPendingReconfigure hserving.1 turn.reconfigure
    exact h.gotoWith _ ⟨⟨hnode, hserving.2⟩, hrt, hnone, hcounted⟩
  · rw [hmain]
    exact h.gotoWith _ ⟨⟨halting_foldl hserving.1 _, hserving.2⟩, hrt, hnone, hcounted⟩

theorem stopping_consistent (h : Consistent p) (turn : MainTurn)
    (hmain : p.main = .stopping ∨ p.main = .joining ∨ p.main = .deciding ∨
      p.main = .deactivating) : Consistent (mainStep p turn) := by
  have hpoint := h.point
  rw [mainStep]
  rcases hmain with hmain | hmain | hmain | hmain
  · rw [hmain] at hpoint ⊢
    obtain ⟨hserving, hrt, hnone, hending⟩ := hpoint
    exact ⟨h.delivered, h.quiet, hserving, hrt, hnone, hending⟩
  · rw [hmain] at hpoint ⊢
    obtain ⟨hserving, -, hnone, hending⟩ := hpoint
    dsimp only
    split
    · rename_i hfinished
      exact h.goto ⟨hserving, hfinished, hnone, hending⟩
    · exact h
  · rw [hmain] at hpoint ⊢
    obtain ⟨hserving, hrt, hnone, hending⟩ := hpoint
    dsimp only
    split
    · rename_i hrequested
      refine ⟨h.delivered, h.quiet, hserving, hrt, ⟨rfl, ?_⟩, hrequested⟩
      intro hreason
      rw [isShutdownRequested] at hrequested
      dsimp only at hreason
      rw [hreason] at hrequested
      cases hrequested
    · rename_i hrequested
      have hreason : p.node.data.shutdownReason = none := by
        simpa [isShutdownRequested] using hrequested
      refine h.goto ⟨hserving, hrt, hnone.trans hreason.symm, fun _ => ?_⟩
      exact hending.resolve_right hrequested
  · rw [hmain] at hpoint ⊢
    obtain ⟨hserving, hrt, ⟨hreason, hcounted⟩, hrequested⟩ := hpoint
    have hnode := halting_foldl hserving.1 (turn.choices.events (.transition .deactivate))
    refine h.gotoWith _ ⟨⟨hnode, hserving.2⟩, hrt, hreason.trans ?_, hcounted⟩
    exact (foldl_shutdownReason hrequested _).symm

theorem leaving_consistent (h : Consistent p) (turn : MainTurn) {leaving : Leaving}
    (hmain : p.main = .destroying leaving) : Consistent (mainStep p turn) := by
  have hpoint := h.point
  rw [mainStep]
  rw [hmain] at hpoint ⊢
  cases leaving with
  | returning code =>
      obtain ⟨hserving, hrt, hcode⟩ := hpoint
      exact h.gotoWith _ ⟨hserving.destroyed turn.choices.toChoices, Or.inl ⟨hrt, hcode⟩⟩
  | atEnd =>
      obtain ⟨hserving, hrt, hreason, hcounted⟩ := hpoint
      refine h.gotoWith _ ⟨hserving.destroyed turn.choices.toChoices, hrt, ?_, hcounted⟩
      exact hreason.trans (destroy_shutdownReason turn.choices.toChoices).symm

theorem closing_consistent (h : Consistent p) (turn : MainTurn)
    (hmain : p.main = .shuttingDown ∨ ∃ code, p.main = .endingWatcher code ∨
      p.main = .posting code ∨ p.main = .joiningWatcher code ∨ p.main = .closing code) :
    Consistent (mainStep p turn) := by
  have hpoint := h.point
  rw [mainStep]
  rcases hmain with hmain | ⟨code, hmain | hmain | hmain | hmain⟩
  · rw [hmain] at hpoint ⊢
    obtain ⟨hstopped, hrt, hdecided⟩ := hpoint
    refine ⟨fun hvalid => Bool.noConfusion hvalid, h.quiet, hstopped, ?_⟩
    exact Or.inr ⟨hrt, hdecided, rfl⟩
  · rw [hmain] at hpoint ⊢
    obtain ⟨hstopped, houtcome⟩ := hpoint
    refine ⟨h.delivered, fun hfew => ⟨(h.quiet hfew).1, ?_⟩, hstopped, houtcome, rfl⟩
    exact fun hdone => Bool.noConfusion hdone
  · rw [hmain] at hpoint ⊢
    obtain ⟨hstopped, houtcome, hdone⟩ := hpoint
    refine ⟨h.delivered, fun hfew => ⟨(h.quiet hfew).1, fun hserving => ?_⟩, hstopped, houtcome,
      hdone⟩
    exact absurd hdone (by rw [hserving]; decide)
  · rw [hmain] at hpoint ⊢
    dsimp only
    split
    · exact h.goto hpoint
    · exact h
  · rw [hmain] at hpoint ⊢
    exact ⟨fun hvalid => Bool.noConfusion hvalid, h.quiet, hpoint⟩

theorem mainStep_consistent (h : Consistent p) (turn : MainTurn) :
    Consistent (mainStep p turn) := by
  cases hmain : p.main with
  | configuring => exact starting_consistent h turn (Or.inl hmain)
  | configured => exact starting_consistent h turn (Or.inr (Or.inl hmain))
  | activating => exact starting_consistent h turn (Or.inr (Or.inr (Or.inl hmain)))
  | activated => exact starting_consistent h turn (Or.inr (Or.inr (Or.inr hmain)))
  | waitingForRt => exact running_consistent h turn (Or.inl hmain)
  | looping => exact running_consistent h turn (Or.inr (Or.inl hmain))
  | cycling => exact running_consistent h turn (Or.inr (Or.inr (Or.inl hmain)))
  | reconfiguring => exact running_consistent h turn (Or.inr (Or.inr (Or.inr (Or.inl hmain))))
  | spinning => exact running_consistent h turn (Or.inr (Or.inr (Or.inr (Or.inr hmain))))
  | stopping => exact stopping_consistent h turn (Or.inl hmain)
  | joining => exact stopping_consistent h turn (Or.inr (Or.inl hmain))
  | deciding => exact stopping_consistent h turn (Or.inr (Or.inr (Or.inl hmain)))
  | deactivating => exact stopping_consistent h turn (Or.inr (Or.inr (Or.inr hmain)))
  | destroying leaving => exact leaving_consistent h turn hmain
  | shuttingDown => exact closing_consistent h turn (Or.inl hmain)
  | endingWatcher code => exact closing_consistent h turn (Or.inr ⟨code, Or.inl hmain⟩)
  | posting code => exact closing_consistent h turn (Or.inr ⟨code, Or.inr (Or.inl hmain)⟩)
  | joiningWatcher code =>
      exact closing_consistent h turn (Or.inr ⟨code, Or.inr (Or.inr (Or.inl hmain))⟩)
  | closing code =>
      exact closing_consistent h turn (Or.inr ⟨code, Or.inr (Or.inr (Or.inr hmain))⟩)
  | exited code =>
      rw [mainStep, hmain]
      exact h
  | killed =>
      rw [mainStep, hmain]
      exact h

theorem step_consistent (h : Consistent p) (input : Input) : Consistent (p.step input) := by
  unfold Process.step
  split
  · exact h
  · cases input with
    | signal nowNs => exact signalStep_consistent h nowNs
    | watcher => exact watcherStep_consistent h
    | rt turn => exact rtStep_consistent h turn
    | main turn => exact mainStep_consistent h turn

end Steps

section Runs

variable {p : Process} {past : List (Process × Input)}

theorem run_consistent (hrun : Run Process.step Started p past) : Consistent p := by
  refine hrun.invariant_of_all (motive := Consistent) ?_ fun _ input h => step_consistent h input
  rintro _ rfl
  refine ⟨fun _ => rfl, fun _ => ⟨by decide, fun _ => ⟨rfl, rfl⟩⟩, ?_⟩
  exact ⟨⟨halting_constructed, rfl, fun _ => rfl⟩, rfl, rfl, fun hstop => Bool.noConfusion hstop⟩

/-- EasyNav leaves no robot moving: unless a second signal cut it off, the last command
delivered before it ends is zero. -/
theorem exit_stops_robot {code : Nat} (hrun : Run Process.step Started p past)
    (hmain : p.main = .exited code) (hsignals : p.globals.signals < 2) :
    ∀ cmd ∈ p.delivered.head?, cmd.twist = {} := by
  have hpoint := (run_consistent hrun).point
  rw [hmain] at hpoint
  exact hpoint.1 hsignals

def exampleTurn : MainTurn where
  choices := { exampleChoices with }

def exampleRtTurn : RtTurn where
  update := exampleUpdate exampleOverride

def exampleDriven : List Input :=
  List.replicate 4 (.main exampleTurn) ++ List.replicate 4 (.rt exampleRtTurn)

def exampleEnded : List Input :=
  exampleDriven ++ [.signal 1, .rt exampleRtTurn] ++ List.replicate 9 (.main exampleTurn) ++
    [.watcher, .watcher] ++ List.replicate 2 (.main exampleTurn)

theorem exit_stops_robot_driven :
    (exampleDriven.foldl Process.step {}).delivered.head?.map TwistStamped.twist =
        some exampleForward.twist ∧
      ∀ cmd ∈ (exampleEnded.foldl Process.step {}).delivered.head?, cmd.twist = {} := by
  have hrun : Run Process.step Started {} [] := .init rfl
  have hmain : (exampleEnded.foldl Process.step {}).main = .exited 0 := by decide +kernel
  exact ⟨by decide +kernel, exit_stops_robot (hrun.foldl exampleEnded) hmain (by decide +kernel)⟩

/-- EasyNav ends with 0 only after a signal. Once its loops were started, it ends with 1
exactly if a shutdown was requested, and prints why. -/
theorem exit_code {code : Nat} (hrun : Run Process.step Started p past)
    (hmain : p.main = .exited code) :
    (code = 0 ∧ 1 ≤ p.globals.signals ∨ code = 1) ∧
      (p.rtThread ≠ .notStarted → p.rtThread = .finished ∧
        p.shutdownReason = p.node.data.shutdownReason ∧
          (code = 1 ↔ p.node.data.isShutdownRequested = true)) := by
  have hpoint := (run_consistent hrun).point
  rw [hmain] at hpoint
  rcases hpoint.2.1 with ⟨hrt, hcode⟩ | ⟨hrt, ⟨hreason, hcounted⟩, hcode⟩
  · exact ⟨hcode, fun hstarted => absurd hrt hstarted⟩
  · rw [isShutdownRequested, ← hreason]
    cases hnone : p.shutdownReason with
    | none =>
        rw [hnone] at hcode
        obtain rfl : code = 0 := hcode
        exact ⟨Or.inl ⟨rfl, hcounted hnone⟩, fun _ => ⟨hrt, rfl, by decide⟩⟩
    | some reason =>
        rw [hnone] at hcode
        obtain rfl : code = 1 := hcode
        exact ⟨Or.inr rfl, fun _ => ⟨hrt, rfl, by simp⟩⟩

def exampleRequest : List Input :=
  List.replicate 4 (.main exampleTurn) ++ [.rt exampleRtTurn, .rt exampleRtTurn] ++
    [.rt { exampleRtTurn with requests := ["lost"] }, .rt exampleRtTurn] ++
    List.replicate 4 (.main exampleTurn) ++ [.rt exampleRtTurn] ++
    List.replicate 7 (.main exampleTurn) ++ [.watcher, .watcher] ++
    List.replicate 2 (.main exampleTurn)

theorem exit_code_requested :
    (exampleRequest.foldl Process.step {}).shutdownReason = some "lost" := by
  have hrun : Run Process.step Started {} [] := .init rfl
  have hmain : (exampleRequest.foldl Process.step {}).main = .exited 1 := by decide +kernel
  obtain ⟨-, hloops⟩ := exit_code (hrun.foldl exampleRequest) hmain
  obtain ⟨-, hreason, -⟩ := hloops (by decide +kernel)
  rw [hreason]
  decide +kernel

end Runs

end EasyNav.ProcessExit
