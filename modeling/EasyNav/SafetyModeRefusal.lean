import EasyNav.ProcessExit

namespace EasyNav.SafetyModeRefusal

open EasyNav.CommandPublication.ControllerNode
open EasyNav.Lifecycle
open EasyNav.CommandFreshness
open EasyNav.SystemMain
open EasyNav.RobotAtExit
open EasyNav.ProcessExit
open EasyNav.Runs

/-- The real-time thread got no real-time priority, which safety mode requires. -/
def Refused (p : Process) (error : String) : Prop :=
  p.safetyMode = true ∧ p.rtSetup = some error ∧ error ≠ ""

def refusal (error : String) : String := "[safety.mode] no real-time scheduling: " ++ error

/-- No real-time cycle has run, nor will before the real-time thread gets its priority. -/
def Unmoved (p : Process) : Prop :=
  p.rtThread = .notStarted ∨ p.rtThread = .settingUp ∨ ∃ error, Refused p error

def Motionless (p : Process) : Prop :=
  AtStandstill p.node.data.world.controller ∧ ∀ cmd ∈ p.delivered, cmd.twist = {}

/-- A shutdown was requested for this reason before `main` looked at the real-time thread. -/
def RequestedBefore (past : List (Process × Input)) (reason : Option String) : Prop :=
  ∃ q ∈ past, q.1.main = .waitingForRt ∧ q.1.node.data.isShutdownRequested = true ∧
    reason = q.1.node.data.shutdownReason

/-- Why EasyNav ends, as a shutdown was requested for the refusal. -/
def EndsFor (past : List (Process × Input)) (error : String) (reason : Option String) : Prop :=
  reason = some (refusal error) ∨ RequestedBefore past reason

/-- What `main` knows of the refusal at each point. -/
def Cause (past : List (Process × Input)) (p : Process) : MainPhase → Prop
  | .configuring | .configured | .activating | .activated | .waitingForRt | .killed => True
  | .cycling | .reconfiguring | .spinning => ∀ error, ¬ Refused p error
  | _ => ∀ error, Refused p error → EndsFor past error p.node.data.shutdownReason

structure Refusing (past : List (Process × Input)) (p : Process) : Prop where
  unset : p.rtThread = .notStarted ∨ p.rtThread = .settingUp → p.rtSetup = none
  waiting : p.rtThread = .settingUp → p.main = .waitingForRt ∨ p.main = .killed
  finished : ∀ error, Refused p error → p.rtThread = .finished
  motionless : Unmoved p → Motionless p
  cause : Cause past p p.main

section Steps

variable {p : Process} {past : List (Process × Input)}

theorem EndsFor.requested {error : String} {reason : Option String}
    (h : EndsFor past error reason) : reason.isSome = true := by
  rcases h with rfl | ⟨q, -, -, hrequested, rfl⟩
  · rfl
  · exact hrequested

theorem EndsFor.mono {past' : List (Process × Input)} (hsubset : past ⊆ past') {error : String}
    {reason : Option String} (h : EndsFor past error reason) : EndsFor past' error reason := by
  refine h.imp_right ?_
  rintro ⟨q, hq, hbefore⟩
  exact ⟨q, hsubset hq, hbefore⟩

theorem Refusing.mono {past' : List (Process × Input)} (hsubset : past ⊆ past')
    (h : Refusing past p) : Refusing past' p := by
  refine ⟨h.unset, h.waiting, h.finished, h.motionless, ?_⟩
  have hcause := h.cause
  cases hmain : p.main with
  | configuring | configured | activating | activated | waitingForRt | killed => trivial
  | cycling | reconfiguring | spinning =>
      rw [hmain] at hcause
      exact hcause
  | _ =>
      rw [hmain] at hcause
      exact fun error herror => (hcause error herror).mono hsubset

theorem Motionless.setNode (h : Motionless p) {node : Node}
    (hnode : AtStandstill node.data.world.controller) : Motionless (p.setNode node) := by
  refine ⟨hnode, ?_⟩
  rw [Process.setNode]
  dsimp only
  split
  · exact hnode.published
  · exact h.2

theorem Motionless.goto (h : Motionless p) (main : MainPhase) :
    Motionless { p with main := main } := h

theorem Motionless.perform (h : Motionless p) {events : List Event}
    (hevents : ∀ e ∈ events, moves e = false) : Motionless (p.perform events) := by
  apply h.setNode
  exact foldl_induction (motive := fun node : Node => AtStandstill node.data.world.controller)
    (fun _ _ h he => standstill_step h he) h.1 hevents

theorem Motionless.transition (h : Motionless p) (transition : Transition) (turn : TransitionTurn) :
    Motionless (p.perform (turn.events (.transition transition))) :=
  h.perform (moves_events turn rfl)

theorem not_refused_of_unset (hunset : p.rtSetup = none) (error : String) :
    ¬ Refused p error := by
  rintro ⟨-, hset, -⟩
  rw [hunset] at hset
  cases hset

/-- What the real-time thread has come to stays as it is while another one goes on. -/
theorem Refusing.advance (h : Refusing past p) {p' : Process} (hrt : p'.rtThread = p.rtThread)
    (hsetup : p'.rtSetup = p.rtSetup) (hmode : p'.safetyMode = p.safetyMode)
    (hmotionless : Motionless p → Motionless p')
    (hwaiting : p.rtThread = .settingUp → p'.main = .waitingForRt ∨ p'.main = .killed)
    (hcause : (∀ error, Refused p' error ↔ Refused p error) → Cause past p' p'.main) :
    Refusing past p' := by
  have hrefused : ∀ error, Refused p' error ↔ Refused p error := by
    intro error
    rw [Refused, Refused, hsetup, hmode]
  have hunmoved : Unmoved p' ↔ Unmoved p := by
    simp only [Unmoved, hrefused, hrt]
  refine ⟨?_, ?_, ?_, ?_, hcause hrefused⟩
  · rw [hrt, hsetup]
    exact h.unset
  · rw [hrt]
    exact hwaiting
  · intro error herror
    rw [hrt]
    exact h.finished error ((hrefused error).mp herror)
  · exact fun hunmoved' => hmotionless (h.motionless (hunmoved.mp hunmoved'))

theorem Refusing.congr (h : Refusing past p) {p' : Process} (hnode : p'.node = p.node)
    (hdelivered : p'.delivered = p.delivered) (hrt : p'.rtThread = p.rtThread)
    (hsetup : p'.rtSetup = p.rtSetup) (hmode : p'.safetyMode = p.safetyMode)
    (hmain : p'.main = p.main ∨ p'.main = .killed) : Refusing past p' := by
  refine h.advance hrt hsetup hmode ?_ ?_ ?_
  · rw [Motionless, Motionless, hnode, hdelivered]
    exact id
  · intro hsetting
    rcases hmain with hmain | hmain
    · rw [hmain]
      exact h.waiting hsetting
    · exact Or.inr hmain
  · intro hrefused
    rcases hmain with hmain | hmain
    · have hcause := h.cause
      rw [hmain]
      revert hcause
      cases p.main <;> simp only [Cause, hrefused, hnode] <;> exact id
    · rw [hmain]
      trivial

/-- Where the real-time thread runs its loop, nothing was refused. -/
theorem Refusing.looping (h : Refusing past p)
    (hrt : p.rtThread ≠ .notStarted ∧ p.rtThread ≠ .settingUp ∧ p.rtThread ≠ .finished)
    {p' : Process} (hrt' : p'.rtThread ≠ .notStarted ∧ p'.rtThread ≠ .settingUp)
    (hsetup : p'.rtSetup = p.rtSetup) (hmode : p'.safetyMode = p.safetyMode) :
    Refusing past p' := by
  have hrefused : ∀ error, ¬ Refused p' error := by
    intro error hrefused
    rw [Refused, hsetup, hmode] at hrefused
    exact hrt.2.2 (h.finished error hrefused)
  have hunmoved : ¬ Unmoved p' := by
    rintro (hrt | hrt | ⟨error, herror⟩)
    · exact hrt'.1 hrt
    · exact hrt'.2 hrt
    · exact hrefused error herror
  refine ⟨?_, ?_, ?_, ?_, ?_⟩
  · rintro (hrt | hrt)
    · exact absurd hrt hrt'.1
    · exact absurd hrt hrt'.2
  · exact fun hrt => absurd hrt hrt'.2
  · exact fun error herror => absurd herror (hrefused error)
  · exact fun h => absurd h hunmoved
  · cases p'.main with
    | configuring | configured | activating | activated | waitingForRt | killed => trivial
    | cycling | reconfiguring | spinning => exact hrefused
    | _ => exact fun error herror => absurd herror (hrefused error)

theorem rtStep_refusing (h : Refusing past p) (turn : RtTurn) :
    Refusing past (rtStep p turn) := by
  rw [rtStep]
  cases hrt : p.rtThread with
  | notStarted => exact h
  | finished => exact h
  | settingUp =>
      have hmotionless := h.motionless (Or.inr (Or.inl hrt))
      dsimp only
      set error := if p.useRealTime then turn.setupError else ""
      refine ⟨?_, ?_, ?_, fun _ => hmotionless, ?_⟩
      · dsimp only
        split <;> rintro (hfalse | hfalse) <;> cases hfalse
      · dsimp only
        split <;> intro hfalse <;> cases hfalse
      · rintro error' ⟨hmode, herror, hne⟩
        obtain rfl := Option.some.inj herror
        dsimp only
        exact if_pos ⟨hne, hmode⟩
      · rcases h.waiting hrt with hmain | hmain
        · dsimp only
          rw [hmain]
          trivial
        · dsimp only
          rw [hmain]
          trivial
  | looping =>
      have hlooping : p.rtThread ≠ .notStarted ∧ p.rtThread ≠ .settingUp ∧
          p.rtThread ≠ .finished := by
        rw [hrt]
        decide
      exact h.looping hlooping ⟨ite_ne (by decide) (ite_ne (by decide) (by decide)),
        ite_ne (by decide) (ite_ne (by decide) (by decide))⟩ rfl rfl
  | cycling | spinning =>
      have hlooping : p.rtThread ≠ .notStarted ∧ p.rtThread ≠ .settingUp ∧
          p.rtThread ≠ .finished := by
        rw [hrt]
        decide
      exact h.looping hlooping ⟨RtPhase.noConfusion, RtPhase.noConfusion⟩ rfl rfl

/-- What `main` does besides the real-time thread does not move the robot. -/
theorem mainStep_motionless (h : Motionless p) (turn : MainTurn) :
    Motionless (mainStep p turn) := by
  rw [mainStep]
  cases p.main with
  | configuring => exact h.transition .configure turn.choices
  | configured =>
      dsimp only
      split
      · exact h
      · split
        · exact h
        · split <;> exact h
  | activating => exact h.transition .activate turn.choices
  | activated =>
      dsimp only
      split <;> exact h
  | waitingForRt =>
      dsimp only
      split
      · exact h
      · split
        · exact (h.perform (List.forall_mem_singleton.mpr rfl)).goto _
        · exact h
  | looping =>
      dsimp only
      split
      · exact h
      · split <;> exact h
  | cycling =>
      have hevents : ∀ e ∈ Event.cycle turn.components turn.recovery ::
          turn.requests.map .requestShutdown, moves e = false :=
        List.forall_mem_cons.mpr ⟨rfl, moves_requests turn.requests⟩
      exact (h.perform hevents).goto _
  | reconfiguring =>
      have hnode := applyPendingReconfigure_induction
        (motive := fun node : Node => AtStandstill node.data.world.controller)
        (fun _ _ h he => standstill_step h he) h.1 turn.reconfigure
      exact (h.setNode hnode).goto _
  | spinning =>
      refine (h.perform fun e he => ?_).goto _
      rcases List.mem_append.mp he with he | he
      · obtain ⟨callback, -, he⟩ := List.mem_flatMap.mp he
        exact moves_events callback.2 rfl e he
      · exact moves_requests turn.requests e he
  | stopping => exact h
  | joining =>
      dsimp only
      split <;> exact h
  | deciding =>
      dsimp only
      split <;> exact h
  | deactivating => exact h.transition .deactivate turn.choices
  | destroying leaving => exact (h.setNode (standstill_destroy h.1 turn.choices.toChoices)).goto _
  | shuttingDown => exact h
  | endingWatcher code => exact h
  | posting code => exact h
  | joiningWatcher code =>
      dsimp only
      split <;> exact h
  | closing code => exact h
  | exited code => exact h
  | killed => exact h

theorem starting_refusing (h : Refusing past p) (hrt : p.rtThread = .notStarted)
    (turn : MainTurn) (hmain : p.main = .configuring ∨ p.main = .configured ∨
      p.main = .activating ∨ p.main = .activated) : Refusing past (mainStep p turn) := by
  have hmotionless := mainStep_motionless (h.motionless (Or.inl hrt)) turn
  have hunset := h.unset (Or.inl hrt)
  have hstarting : (mainStep p turn).rtSetup = none ∧
      ((mainStep p turn).rtThread = .notStarted ∨
        (mainStep p turn).rtThread = .settingUp ∧ (mainStep p turn).main = .waitingForRt) := by
    rw [mainStep]
    rcases hmain with hmain | hmain | hmain | hmain
    · rw [hmain]
      exact ⟨hunset, Or.inl hrt⟩
    · rw [hmain]
      dsimp only
      split
      · exact ⟨hunset, Or.inl hrt⟩
      · split
        · exact ⟨hunset, Or.inl hrt⟩
        · split <;> exact ⟨hunset, Or.inl hrt⟩
    · rw [hmain]
      exact ⟨hunset, Or.inl hrt⟩
    · rw [hmain]
      dsimp only
      split
      · exact ⟨hunset, Or.inl hrt⟩
      · exact ⟨hunset, Or.inr ⟨rfl, rfl⟩⟩
  obtain ⟨hunset', hrt'⟩ := hstarting
  have hrefused := not_refused_of_unset hunset'
  refine ⟨fun _ => hunset', ?_, ?_, fun _ => hmotionless, ?_⟩
  · rcases hrt' with hrt' | ⟨-, hwaiting⟩
    · rw [hrt']
      intro hsetting
      cases hsetting
    · exact fun _ => Or.inl hwaiting
  · exact fun error herror => absurd herror (hrefused error)
  · cases (mainStep p turn).main with
    | configuring | configured | activating | activated | waitingForRt | killed => trivial
    | cycling | reconfiguring | spinning => exact hrefused
    | _ => exact fun error herror => absurd herror (hrefused error)

theorem waitingForRt_refusing (h : Refusing past p) {input : Input} (hpast : (p, input) ∈ past)
    (turn : MainTurn) (hmain : p.main = .waitingForRt) : Refusing past (mainStep p turn) := by
  have hmotionless := fun hmotionless : Motionless p => mainStep_motionless hmotionless turn
  rw [mainStep, hmain] at hmotionless ⊢
  dsimp only at hmotionless ⊢
  cases hsetup : p.rtSetup with
  | none => exact h
  | some error =>
      rw [hsetup] at hmotionless
      have hset : p.rtThread ≠ .settingUp := by
        intro hrt
        rw [h.unset (Or.inr hrt)] at hsetup
        cases hsetup
      dsimp only at hmotionless ⊢
      split
      · rename_i hfailed
        rw [if_pos hfailed] at hmotionless
        refine h.advance rfl rfl rfl hmotionless (fun hrt => absurd hrt hset) ?_
        intro hrefused error' herror'
        obtain rfl : error = error' := by
          have herror := ((hrefused error').mp herror').2.1
          rw [hsetup] at herror
          exact Option.some.inj herror
        change EndsFor past error (some (p.node.data.shutdownReason.getD (refusal error)))
        cases hreason : p.node.data.shutdownReason with
        | none => exact Or.inl rfl
        | some reason =>
            refine Or.inr ⟨(p, input), hpast, hmain, ?_, hreason.symm⟩
            rw [SystemLifecycle.SystemData.isShutdownRequested, hreason]
            rfl
      · rename_i hpassed
        rw [if_neg hpassed] at hmotionless
        refine h.advance rfl hsetup.symm rfl hmotionless (fun hrt => absurd hrt hset) ?_
        intro hrefused error' herror'
        obtain ⟨hmode, herror, hne⟩ := (hrefused error').mp herror'
        rw [hsetup] at herror
        obtain rfl := Option.some.inj herror
        exact absurd ⟨hne, hmode⟩ hpassed

theorem running_refusing (h : Refusing past p) (turn : MainTurn)
    (hmain : p.main = .looping ∨ p.main = .cycling ∨ p.main = .reconfiguring ∨
      p.main = .spinning) : Refusing past (mainStep p turn) := by
  have hmotionless := fun hmotionless : Motionless p => mainStep_motionless hmotionless turn
  have hcause := h.cause
  have hset : p.rtThread ≠ .settingUp := by
    intro hrt
    rcases hmain with hmain | hmain | hmain | hmain <;>
      rcases h.waiting hrt with hwaiting | hwaiting <;>
      rw [hmain] at hwaiting <;> cases hwaiting
  rw [mainStep] at hmotionless ⊢
  rcases hmain with hmain | hmain | hmain | hmain
  · rw [hmain] at hcause hmotionless ⊢
    dsimp only at hmotionless ⊢
    split
    · rename_i hending
      rw [if_pos hending] at hmotionless
      refine h.advance rfl rfl rfl hmotionless (fun hrt => absurd hrt hset) ?_
      exact fun hrefused error herror => hcause error ((hrefused error).mp herror)
    · rename_i hending
      rw [if_neg hending] at hmotionless
      have hrequested := (not_or.mp (mt (Bool.or_eq_true _ _).mpr hending)).2
      have hpassed : ∀ error, ¬ Refused p error :=
        fun error herror => hrequested (hcause error herror).requested
      split
      · rename_i hactive
        rw [if_pos hactive] at hmotionless
        refine h.advance rfl rfl rfl hmotionless (fun hrt => absurd hrt hset) ?_
        exact fun hrefused error herror => hpassed error ((hrefused error).mp herror)
      · rename_i hactive
        rw [if_neg hactive] at hmotionless
        refine h.advance rfl rfl rfl hmotionless (fun hrt => absurd hrt hset) ?_
        exact fun hrefused error herror => hpassed error ((hrefused error).mp herror)
  · rw [hmain] at hcause hmotionless ⊢
    refine h.advance rfl rfl rfl hmotionless (fun hrt => absurd hrt hset) ?_
    exact fun hrefused error herror => hcause error ((hrefused error).mp herror)
  · rw [hmain] at hcause hmotionless ⊢
    refine h.advance rfl rfl rfl hmotionless (fun hrt => absurd hrt hset) ?_
    exact fun hrefused error herror => hcause error ((hrefused error).mp herror)
  · rw [hmain] at hcause hmotionless ⊢
    refine h.advance rfl rfl rfl hmotionless (fun hrt => absurd hrt hset) ?_
    exact fun hrefused error herror => absurd ((hrefused error).mp herror) (hcause error)

def Ended (p : Process) : Prop :=
  p.main = .stopping ∨ p.main = .joining ∨ p.main = .deciding ∨ p.main = .deactivating ∨
    (∃ leaving, p.main = .destroying leaving) ∨ p.main = .shuttingDown ∨
      ∃ code, p.main = .endingWatcher code ∨ p.main = .posting code ∨
        p.main = .joiningWatcher code ∨ p.main = .closing code

theorem mainStep_ended (hmain : Ended p)
    (hlatched : p.main = .deactivating → p.node.data.isShutdownRequested = true)
    (turn : MainTurn) :
    (mainStep p turn).rtThread = p.rtThread ∧ (mainStep p turn).rtSetup = p.rtSetup ∧
      (mainStep p turn).safetyMode = p.safetyMode ∧
        (mainStep p turn).node.data.shutdownReason = p.node.data.shutdownReason ∧
          (Cause past (mainStep p turn) .looping →
            Cause past (mainStep p turn) (mainStep p turn).main) := by
  rw [mainStep]
  rcases hmain with hmain | hmain | hmain | hmain | ⟨leaving, hmain⟩ | hmain |
    ⟨code, hmain | hmain | hmain | hmain⟩
  · rw [hmain]
    exact ⟨rfl, rfl, rfl, rfl, id⟩
  · rw [hmain]
    dsimp only
    split
    · exact ⟨rfl, rfl, rfl, rfl, id⟩
    · rw [hmain]
      exact ⟨rfl, rfl, rfl, rfl, id⟩
  · rw [hmain]
    dsimp only
    split <;> exact ⟨rfl, rfl, rfl, rfl, id⟩
  · rw [hmain]
    exact ⟨rfl, rfl, rfl, foldl_shutdownReason (hlatched hmain) _, id⟩
  · rw [hmain]
    dsimp only
    cases leaving <;> exact ⟨rfl, rfl, rfl, destroy_shutdownReason turn.choices.toChoices, id⟩
  · rw [hmain]
    exact ⟨rfl, rfl, rfl, rfl, id⟩
  · rw [hmain]
    exact ⟨rfl, rfl, rfl, rfl, id⟩
  · rw [hmain]
    exact ⟨rfl, rfl, rfl, rfl, id⟩
  · rw [hmain]
    dsimp only
    split
    · exact ⟨rfl, rfl, rfl, rfl, id⟩
    · rw [hmain]
      exact ⟨rfl, rfl, rfl, rfl, id⟩
  · rw [hmain]
    exact ⟨rfl, rfl, rfl, rfl, id⟩

theorem ending_refusing (h : Refusing past p) (hconsistent : Consistent p) (turn : MainTurn)
    (hmain : Ended p) : Refusing past (mainStep p turn) := by
  have hlatched : p.main = .deactivating → p.node.data.isShutdownRequested = true := by
    intro hdeactivating
    have hpoint := hconsistent.point
    rw [hdeactivating] at hpoint
    exact hpoint.2.2.2
  obtain ⟨hrt, hsetup, hmode, hreason, hlater⟩ := mainStep_ended hmain hlatched turn
  have hcause : ∀ error, Refused p error → EndsFor past error p.node.data.shutdownReason := by
    have hcause := h.cause
    rcases hmain with hmain | hmain | hmain | hmain | ⟨leaving, hmain⟩ | hmain |
      ⟨code, hmain | hmain | hmain | hmain⟩ <;> rw [hmain] at hcause <;> exact hcause
  refine h.advance hrt hsetup hmode (fun hmotionless => mainStep_motionless hmotionless turn) ?_ ?_
  · intro hsetting
    rcases hmain with hmain | hmain | hmain | hmain | ⟨leaving, hmain⟩ | hmain |
      ⟨code, hmain | hmain | hmain | hmain⟩ <;> rcases h.waiting hsetting with hother | hother <;>
      rw [hmain] at hother <;> cases hother
  · intro hrefused
    apply hlater
    intro error herror
    rw [hreason]
    exact hcause error ((hrefused error).mp herror)

theorem mainStep_refusing (h : Refusing past p) (hconsistent : Consistent p) {input : Input}
    (hpast : (p, input) ∈ past) (turn : MainTurn) : Refusing past (mainStep p turn) := by
  have hpoint := hconsistent.point
  cases hmain : p.main with
  | configuring =>
      rw [hmain] at hpoint
      exact starting_refusing h hpoint.2.1 turn (Or.inl hmain)
  | configured =>
      rw [hmain] at hpoint
      exact starting_refusing h hpoint.2.1 turn (Or.inr (Or.inl hmain))
  | activating =>
      rw [hmain] at hpoint
      exact starting_refusing h hpoint.2.1 turn (Or.inr (Or.inr (Or.inl hmain)))
  | activated =>
      rw [hmain] at hpoint
      exact starting_refusing h hpoint.2.1 turn (Or.inr (Or.inr (Or.inr hmain)))
  | waitingForRt => exact waitingForRt_refusing h hpast turn hmain
  | looping => exact running_refusing h turn (Or.inl hmain)
  | cycling => exact running_refusing h turn (Or.inr (Or.inl hmain))
  | reconfiguring => exact running_refusing h turn (Or.inr (Or.inr (Or.inl hmain)))
  | spinning => exact running_refusing h turn (Or.inr (Or.inr (Or.inr hmain)))
  | exited code =>
      rw [mainStep, hmain]
      exact h
  | killed =>
      rw [mainStep, hmain]
      exact h
  | _ => exact ending_refusing h hconsistent turn (by simp [Ended, hmain])

theorem step_refusing (h : Refusing past p) (hconsistent : Consistent p) {input : Input}
    (hpast : (p, input) ∈ past) : Refusing past (p.step input) := by
  unfold Process.step
  split
  · exact h
  · cases input with
    | signal nowNs =>
        have hmain : (signalStep p nowNs).main = p.main ∨ (signalStep p nowNs).main = .killed := by
          unfold signalStep
          dsimp only
          split
          · exact Or.inr rfl
          · exact Or.inl rfl
        exact h.congr rfl rfl rfl rfl rfl hmain
    | watcher =>
        change Refusing past (watcherStep p)
        rw [watcherStep]
        split
        · split <;> exact h.congr rfl rfl rfl rfl rfl (Or.inl rfl)
        · exact h.congr rfl rfl rfl rfl rfl (Or.inl rfl)
        · exact h.congr rfl rfl rfl rfl rfl (Or.inl rfl)
        · exact h
    | rt turn => exact rtStep_refusing h turn
    | main turn => exact mainStep_refusing h hconsistent hpast turn

end Steps

section Runs

variable {p : Process} {past : List (Process × Input)}

theorem atStandstill_constructed : AtStandstill constructed.data.world.controller := by
  refine ⟨?_, rfl, by intro cmd hcmd; cases hcmd⟩
  unfold LimitsEnforced
  decide +kernel

theorem refusing_started : Refusing [] {} := by
  have hunset : ({} : Process).rtSetup = none := rfl
  refine ⟨fun _ => hunset, ?_, ?_, ?_, ?_⟩
  · intro hrt
    cases hrt
  · exact fun error herror => absurd herror (not_refused_of_unset hunset error)
  · refine fun _ => ⟨atStandstill_constructed, ?_⟩
    intro cmd hcmd
    cases hcmd
  · trivial

theorem run_refusing (hrun : Run Process.step Started p past) : Refusing past p := by
  induction hrun with
  | init h =>
      obtain rfl := h
      exact refusing_started
  | next hrun input ih =>
      exact step_refusing (ih.mono (List.subset_cons_self _ _)) (run_consistent hrun)
        List.mem_cons_self

/-- In safety mode, without real-time scheduling the robot never moves, and EasyNav ends
with 1 and the reason, unless a mitigation requested a shutdown before. -/
theorem refused_never_moves {error : String} (hrun : Run Process.step Started p past)
    (hsafety : p.safetyMode = true) (hsetup : p.rtSetup = some error) (herror : error ≠ "") :
    p.rtThread = .finished ∧ (∀ cmd ∈ p.delivered, cmd.twist = {}) ∧
      ∀ code, p.main = .exited code →
        code = 1 ∧
          (p.shutdownReason = some ("[safety.mode] no real-time scheduling: " ++ error) ∨
            RequestedBefore past p.shutdownReason) := by
  have hrefusing := run_refusing hrun
  have hrefused : Refused p error := ⟨hsafety, hsetup, herror⟩
  have hfinished := hrefusing.finished error hrefused
  refine ⟨hfinished, (hrefusing.motionless (Or.inr (Or.inr ⟨error, hrefused⟩))).2, ?_⟩
  intro code hmain
  have hcause := hrefusing.cause
  have hpoint := (run_consistent hrun).point
  rw [hmain] at hcause hpoint
  have hreason := hcause error hrefused
  rcases hpoint.2.1 with ⟨hrt, -⟩ | ⟨-, ⟨hsame, -⟩, hcode⟩
  · rw [hfinished] at hrt
    cases hrt
  · have hrequested := hreason.requested
    rw [← hsame] at hreason hrequested
    rw [if_pos hrequested] at hcode
    exact ⟨hcode, hreason⟩

def exampleSafetyTurn : MainTurn where
  choices :=
    { exampleChoices with
      params := { keepalivePeriod := .fin (1 / 10) }
      safety :=
        { mode := true
          plcMaxLinearVel := .fin 10
          plcMaxAngularVel := .fin 10
          heartbeatPeriod := .fin (1 / 10)
          statusTimeout := .fin (1 / 2) } }

def exampleRefused : List Input :=
  List.replicate 4 (.main exampleSafetyTurn) ++
    [.rt { update := exampleUpdate exampleOverride, setupError := "EPERM" }] ++
    List.replicate 10 (.main exampleSafetyTurn) ++ [.watcher, .watcher] ++
    List.replicate 2 (.main exampleSafetyTurn)

theorem refused_never_moves_example :
    (exampleRefused.foldl Process.step {}).main = .exited 1 ∧
      (exampleRefused.foldl Process.step {}).shutdownReason =
          some "[safety.mode] no real-time scheduling: EPERM" ∧
      (exampleRefused.foldl Process.step {}).delivered ≠ [] ∧
      ∀ cmd ∈ (exampleRefused.foldl Process.step {}).delivered, cmd.twist = {} := by
  have hrun : Run Process.step Started {} [] := .init rfl
  have hsetup : (exampleRefused.foldl Process.step {}).rtSetup = some "EPERM" := by
    decide +kernel
  refine ⟨by decide +kernel, by decide +kernel, by decide +kernel, ?_⟩
  exact (refused_never_moves (hrun.foldl exampleRefused) (by decide +kernel) hsetup
    (by decide)).2.1

end Runs

end EasyNav.SafetyModeRefusal
