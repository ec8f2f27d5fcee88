import EasyNav.MissionBookkeeping

namespace EasyNav.FinalInfo

open EasyNav.DoubleArithmetic
open EasyNav.NavigationState
open EasyNav.MissionMessages
open EasyNav.MissionServer
open EasyNav.MissionServer.GoalManager
open EasyNav.MissionInvariant
open EasyNav.MissionBookkeeping
open EasyNav.Runs

section Histories

variable (getYaw : Quaternion → Double)

def infos : GoalManager × Event → List GoalManagerInfo
  | (gm, .operation (.update nav readings)) => (gm.update getYaw nav readings).2.2.info
  | _ => []

def idleInfos (p : GoalManager × Event) : Nat :=
  (infos getYaw p).countP fun info => info.status = .idle

def Accepts (p : GoalManager × Event) : Prop :=
  ∃ msg ∈ (p.1.handle getYaw p.2).2, msg.type = .accept

instance (p : GoalManager × Event) : Decidable (Accepts getYaw p) :=
  inferInstanceAs (Decidable (∃ msg ∈ _, _ = _))

/-- A mission ends, as opposed to being replaced. -/
def Ends (p : GoalManager × Event) : Prop :=
  p.1.state = .active ∧ (step getYaw p.1 p.2).state = .idle

instance (p : GoalManager × Event) : Decidable (Ends getYaw p) :=
  inferInstanceAs (Decidable (_ ∧ _))

def IsUpdate : Event → Prop
  | .operation (.update _ _) => True
  | _ => False

def Subscribed : Event → Prop
  | .operation (.update _ readings) => readings.subscribed = true
  | _ => True

/-- The IDLE infos published from the end of a mission on, until another one is accepted.
What comes later than the end is given newest first. -/
def endInfos (last : GoalManager × Event) : List (GoalManager × Event) → Nat
  | [] => idleInfos getYaw last
  | p :: later =>
      if ∃ q ∈ p :: later, Accepts getYaw q then endInfos last later
      else endInfos last later + idleInfos getYaw p

/-- Every end of a mission is followed by one IDLE info, before any info of a later
mission: by the first update, whether that ends the mission or comes after the end. -/
def EndsAnnounced (past : List (GoalManager × Event)) : Prop :=
  ∀ later last earlier, past = later ++ last :: earlier → Ends getYaw last →
    endInfos getYaw last later ≤ 1 ∧
      ((∃ p ∈ later ++ [last], IsUpdate p.2) → endInfos getYaw last later = 1)

/-- No mission is accepted while the announcement of an end is due. -/
def AcceptsAnnounced (gm : GoalManager) (e : Event) : Prop :=
  Accepts getYaw (gm, e) → gm.state = .idle → gm.infoFinalPending = false

inductive Stepped (gm : GoalManager) (e : Event) : GoalManager → Prop
  | accepted {gm' : GoalManager} (haccepts : Accepts getYaw (gm, e)) (hupdate : ¬ IsUpdate e)
      (hstate : gm'.state = .active) (hpending : gm'.infoFinalPending = true)
      (hinfos : idleInfos getYaw (gm, e) = 0) : Stepped gm e gm'
  | kept {gm' : GoalManager} (haccepts : ¬ Accepts getYaw (gm, e)) (hupdate : ¬ IsUpdate e)
      (hstate : gm.state = .idle → gm'.state = .idle)
      (hpending : gm'.infoFinalPending = gm.infoFinalPending)
      (hinfos : idleInfos getYaw (gm, e) = 0) : Stepped gm e gm'
  | going {gm' : GoalManager} (haccepts : ¬ Accepts getYaw (gm, e))
      (hstate : gm.state = .active) (hstate' : gm'.state = .active)
      (hpending : gm'.infoFinalPending = gm.infoFinalPending)
      (hinfos : idleInfos getYaw (gm, e) = 0) : Stepped gm e gm'
  | closed {gm' : GoalManager} (haccepts : ¬ Accepts getYaw (gm, e))
      (hstate : gm'.state = .idle) (hpending : gm'.infoFinalPending = false)
      (hinfos : idleInfos getYaw (gm, e) = if gm.infoFinalPending then 1 else 0) :
      Stepped gm e gm'

inductive Announcement (gm : GoalManager) (last : GoalManager × Event)
    (later : List (GoalManager × Event)) : Prop
  | due (haccepts : ¬ ∃ p ∈ later, Accepts getYaw p) (hstate : gm.state = .idle)
      (hpending : gm.infoFinalPending = true) (hinfos : endInfos getYaw last later = 0)
      (hupdate : ¬ ∃ p ∈ later ++ [last], IsUpdate p.2) : Announcement gm last later
  | made (haccepts : ¬ ∃ p ∈ later, Accepts getYaw p) (hstate : gm.state = .idle)
      (hpending : gm.infoFinalPending = false) (hinfos : endInfos getYaw last later = 1) :
      Announcement gm last later
  | past (haccepts : ∃ p ∈ later, Accepts getYaw p)
      (hinfos : endInfos getYaw last later = 1) : Announcement gm last later

end Histories

section Control

variable (gm : GoalManager) (msg base : NavigationControl) (readings : ControlReadings)

theorem handleRequest_pending :
    ((gm.handleRequest msg base readings).2.2.type = .accept ∧
        (gm.handleRequest msg base readings).2.1.state = .active ∧
        (gm.handleRequest msg base readings).2.1.infoFinalPending = true) ∨
      (gm.handleRequest msg base readings).1 = [] ∧
        (gm.handleRequest msg base readings).2.2.type = .reject ∧
        (gm.handleRequest msg base readings).2.1 = gm := by
  unfold handleRequest
  split
  · exact Or.inr ⟨rfl, rfl, rfl⟩
  · split
    · exact Or.inl ⟨rfl, rfl, rfl⟩
    · split
      · split
        · exact Or.inl ⟨rfl, rfl, rfl⟩
        · exact Or.inl ⟨rfl, rfl, rfl⟩
      · exact Or.inr ⟨rfl, rfl, rfl⟩

theorem handleCancel_pending :
    (gm.handleCancel msg base).2.type ≠ .accept ∧
      (gm.state = .idle → (gm.handleCancel msg base).1.state = .idle) ∧
      (gm.handleCancel msg base).1.infoFinalPending = gm.infoFinalPending := by
  unfold handleCancel
  split
  · exact ⟨by simp [rejectTo], fun h => h, rfl⟩
  · split
    · exact ⟨by simp [errorTo], fun h => h, rfl⟩
    · exact ⟨by simp, fun _ => rfl, rfl⟩

theorem handlePause_pending :
    (gm.handlePause msg base).2.type ≠ .accept ∧
      (gm.state = .idle → (gm.handlePause msg base).1.state = .idle) ∧
      (gm.handlePause msg base).1.infoFinalPending = gm.infoFinalPending := by
  unfold handlePause
  split
  · exact ⟨by simp [rejectTo], fun h => h, rfl⟩
  · exact ⟨by simp, fun h => h, rfl⟩

theorem handleResume_pending :
    (gm.handleResume msg base).2.type ≠ .accept ∧
      (gm.state = .idle → (gm.handleResume msg base).1.state = .idle) ∧
      (gm.handleResume msg base).1.infoFinalPending = gm.infoFinalPending := by
  unfold handleResume
  split
  · exact ⟨by simp [rejectTo], fun h => h, rfl⟩
  · exact ⟨by simp, fun h => h, rfl⟩

/-- A control message is answered by an acceptance, or keeps what is due. -/
theorem controlCallback_pending :
    ((∃ other ∈ (gm.controlCallback msg readings).2, other.type = .accept) ∧
        (gm.controlCallback msg readings).1.state = .active ∧
        (gm.controlCallback msg readings).1.infoFinalPending = true) ∨
      (¬ ∃ other ∈ (gm.controlCallback msg readings).2, other.type = .accept) ∧
        (gm.state = .idle → (gm.controlCallback msg readings).1.state = .idle) ∧
        (gm.controlCallback msg readings).1.infoFinalPending = gm.infoFinalPending := by
  unfold controlCallback
  split
  · exact Or.inr ⟨by simp, fun h => h, rfl⟩
  · dsimp only
    split
    · rcases handleRequest_pending gm msg (response msg readings.response) readings with
        ⟨htype, hstate, hpending⟩ | ⟨hnotices, htype, hsame⟩
      · exact Or.inl ⟨⟨_, List.mem_append_right _ List.mem_cons_self, htype⟩, hstate, hpending⟩
      · rw [hnotices, hsame]
        exact Or.inr ⟨by simp [htype], fun h => h, rfl⟩
    · obtain ⟨htype, hstate, hpending⟩ :=
        handleCancel_pending gm msg (response msg readings.response)
      exact Or.inr ⟨by simpa using htype, hstate, hpending⟩
    · obtain ⟨htype, hstate, hpending⟩ :=
        handlePause_pending gm msg (response msg readings.response)
      exact Or.inr ⟨by simpa using htype, hstate, hpending⟩
    · obtain ⟨htype, hstate, hpending⟩ :=
        handleResume_pending gm msg (response msg readings.response)
      exact Or.inr ⟨by simpa using htype, hstate, hpending⟩
    · exact Or.inr ⟨by simp [errorTo], fun h => h, rfl⟩

end Control

section Steps

variable {getYaw : Quaternion → Double} {gm : GoalManager}

theorem publishFinalInfo_announces (gm : GoalManager) :
    (gm.publishFinalInfo true).1.infoFinalPending = false ∧
      ((gm.publishFinalInfo true).2.countP fun info => info.status = .idle) =
        if gm.infoFinalPending then 1 else 0 := by
  unfold publishFinalInfo
  cases hpending : gm.infoFinalPending with
  | true => exact ⟨rfl, rfl⟩
  | false => exact ⟨hpending, rfl⟩

theorem update_not_accepts (nav : NavState) (readings : UpdateReadings) :
    ¬ Accepts getYaw (gm, .operation (.update nav readings)) := by
  rintro ⟨msg, hmsg, htype⟩
  change msg ∈ (gm.update getYaw nav readings).2.2.control at hmsg
  have hupdated := gm.update_updated getYaw nav readings
  generalize (gm.update getYaw nav readings).2.2.control = published at hmsg hupdated
  generalize (gm.update getYaw nav readings).1 = gm' at hupdated
  cases hupdated with
  | idle => contradiction
  | waiting => contradiction
  | navigating _ _ hreported =>
      rw [(hreported msg hmsg).1] at htype
      contradiction
  | finished _ _ hreported _ _ _ _ _ hlast =>
      rcases List.mem_append.mp hmsg with hmsg | hmsg
      · rw [(hreported msg hmsg).1] at htype
        contradiction
      · rw [List.mem_singleton.mp hmsg, hlast.1] at htype
        contradiction

theorem idleInfos_update (nav : NavState) (readings : UpdateReadings) :
    idleInfos getYaw (gm, .operation (.update nav readings)) =
      (gm.update getYaw nav readings).2.2.info.countP fun info => info.status = .idle := rfl

theorem idleInfos_of_not_update {e : Event} (h : ¬ IsUpdate e) :
    idleInfos getYaw (gm, e) = 0 := by
  cases e with
  | control msg readings => rfl
  | operation op =>
      cases op with
      | update nav readings => exact absurd trivial h
      | _ => rfl

theorem updateIdle_announces (hidle : gm.state = .idle) (nav : NavState) :
    (gm.updateIdle nav true).1.state = .idle ∧
      (gm.updateIdle nav true).1.infoFinalPending = false ∧
      ((gm.updateIdle nav true).2.2.info.countP fun info => info.status = .idle) =
        if gm.infoFinalPending then 1 else 0 := by
  obtain ⟨hpending, hinfos⟩ := publishFinalInfo_announces gm
  have hstate := (gm.publishFinalInfo_same true).1.state.trans hidle
  unfold updateIdle
  dsimp only
  split
  · exact ⟨hstate, hpending, hinfos⟩
  · exact ⟨hstate, hpending, hinfos⟩

/-- An update that goes beyond the pose announces the end of the mission it ends. -/
theorem updateActive_stepped {nav nav' : NavState} {odom : Odometry} {goal : Pose}
    {readings : UpdateReadings} (hsubscribed : readings.subscribed = true)
    (hactive : gm.state = .active)
    (h : gm.update getYaw nav readings = (noted gm).updateActive getYaw nav' odom goal readings) :
    Stepped getYaw gm (.operation (.update nav readings)) (gm.update getYaw nav readings).1 := by
  have haccepts : ¬ Accepts getYaw (gm, .operation (.update nav readings)) :=
    update_not_accepts nav readings
  have hactive' : (noted gm).state = .active := hactive
  have hkept := progressed_sameBookkeeping (noted gm) getYaw odom goal readings
  by_cases hdone : (progressed (noted gm) getYaw odom goal readings).goals.goals = []
  · obtain ⟨hended, -, hinfo⟩ := updateActive_of_done getYaw nav' hdone
    rw [hsubscribed] at hended hinfo
    obtain ⟨hpending, hinfos⟩ := publishFinalInfo_announces
      { ((progressed (noted gm) getYaw odom goal readings).setFinished readings.finished).1 with
        lastSyncedNavigationState := .idle }
    refine .closed haccepts ?_ ?_ ?_
    · rw [h, hended]
      exact (publishFinalInfo_same _ true).1.state
    · rw [h, hended]
      exact hpending
    · rw [idleInfos_update, h, hinfo, hinfos]
      exact congrArg (fun b : Bool => if b then 1 else 0) hkept.infoFinalPending
  · obtain ⟨hmission, hkept', -, hinfo⟩ := updateActive_of_left getYaw nav' hactive' hdone
    refine .going haccepts hactive ?_ ?_ ?_
    · rw [h, hmission.state, progressed_state]
      exact hactive'
    · rw [h, hkept'.infoFinalPending]
      exact hkept.infoFinalPending
    · rw [idleInfos_update, h, List.countP_eq_zero]
      intro info hmem
      rw [hinfo info hmem]
      decide

theorem update_stepped (nav : NavState) {readings : UpdateReadings}
    (hsubscribed : readings.subscribed = true) :
    Stepped getYaw gm (.operation (.update nav readings)) (gm.update getYaw nav readings).1 := by
  have haccepts : ¬ Accepts getYaw (gm, .operation (.update nav readings)) :=
    update_not_accepts nav readings
  rcases update_cases gm getYaw nav readings with
    ⟨hidle, h⟩ | ⟨hactive, -, h⟩ | ⟨odom, goal, goals, hactive, -, -, h⟩
  · rw [hsubscribed] at h
    have hidle' : (noted gm).state = .idle := hidle
    obtain ⟨hstate, hpending, hinfos⟩ := updateIdle_announces hidle' (synced gm nav).2
    refine .closed haccepts ?_ ?_ ?_
    · rw [h, hstate]
    · rw [h, hpending]
    · rw [idleInfos_update, h, hinfos]
      rfl
  · refine .going haccepts hactive ?_ ?_ ?_
    · rw [h]
      exact hactive
    · rw [h]
      rfl
    · rw [idleInfos_update, h]
      rfl
  · exact updateActive_stepped hsubscribed hactive h

variable {e : Event}

theorem command_stepped {msg : NavigationControl} {readings : ControlReadings}
    (hcommand : gm.command e = some (msg, readings)) (hupdate : ¬ IsUpdate e) :
    Stepped getYaw gm e (step getYaw gm e) := by
  have hhandle : gm.handle getYaw e = gm.controlCallback msg readings :=
    handle_of_command hcommand
  have hinfos : idleInfos getYaw (gm, e) = 0 := idleInfos_of_not_update hupdate
  rcases controlCallback_pending gm msg readings with
    ⟨haccepts, hstate, hpending⟩ | ⟨haccepts, hstate, hpending⟩
  · rw [← hhandle] at haccepts hstate hpending
    exact .accepted haccepts hupdate hstate hpending hinfos
  · rw [← hhandle] at haccepts hstate hpending
    exact .kept haccepts hupdate hstate hpending hinfos

/-- Whatever else is done from outside an update, at most it ends the mission. -/
theorem other_stepped {gm' : GoalManager} {msgs : List NavigationControl}
    (hhandle : gm.handle getYaw e = (gm', msgs)) (hmsgs : ∀ msg ∈ msgs, msg.type ≠ .accept)
    (hstate : gm.state = .idle → gm'.state = .idle)
    (hpending : gm'.infoFinalPending = gm.infoFinalPending) (hupdate : ¬ IsUpdate e) :
    Stepped getYaw gm e (step getYaw gm e) := by
  unfold step
  rw [hhandle]
  refine .kept ?_ hupdate hstate hpending (idleInfos_of_not_update hupdate)
  rintro ⟨msg, hmsg, haccept⟩
  rw [hhandle] at hmsg
  exact hmsgs msg hmsg haccept

theorem setEnded_stepped {type : ControlType} {statusMessage : String} {now : Time}
    (htype : type = .finished ∨ type = .error ∨ type = .failed)
    (hhandle : gm.handle getYaw e = ((gm.setEnded type statusMessage now).1,
      [(gm.setEnded type statusMessage now).2])) (hupdate : ¬ IsUpdate e) :
    Stepped getYaw gm e (step getYaw gm e) := by
  refine other_stepped hhandle ?_ (fun _ => rfl) rfl hupdate
  intro msg hmsg haccept
  rw [List.mem_singleton.mp hmsg] at haccept
  exact (setEnded_isTerminal gm statusMessage now htype).not_isAnswer (Or.inl haccept)

theorem step_stepped (hsubscribed : Subscribed e) :
    Stepped getYaw gm e (step getYaw gm e) := by
  cases e with
  | control msg readings => exact command_stepped rfl not_false
  | operation op =>
      cases op with
      | goalPose pose readings => exact command_stepped rfl not_false
      | setFinished now => exact setEnded_stepped (Or.inl rfl) rfl not_false
      | setError reason now => exact setEnded_stepped (Or.inr (Or.inl rfl)) rfl not_false
      | setFailed reason now => exact setEnded_stepped (Or.inr (Or.inr rfl)) rfl not_false
      | setProgressHeld held => exact other_stepped rfl (by simp) (fun h => h) rfl not_false
      | readParameters params nav => exact other_stepped rfl (by simp) (fun h => h) rfl not_false
      | update nav readings => exact update_stepped nav hsubscribed

end Steps

section Announcements

variable {getYaw : Quaternion → Double} {gm gm' : GoalManager} {e : Event}
  {last : GoalManager × Event} {later : List (GoalManager × Event)}

theorem not_accepts_cons (hlater : ¬ ∃ p ∈ later, Accepts getYaw p)
    (hnot : ¬ Accepts getYaw (gm, e)) : ¬ ∃ p ∈ (gm, e) :: later, Accepts getYaw p := by
  rintro ⟨p, hp, hp'⟩
  rcases List.mem_cons.mp hp with rfl | hp
  · exact hnot hp'
  · exact hlater ⟨p, hp, hp'⟩

theorem endInfos_of_accepts {p : GoalManager × Event}
    (h : ∃ q ∈ p :: later, Accepts getYaw q) :
    endInfos getYaw last (p :: later) = endInfos getYaw last later := by
  rw [endInfos, if_pos h]

theorem endInfos_of_not_accepts {p : GoalManager × Event}
    (h : ¬ ∃ q ∈ p :: later, Accepts getYaw q) :
    endInfos getYaw last (p :: later) = endInfos getYaw last later + idleInfos getYaw p := by
  rw [endInfos, if_neg h]

/-- The mission that ends has its announcement due, or made by the update that ends it. -/
theorem announcement_of_ends (hpending : gm.infoFinalPending = true) (hstate : gm'.state = .idle)
    (h : Stepped getYaw gm e gm') : Announcement getYaw gm' (gm, e) [] := by
  have hnone : ¬ ∃ p ∈ [], Accepts getYaw p := by simp
  cases h with
  | accepted _ _ hactive =>
      rw [hactive] at hstate
      contradiction
  | kept _ hupdate _ hsame hinfos =>
      exact .due hnone hstate (hsame.trans hpending) hinfos (by simpa using hupdate)
  | going _ _ hactive =>
      rw [hactive] at hstate
      contradiction
  | closed _ _ hmade hinfos =>
      rw [hpending] at hinfos
      exact .made hnone hstate hmade hinfos

theorem Announcement.step (h : Announcement getYaw gm last later)
    (hallowed : AcceptsAnnounced getYaw gm e) (hstep : Stepped getYaw gm e gm') :
    Announcement getYaw gm' last ((gm, e) :: later) := by
  cases h with
  | due haccepts hidle hpending hinfos hupdate =>
      have hnone : ¬ Accepts getYaw (gm, e) → ¬ ∃ p ∈ (gm, e) :: later, Accepts getYaw p :=
        not_accepts_cons haccepts
      cases hstep with
      | accepted hnext =>
          have hmade := hallowed hnext hidle
          rw [hpending] at hmade
          contradiction
      | kept hnot hupdate' hstate hsame hnew =>
          refine .due (hnone hnot) (hstate hidle) (hsame.trans hpending) ?_ ?_
          · rw [endInfos_of_not_accepts (hnone hnot), hinfos, hnew]
          · rintro ⟨p, hp, hp'⟩
            rcases List.mem_cons.mp hp with rfl | hp
            · exact hupdate' hp'
            · exact hupdate ⟨p, hp, hp'⟩
      | going _ hactive =>
          rw [hidle] at hactive
          contradiction
      | closed hnot hidle' hmade hnew =>
          refine .made (hnone hnot) hidle' hmade ?_
          rw [endInfos_of_not_accepts (hnone hnot), hinfos, hnew, hpending]
          rfl
  | made haccepts hidle hpending hinfos =>
      have hnone : ¬ Accepts getYaw (gm, e) → ¬ ∃ p ∈ (gm, e) :: later, Accepts getYaw p :=
        not_accepts_cons haccepts
      cases hstep with
      | accepted hnext =>
          have hsome : ∃ p ∈ (gm, e) :: later, Accepts getYaw p :=
            ⟨(gm, e), List.mem_cons_self, hnext⟩
          exact .past hsome ((endInfos_of_accepts hsome).trans hinfos)
      | kept hnot _ hstate hsame hnew =>
          refine .made (hnone hnot) (hstate hidle) (hsame.trans hpending) ?_
          rw [endInfos_of_not_accepts (hnone hnot), hinfos, hnew]
      | going _ hactive =>
          rw [hidle] at hactive
          contradiction
      | closed hnot hidle' hmade hnew =>
          refine .made (hnone hnot) hidle' hmade ?_
          rw [endInfos_of_not_accepts (hnone hnot), hinfos, hnew, hpending]
          rfl
  | past haccepts hinfos =>
      obtain ⟨p, hp, hp'⟩ := haccepts
      have hsome : ∃ p ∈ (gm, e) :: later, Accepts getYaw p :=
        ⟨p, List.mem_cons_of_mem _ hp, hp'⟩
      exact .past hsome ((endInfos_of_accepts hsome).trans hinfos)

/-- What every state of a run keeps, with its history. -/
structure Announcing (getYaw : Quaternion → Double) (gm : GoalManager)
    (past : List (GoalManager × Event)) : Prop where
  pending : gm.state = .active → gm.infoFinalPending = true
  ends : ∀ later last earlier, past = later ++ last :: earlier → Ends getYaw last →
    Announcement getYaw gm last later

theorem Announcing.step {past : List (GoalManager × Event)} (h : Announcing getYaw gm past)
    (hallowed : AcceptsAnnounced getYaw gm e) (hsubscribed : Subscribed e) :
    Announcing getYaw (MissionInvariant.step getYaw gm e) ((gm, e) :: past) := by
  have hstep : Stepped getYaw gm e (MissionInvariant.step getYaw gm e) :=
    step_stepped hsubscribed
  refine ⟨?_, ?_⟩
  · intro hactive
    cases hstep with
    | accepted _ _ _ hpending => exact hpending
    | kept _ _ hstate hpending =>
        rw [hpending]
        refine h.pending (active_of_not_idle ?_)
        intro hidle
        rw [hstate hidle] at hactive
        contradiction
    | going _ hactive' _ hpending => exact hpending.trans (h.pending hactive')
    | closed _ hidle =>
        rw [hidle] at hactive
        contradiction
  · intro later last earlier hpast hends
    cases later with
    | nil =>
        obtain ⟨rfl, -⟩ := List.cons.inj hpast
        exact announcement_of_ends (h.pending hends.1) hends.2 hstep
    | cons p later =>
        obtain ⟨rfl, rfl⟩ := List.cons.inj hpast
        exact (h.ends later last earlier rfl hends).step hallowed hstep

theorem Announcing.endsAnnounced {past : List (GoalManager × Event)}
    (h : Announcing getYaw gm past) : EndsAnnounced getYaw past := by
  intro later last earlier hpast hends
  cases h.ends later last earlier hpast hends with
  | due _ _ _ hinfos hupdate => exact ⟨by rw [hinfos]; decide, fun h => absurd h hupdate⟩
  | made _ _ _ hinfos => exact ⟨by rw [hinfos], fun _ => hinfos⟩
  | past _ hinfos => exact ⟨by rw [hinfos], fun _ => hinfos⟩

end Announcements

/-- As long as no mission is accepted while the announcement of an end is due, each end is
announced once, before any info of a later mission. -/
theorem ends_announced {getYaw : Quaternion → Double} {gm : GoalManager}
    {past : List (GoalManager × Event)} (hrun : Run (step getYaw) Start gm past)
    (hsubscribed : ∀ p ∈ past, Subscribed p.2)
    (hannounced : ∀ p ∈ past, AcceptsAnnounced getYaw p.1 p.2) : EndsAnnounced getYaw past := by
  have h : Announcing getYaw gm past := by
    refine hrun.history_invariant (fun gm e => AcceptsAnnounced getYaw gm e ∧ Subscribed e)
      ?_ ?_ fun p hp => ⟨hannounced p hp, hsubscribed p hp⟩
    · rintro gm ⟨params, nav, rfl⟩
      refine ⟨fun hactive => ?_, fun later last earlier hpast => ?_⟩
      · exact absurd (show MissionState.idle = .active from hactive) (by decide)
      · exact absurd hpast (by simp)
    · intro gm e past h hallowed
      exact h.step hallowed.1 hallowed.2
  exact h.endsAnnounced

def asking (goals : Nat) : Event :=
  .control { userId := "robot", goals := { goals := List.replicate goals {} } } {}

def cancelling : Event := .control { type := .cancel, userId := "robot" } {}

def updating : Event := .operation (.update { robotPose := some {} } { subscribed := true })

def atOrigin : GoalManager → Event → GoalManager := step fun _ => 0

def missions : List Event :=
  [asking 1, cancelling, updating, asking 1, updating, updating, asking 1]

theorem ends_announced_missions :
    let past := history atOrigin (GoalManager.create {} {}).1 missions []
    (past.filter fun p => Ends (fun _ => 0) p).length = 2 ∧
      (past.flatMap (infos fun _ => 0)).map (·.status) = [.idle, .idle] ∧
      EndsAnnounced (fun _ => 0) past := by
  have hstart : Run atOrigin Start (GoalManager.create {} {}).1 [] := .init ⟨{}, {}, rfl⟩
  refine ⟨by decide +kernel, by decide +kernel,
    ends_announced (hstart.foldl missions) ?_ ?_⟩
  · simp [missions, history, asking, updating, cancelling, Subscribed]
  · unfold AcceptsAnnounced
    decide +kernel

/-- A mission that is cancelled, and followed by another one before the next update: the
first info is about the second mission. -/
theorem end_not_announced :
    ∃ gm past, Run atOrigin Start gm past ∧ (∀ p ∈ past, Subscribed p.2) ∧
      (past.filter fun p => Ends (fun _ => 0) p).length = 1 ∧
      (past.flatMap (infos fun _ => 0)).map (·.status) = [.active] ∧
      ¬ EndsAnnounced (fun _ => 0) past := by
  have hstart : Run atOrigin Start (GoalManager.create {} {}).1 [] := .init ⟨{}, {}, rfl⟩
  refine ⟨_, _, hstart.foldl [asking 2, cancelling, asking 2, updating], ?_, by decide +kernel,
    by decide +kernel, ?_⟩
  · simp [history, asking, updating, cancelling, Subscribed]
  · intro h
    have hannounced := (h [_, _] _ [_] rfl (by decide +kernel)).2 ⟨_, List.mem_cons_self, trivial⟩
    revert hannounced
    decide +kernel

end EasyNav.FinalInfo
