import EasyNav.MissionServer

namespace EasyNav.MissionAnnouncements

open EasyNav.DoubleArithmetic
open EasyNav.NavigationState
open EasyNav.MissionMessages
open EasyNav.MissionServer
open EasyNav.MissionServer.GoalManager

def EndsFor (client : String) (msg : NavigationControl) : Prop :=
  msg.IsTerminal ∧ msg.navCurrentUserId = client

/-- One message tells `client` that its mission is over, before any acceptance. -/
def EndAnnounced (client : String) (published : List NavigationControl) : Prop :=
  ∃ before msg after, published = before ++ msg :: after ∧ EndsFor client msg ∧
    (∀ other ∈ before, ¬ EndsFor client other ∧ other.type ≠ .accept) ∧
    ∀ other ∈ after, ¬ EndsFor client other

/-- The manager's own ends of a mission, which nobody else decides on. -/
def CalledWhileActive (gm : GoalManager) : Event → Prop
  | .operation (.setFinished _) | .operation (.setError _ _) | .operation (.setFailed _ _) =>
      gm.state = .active
  | _ => True

/-- The one message but notices of preemption goes to the sender. -/
def AnsweredBy (msg response : NavigationControl) (published : List NavigationControl) : Prop :=
  (published.filter fun msg => ¬ msg.IsPreemptionNotice) = [response] ∧
    response.navCurrentUserId = msg.userId

/-- Every request is answered, and every mission end announced, exactly once. -/
structure Announced (getYaw : Quaternion → Double) (gm : GoalManager) (e : Event) : Prop where
  answered : ∀ msg readings, gm.command e = some (msg, readings) → msg.userId ≠ GoalManager.id →
    ∃ response, AnsweredBy msg response (gm.handle getYaw e).2 ∧
      (msg.seq < Int64.maxValue → response.seq.toInt = msg.seq.toInt + 1)
  ended : ∀ client, gm.Owns client → ¬ (gm.handle getYaw e).1.Owns client →
    EndAnnounced client (gm.handle getYaw e).2
  goesOn : ∀ client, gm.Owns client → (gm.handle getYaw e).1.Owns client →
    (∃ msg ∈ (gm.handle getYaw e).2, EndsFor client msg) →
      ∃ msg readings, gm.command e = some (msg, readings) ∧ ¬ IsKnown msg.type

section Control

variable {gm gm' : GoalManager} {msg response : NavigationControl} {readings : ControlReadings}
  {notices : List NavigationControl}

theorem response_not_isPreemptionNotice (h : Handled gm msg readings notices gm' response) :
    ¬ response.IsPreemptionNotice := by
  rintro ⟨htype, hstatus⟩
  cases h with
  | accepted _ _ hresponse => simp [htype] at hresponse
  | refused _ hresponse => exact absurd (htype.symm.trans hresponse.1) (by decide)
  | cancelled _ _ _ hcancelled =>
      rw [hcancelled] at hstatus
      exact absurd hstatus (by decide)
  | reported _ hresponse =>
      exact NavigationControl.IsTerminal.not_isReport (Or.inr (Or.inr (Or.inr htype))) hresponse
  | declined _ _ hresponse => simp [htype] at hresponse
  | unknown _ hresponse => simp [htype] at hresponse

/-- A notice of preemption goes to the owner that another client replaces. -/
theorem notices_cases (h : Handled gm msg readings notices gm' response) :
    notices = [] ∨
      ∃ notice, notices = [notice] ∧ notice.IsPreemptionNotice ∧
        gm.state = .active ∧ notice.navCurrentUserId = gm.currentClientId ∧
          gm.currentClientId ≠ msg.userId ∧ gm'.currentClientId = msg.userId ∧
            response.type = .accept := by
  cases h with
  | accepted _ _ hresponse howns _ hnotices =>
      split at hnotices
      · rename_i hpreempts
        exact Or.inr ⟨_, hnotices, ⟨rfl, rfl⟩, hpreempts.1, rfl, hpreempts.2.symm, howns.2,
          hresponse⟩
      · exact Or.inl hnotices
  | _ => exact Or.inl rfl

theorem control_answered (h : Handled gm msg readings notices gm' response)
    (hresponse : IsResponse msg response) :
    ∃ answer, AnsweredBy msg answer (notices ++ [response]) ∧
      (msg.seq < Int64.maxValue → answer.seq.toInt = msg.seq.toInt + 1) := by
  refine ⟨response, ⟨?_, hresponse.navCurrentUserId⟩, ?_⟩
  case refine_2 =>
    intro hseq
    rw [hresponse.seq]
    exact toInt_add_one hseq
  have hkept := response_not_isPreemptionNotice h
  rcases notices_cases h with rfl | ⟨notice, rfl, hnotice, -⟩
  · simp [hkept]
  · simp [hkept, hnotice]

theorem control_ended (h : Handled gm msg readings notices gm' response)
    (hresponse : IsResponse msg response) {client : String} (howns : gm.Owns client)
    (hended : ¬ gm'.Owns client) : EndAnnounced client (notices ++ [response]) := by
  have hsame : ∀ {gm'}, SameMission gm' gm → ¬ gm'.Owns client → False :=
    fun hsame hended => hended ((hsame.owns_iff client).mpr howns)
  cases h with
  | accepted htype hgoals haccept howns' hgoals' hnotices =>
      have hclient : msg.userId ≠ client := by
        rintro rfl
        exact hended howns'
      rw [if_pos ⟨howns.1, by rw [howns.2]; exact hclient⟩] at hnotices
      refine ⟨[], _, [response], by rw [hnotices]; rfl, ?_, by simp, ?_⟩
      · exact ⟨Or.inr (Or.inr (Or.inr rfl)), howns.2⟩
      · rintro other hother ⟨hterminal, -⟩
        rw [List.mem_singleton.mp hother] at hterminal
        exact hterminal.not_isAnswer (Or.inl haccept)
  | cancelled htype howns' hcancelled =>
      have hclient : msg.userId = client := howns'.2.symm.trans howns.2
      exact ⟨[], response, [], rfl, ⟨Or.inr (Or.inr (Or.inr hcancelled)),
        hresponse.navCurrentUserId.trans hclient⟩, by simp, by simp⟩
  | refused _ _ h => exact (hsame h hended).elim
  | reported _ _ h => exact (hsame h hended).elim
  | declined _ _ _ _ h => exact (hsame h hended).elim
  | unknown _ _ h => exact (hsame h hended).elim

theorem control_goesOn (h : Handled gm msg readings notices gm' response)
    (hresponse : IsResponse msg response) {client : String} (howns : gm.Owns client)
    (hgoesOn : gm'.Owns client) (hends : ∃ msg ∈ notices ++ [response], EndsFor client msg) :
    ¬ IsKnown msg.type := by
  obtain ⟨ending, hmem, hterminal, haddressed⟩ := hends
  rcases List.mem_append.mp hmem with hmem | hmem
  · rcases notices_cases h with rfl | ⟨notice, rfl, -, -, -, huser, hclient, -⟩
    · exact absurd hmem List.not_mem_nil
    · exact absurd (howns.2.trans (hgoesOn.2.symm.trans hclient)) huser
  · rw [List.mem_singleton.mp hmem] at hterminal haddressed
    cases h with
    | accepted _ _ haccept => exact absurd (Or.inl haccept) hterminal.not_isAnswer
    | refused _ hrefused => exact absurd (Or.inr hrefused) hterminal.not_isAnswer
    | cancelled _ _ _ _ hstate => exact absurd (hgoesOn.1.symm.trans hstate) (by decide)
    | reported _ hreport => exact absurd hreport hterminal.not_isReport
    | declined _ hother =>
        have hclient := hresponse.navCurrentUserId.symm.trans haddressed
        exact absurd (hclient ▸ howns) hother
    | unknown hunknown => exact hunknown

end Control

section Operations

variable {gm : GoalManager} {getYaw : Quaternion → Double}

theorem update_announced {gm' : GoalManager} {nav : NavState}
    {published : List NavigationControl} (h : Updated gm getYaw nav gm' published)
    {client : String} (howns : gm.Owns client) :
    (gm'.Owns client ∧ ∀ msg ∈ published, ¬ EndsFor client msg) ∨
      (¬ gm'.Owns client ∧ EndAnnounced client published) := by
  have hreports : ∀ {reported : List NavigationControl},
      (∀ msg ∈ reported, msg.type = .feedback ∧ msg.userId = GoalManager.id ∧
        msg.navCurrentUserId = gm.currentClientId) →
      ∀ msg ∈ reported, ¬ EndsFor client msg ∧ msg.type ≠ .accept := by
    rintro reported hreported msg hmsg
    have htype := (hreported msg hmsg).1
    exact ⟨fun hends => hends.1.not_isReport (Or.inl htype), by rw [htype]; decide⟩
  cases h with
  | idle hstate => exact absurd (howns.1.symm.trans hstate) (by decide)
  | waiting _ hsame => exact Or.inl ⟨(hsame.owns_iff client).mpr howns, by simp⟩
  | navigating _ _ hreported _ _ howns' =>
      rw [howns.2] at howns'
      exact Or.inl ⟨howns', fun msg hmsg => (hreports hreported msg hmsg).1⟩
  | finished _ _ hreported _ _ hstate' _ _ hmsg =>
      refine Or.inr ⟨fun hends => absurd (hends.1.symm.trans hstate') (by decide), ?_⟩
      exact ⟨_, _, [], rfl, ⟨Or.inl hmsg.1, hmsg.2.2.trans howns.2⟩, hreports hreported, by simp⟩

theorem setEnded_announced {type : ControlType} {statusMessage : String} {now : Time}
    (htype : type = .finished ∨ type = .error ∨ type = .failed) {client : String}
    (howns : gm.Owns client) :
    ¬ (gm.setEnded type statusMessage now).1.Owns client ∧
      EndAnnounced client [(gm.setEnded type statusMessage now).2] := by
  refine ⟨fun hends => absurd (show MissionState.idle = .active from hends.1) (by decide), ?_⟩
  exact ⟨[], _, [], rfl, ⟨gm.setEnded_isTerminal statusMessage now htype, howns.2⟩, by simp,
    by simp⟩

end Operations

section Events

variable {gm : GoalManager} {getYaw : Quaternion → Double} {e : Event}

theorem command_announced {msg : NavigationControl} {readings : ControlReadings}
    (h : gm.command e = some (msg, readings)) : Announced getYaw gm e := by
  have hhandle : gm.handle getYaw e = gm.controlCallback msg readings := handle_of_command h
  by_cases hself : msg.userId = GoalManager.id
  · rw [controlCallback_of_self _ _ _ hself] at hhandle
    refine ⟨?_, ?_, ?_⟩
    · intro msg' readings' h' huser
      obtain ⟨rfl, -⟩ := Prod.ext_iff.mp (Option.some.inj (h.symm.trans h'))
      exact absurd hself huser
    · intro client howns hended
      rw [hhandle] at hended
      exact absurd howns hended
    · rintro client - - ⟨ending, hmem, -⟩
      rw [hhandle] at hmem
      exact absurd hmem List.not_mem_nil
  · obtain ⟨notices, response, hpublished, hresponse, hhandled⟩ :=
      gm.controlCallback_handled msg readings hself
    refine ⟨?_, ?_, ?_⟩ <;> rw [hhandle, hpublished]
    · intro msg' readings' h' _
      obtain ⟨rfl, -⟩ := Prod.ext_iff.mp (Option.some.inj (h.symm.trans h'))
      exact control_answered hhandled hresponse
    · exact fun client howns hended => control_ended hhandled hresponse howns hended
    · exact fun client howns hgoesOn hends =>
        ⟨msg, readings, h, control_goesOn hhandled hresponse howns hgoesOn hends⟩

/-- An operation that is no command either leaves the mission with its owner and tells
it of no end, or ends it and says so. -/
theorem announced_of_ends (hcommand : gm.command e = none)
    (h : ∀ client, gm.Owns client →
      ((gm.handle getYaw e).1.Owns client ∧
          ∀ msg ∈ (gm.handle getYaw e).2, ¬ EndsFor client msg) ∨
        (¬ (gm.handle getYaw e).1.Owns client ∧
          EndAnnounced client (gm.handle getYaw e).2)) :
    Announced getYaw gm e := by
  refine ⟨?_, ?_, ?_⟩
  · intro msg readings hmsg
    rw [hcommand] at hmsg
    contradiction
  · intro client howns hended
    rcases h client howns with ⟨howns', -⟩ | ⟨-, hannounced⟩
    · exact absurd howns' hended
    · exact hannounced
  · rintro client howns hgoesOn ⟨msg, hmem, hends⟩
    rcases h client howns with ⟨-, hnone⟩ | ⟨hended, -⟩
    · exact absurd hends (hnone msg hmem)
    · exact absurd hgoesOn hended

end Events

/-- In every state of the goal manager: a control message gets one response, addressed
to its sender and numbered one above it (up to the largest number), and a mission that
ends is announced to its owner by one message, which comes before the acceptance of another
one; only a message of unknown type is answered with an error that its mission survives. -/
theorem every_end_announced (getYaw : Quaternion → Double) (gm : GoalManager) (e : Event)
    (h : CalledWhileActive gm e) : Announced getYaw gm e := by
  cases e with
  | control msg readings => exact command_announced rfl
  | operation op =>
      cases op with
      | goalPose pose readings => exact command_announced rfl
      | setFinished now =>
          exact announced_of_ends rfl fun client howns =>
            Or.inr (setEnded_announced (Or.inl rfl) howns)
      | setError reason now =>
          exact announced_of_ends rfl fun client howns =>
            Or.inr (setEnded_announced (Or.inr (Or.inl rfl)) howns)
      | setFailed reason now =>
          exact announced_of_ends rfl fun client howns =>
            Or.inr (setEnded_announced (Or.inr (Or.inr rfl)) howns)
      | setProgressHeld held =>
          exact announced_of_ends rfl fun client howns => Or.inl ⟨howns, by simp [handle, perform]⟩
      | readParameters params nav =>
          exact announced_of_ends rfl fun client howns => Or.inl ⟨howns, by simp [handle, perform]⟩
      | update nav readings =>
          exact announced_of_ends rfl fun client howns =>
            update_announced (gm.update_updated getYaw nav readings) howns

def requestFrom (client : String) : NavigationControl :=
  { userId := client, goals := { goals := [{}] } }

/-- A new goal manager that accepted the request of a client. -/
def managerOf (client : String) : GoalManager :=
  ((GoalManager.create {} {}).1.controlCallback (requestFrom client) {}).1

theorem every_end_announced_taken_over :
    let taken := ((managerOf "first").handle (fun _ => 0)
      (.control (requestFrom "second") {}))
    let failed := taken.1.handle (fun _ => 0) (.operation (.setFailed "no way" 0))
    (∃ response, AnsweredBy (requestFrom "second") response taken.2 ∧ response.seq.toInt = 1) ∧
      EndAnnounced "first" taken.2 ∧ EndAnnounced "second" failed.2 := by
  refine ⟨?_, ?_, ?_⟩
  · obtain ⟨response, hanswered, hseq⟩ := (every_end_announced (fun _ => 0) (managerOf "first")
      (.control (requestFrom "second") {}) trivial).answered (requestFrom "second") {} rfl
      (by decide)
    exact ⟨response, hanswered, hseq (by decide)⟩
  · exact (every_end_announced (fun _ => 0) (managerOf "first")
      (.control (requestFrom "second") {}) trivial).ended "first" (by decide +kernel)
      (by decide +kernel)
  · have hactive : ((managerOf "first").controlCallback (requestFrom "second") {}).1.Owns
        "second" := by decide +kernel
    exact (every_end_announced (fun _ => 0)
      ((managerOf "first").controlCallback (requestFrom "second") {}).1
      (.operation (.setFailed "no way" 0)) hactive.1).ended "second" hactive
      (by decide +kernel)

/-- The largest `seq` has no successor, and its request is answered all the same. -/
theorem last_seq_not_followed : ¬ ∀ (getYaw : Quaternion → Double) (gm : GoalManager) (e : Event),
    CalledWhileActive gm e → ∀ msg readings, gm.command e = some (msg, readings) →
      msg.userId ≠ GoalManager.id →
        ∃ response, AnsweredBy msg response (gm.handle getYaw e).2 ∧
          response.seq.toInt = msg.seq.toInt + 1 := by
  intro h
  obtain ⟨response, -, hseq⟩ := h (fun _ => 0) (managerOf "first")
    (.control { requestFrom "second" with seq := Int64.maxValue } {}) trivial
    { requestFrom "second" with seq := Int64.maxValue } {} rfl (by decide)
  have hbound := response.seq.toInt_lt
  rw [hseq, Int64.toInt_maxValue] at hbound
  omega

end EasyNav.MissionAnnouncements
