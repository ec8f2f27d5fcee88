import EasyNav.MissionBookkeeping
import EasyNav.MissionProtocol

namespace EasyNav.PauseAgreement

open EasyNav.DoubleArithmetic
open EasyNav.MessageChannels
open EasyNav.NavigationState
open EasyNav.MissionMessages
open EasyNav.MissionClient
open EasyNav.MissionServer
open EasyNav.MissionServer.GoalManager
open EasyNav.MissionInvariant
open EasyNav.MissionBookkeeping
open EasyNav.MissionOwnership
open EasyNav.MissionProtocol
open EasyNav.Runs

/-- Whether the mission is paused after what a message tells its owner. -/
def announce (paused : Bool) (msg : NavigationControl) : Bool :=
  match msg.type with
  | .paused => true
  | .resumed | .accept | .finished | .failed | .cancelled | .error => false
  | .request | .reject | .feedback | .cancel | .pause | .resume | .other _ => paused

def announced (client : String) (paused : Bool) (msgs : List NavigationControl) : Bool :=
  (addressed client msgs).foldl announce paused

/-- A message that clears the pause of the goal manager's mission clears the client's. -/
def Follows (client : GoalManagerClient) (msg : NavigationControl) : Prop :=
  msg.type ≠ .accept ∧
    (msg.IsTerminal → msg.type ≠ .error ∧ client.state = .acceptedAndNavigating)

instance (client : GoalManagerClient) (msg : NavigationControl) :
    Decidable (Follows client msg) :=
  inferInstanceAs (Decidable (_ ∧ (_ → _ ∧ _)))

/-- Once it is paused, the client is handed nothing that clears the pause of the mission
but the end of its own navigation, other than by an error. -/
def HandsFollowed (net : Network Unit) : MissionProtocol.Event Unit → Prop
  | .deliver .server (.client i) _ =>
      ∀ msg ∈ (net.inFlight .server (.client i)).head?,
        msg.navCurrentUserId = (net.clients i).id → (net.clients i).paused = true →
          Follows (net.clients i) msg
  | _ => True

instance (net : Network Unit) :
    (e : MissionProtocol.Event Unit) → Decidable (HandsFollowed net e)
  | .deliver .server (.client _) _ =>
      inferInstanceAs (Decidable (∀ msg ∈ _, _ = _ → _ = _ → Follows _ msg))
  | .deliver .server .server _ | .deliver (.client _) _ _ | .call _ _ | .operation _ =>
      inferInstanceAs (Decidable True)

/-- Nobody but the client commands goals. -/
def FromClient : MissionProtocol.Event Unit → Prop
  | .operation (.goalPose _ _) => False
  | _ => True

/-- With nothing in flight, the client and the goal manager agree on the pause. -/
def PausesAgree (net : Network Unit) : Prop :=
  net.inFlight.Quiet →
    ((net.clients ()).state = .acceptedAndNavigating →
        (net.clients ()).paused = net.server.paused) ∧
      (net.server.state = .idle → (net.clients ()).paused = false)

structure Announced (name : String) (net : Network Unit) : Prop where
  identified : Identified (fun _ => name) net
  wellFormed : WellFormed net.server
  owner : net.server.state = .active → net.server.currentClientId = clientId name
  told : announced (clientId name) (net.clients ()).paused
    (net.inFlight .server (.client ())) = net.server.paused

/-- What the goal manager tells its only client, with what that does to its mission. -/
structure Tells (client : String) (gm : GoalManager) (msgs : List NavigationControl)
    (gm' : GoalManager) : Prop where
  wellFormed : WellFormed gm'
  owner : gm'.state = .active → gm'.currentClientId = client
  told : announced client gm.paused msgs = gm'.paused

section Announcing

variable {client : String} {msg : NavigationControl} {msgs : List NavigationControl}
  {paused : Bool}

theorem announced_append (a b : List NavigationControl) :
    announced client paused (a ++ b) = announced client (announced client paused a) b := by
  unfold announced
  rw [addressed_append, List.foldl_append]

theorem announced_cons_of_eq (h : msg.navCurrentUserId = client) :
    announced client paused (msg :: msgs) = announced client (announce paused msg) msgs := by
  unfold announced
  rw [addressed_cons_of_eq h, List.foldl_cons]

theorem announced_cons_of_ne (h : msg.navCurrentUserId ≠ client) :
    announced client paused (msg :: msgs) = announced client paused msgs := by
  unfold announced
  rw [addressed_cons_of_ne h]

theorem announced_singleton :
    announced client paused [msg] =
      if msg.navCurrentUserId = client then announce paused msg else paused := by
  split
  · rename_i h
    rw [announced_cons_of_eq h]
    rfl
  · rename_i h
    rw [announced_cons_of_ne h]
    rfl

theorem announced_of_feedback (h : ∀ msg ∈ msgs, msg.type = .feedback) :
    announced client paused msgs = paused := by
  induction msgs with
  | nil => rfl
  | cons msg msgs ih =>
      have hmsg : announce paused msg = paused := by
        rw [announce, h msg List.mem_cons_self]
      have hrest := ih fun other hother => h other (List.mem_cons_of_mem _ hother)
      by_cases haddressed : msg.navCurrentUserId = client
      · rw [announced_cons_of_eq haddressed, hmsg, hrest]
      · rw [announced_cons_of_ne haddressed, hrest]

end Announcing

section Server

variable {gm : GoalManager} {client : String} {msg : NavigationControl}

theorem tells_nothing {gm' : GoalManager} (hgm : WellFormed gm)
    (howner : gm.state = .active → gm.currentClientId = client)
    (hsame : SameMission gm' gm) (hpaused : gm'.paused = gm.paused) : Tells client gm [] gm' := by
  refine ⟨hgm.of_same hsame hpaused, ?_, hpaused.symm⟩
  rw [hsame.state, hsame.currentClientId]
  exact howner

theorem setEnded_tells {type : ControlType} (hgm : WellFormed gm)
    (howner : gm.state = .active → gm.currentClientId = client) (statusMessage : String)
    (now : Time) (htype : type = .finished ∨ type = .error ∨ type = .failed) :
    Tells client gm [(gm.setEnded type statusMessage now).2]
      (gm.setEnded type statusMessage now).1 := by
  refine ⟨wellFormed_of_idle rfl rfl rfl, ?_, ?_⟩
  · intro hactive
    exact absurd (show MissionState.idle = .active from hactive) (by decide)
  · change announced client gm.paused [gm.notice type statusMessage now] = false
    rw [announced_singleton]
    split
    · rw [announce]
      rcases htype with rfl | rfl | rfl <;> rfl
    · rename_i hother
      cases hstate : gm.state with
      | idle => exact hgm.idle_paused hstate
      | active => exact absurd (howner hstate) hother

theorem update_tells (getYaw : Quaternion → Double) (hgm : WellFormed gm)
    (howner : gm.state = .active → gm.currentClientId = client) (nav : NavState)
    (readings : UpdateReadings) :
    Tells client gm (gm.update getYaw nav readings).2.2.control
      (gm.update getYaw nav readings).1 := by
  have hgm' := update_wellFormed getYaw hgm nav readings
  have hpaused := update_paused gm getYaw nav readings
  have hupdated := gm.update_updated getYaw nav readings
  generalize (gm.update getYaw nav readings).2.2.control = published at hupdated ⊢
  generalize (gm.update getYaw nav readings).1 = gm' at hgm' hpaused hupdated ⊢
  cases hupdated with
  | idle hstate hstate' hclient =>
      refine ⟨hgm', ?_, ?_⟩
      · intro hactive
        rw [hstate'] at hactive
        contradiction
      · exact (hgm.idle_paused hstate).trans (hgm'.idle_paused hstate').symm
  | waiting hstate hsame hwaiting =>
      refine tells_nothing hgm howner hsame (hpaused.resolve_right ?_)
      rw [hsame.state, hstate]
      decide
  | navigating hstate hpose hreported hgoals hnonempty howns =>
      have hfeedback : announced client gm.paused published = gm.paused :=
        announced_of_feedback fun msg hmsg => (hreported msg hmsg).1
      refine ⟨hgm', fun _ => howns.2.trans (howner hstate), ?_⟩
      rw [hfeedback]
      refine (hpaused.resolve_right ?_).symm
      rw [howns.1]
      decide
  | finished hstate _ _ _ _ hstate' _ _ hmsg =>
      refine ⟨hgm', ?_, ?_⟩
      · intro hactive
        rw [hstate'] at hactive
        contradiction
      · have hto := hmsg.2.2.trans (howner hstate)
        rw [announced_append, announced_singleton, if_pos hto, announce, hmsg.1,
          hgm'.idle_paused hstate']

theorem perform_tells (getYaw : Quaternion → Double) (hgm : WellFormed gm)
    (howner : gm.state = .active → gm.currentClientId = client) (op : Operation)
    (hop : ∀ pose readings, op ≠ .goalPose pose readings) :
    Tells client gm (gm.perform getYaw op).2 (gm.perform getYaw op).1 := by
  cases op with
  | goalPose pose readings => exact absurd rfl (hop pose readings)
  | setFinished now => exact setEnded_tells hgm howner _ now (Or.inl rfl)
  | setError reason now => exact setEnded_tells hgm howner reason now (Or.inr (Or.inl rfl))
  | setFailed reason now => exact setEnded_tells hgm howner reason now (Or.inr (Or.inr rfl))
  | setProgressHeld held => exact tells_nothing hgm howner ⟨rfl, rfl, rfl⟩ rfl
  | readParameters params nav => exact tells_nothing hgm howner ⟨rfl, rfl, rfl⟩ rfl
  | update nav readings => exact update_tells getYaw hgm howner nav readings

variable (base : NavigationControl) (readings : ControlReadings)

theorem handleRequest_announces (howner : gm.state = .active → gm.currentClientId = msg.userId) :
    (gm.handleRequest msg base readings).1 = [] ∧
      announce gm.paused (gm.handleRequest msg base readings).2.2 =
        (gm.handleRequest msg base readings).2.1.paused ∧
      ((gm.handleRequest msg base readings).2.1.state = .active →
        (gm.handleRequest msg base readings).2.1.currentClientId = msg.userId) := by
  unfold handleRequest
  split
  · exact ⟨rfl, rfl, howner⟩
  · split
    · exact ⟨rfl, rfl, fun _ => rfl⟩
    · rename_i hactive
      have hactive := howner (active_of_not_idle hactive)
      split
      · rw [if_neg (not_not.mpr hactive.symm)]
        exact ⟨rfl, rfl, fun _ => rfl⟩
      · exact ⟨rfl, rfl, howner⟩

theorem handleCancel_announces (hgm : WellFormed gm)
    (howner : gm.state = .active → gm.currentClientId = msg.userId) :
    announce gm.paused (gm.handleCancel msg base).2 = (gm.handleCancel msg base).1.paused ∧
      ((gm.handleCancel msg base).1.state = .active →
        (gm.handleCancel msg base).1.currentClientId = msg.userId) := by
  unfold handleCancel
  split
  · exact ⟨rfl, howner⟩
  · split
    · rename_i hidle
      exact ⟨(hgm.idle_paused hidle).symm, howner⟩
    · refine ⟨rfl, ?_⟩
      intro hactive
      exact absurd (show MissionState.idle = .active from hactive) (by decide)

theorem handlePause_announces (howner : gm.state = .active → gm.currentClientId = msg.userId) :
    announce gm.paused (gm.handlePause msg base).2 = (gm.handlePause msg base).1.paused ∧
      ((gm.handlePause msg base).1.state = .active →
        (gm.handlePause msg base).1.currentClientId = msg.userId) := by
  unfold handlePause
  split
  · exact ⟨rfl, howner⟩
  · exact ⟨rfl, howner⟩

theorem handleResume_announces (howner : gm.state = .active → gm.currentClientId = msg.userId) :
    announce gm.paused (gm.handleResume msg base).2 = (gm.handleResume msg base).1.paused ∧
      ((gm.handleResume msg base).1.state = .active →
        (gm.handleResume msg base).1.currentClientId = msg.userId) := by
  unfold handleResume
  split
  · exact ⟨rfl, howner⟩
  · exact ⟨rfl, howner⟩

theorem controlCallback_tells (hcall : IsCall client msg) (hclient : client ≠ GoalManager.id)
    (hgm : WellFormed gm) (howner : gm.state = .active → gm.currentClientId = client) :
    Tells client gm (gm.controlCallback msg readings).2 (gm.controlCallback msg readings).1 := by
  obtain rfl := hcall.userId
  have hgm' : WellFormed (gm.controlCallback msg readings).1 :=
    controlCallback_wellFormed hgm readings
  have htold : ∀ response, IsResponse msg response →
      announced msg.userId gm.paused [response] = announce gm.paused response := by
    intro response hresponse
    rw [announced_singleton, if_pos hresponse.navCurrentUserId]
  unfold controlCallback at hgm' ⊢
  rw [if_neg hclient] at hgm' ⊢
  dsimp only at hgm' ⊢
  split at hgm'
  · obtain ⟨hnotices, hannounced, howner'⟩ :=
      handleRequest_announces (response msg readings.response) readings howner
    refine ⟨hgm', howner', ?_⟩
    dsimp only
    rw [hnotices, List.nil_append, htold _ (handleRequest_isResponse _ _ _ _)]
    exact hannounced
  · obtain ⟨hannounced, howner'⟩ :=
      handleCancel_announces (response msg readings.response) hgm howner
    exact ⟨hgm', howner', (htold _ (handleCancel_isResponse _ _ _)).trans hannounced⟩
  · obtain ⟨hannounced, howner'⟩ :=
      handlePause_announces (response msg readings.response) howner
    exact ⟨hgm', howner', (htold _ (handlePause_isResponse _ _ _)).trans hannounced⟩
  · obtain ⟨hannounced, howner'⟩ :=
      handleResume_announces (response msg readings.response) howner
    exact ⟨hgm', howner', (htold _ (handleResume_isResponse _ _ _)).trans hannounced⟩
  · rename_i hrequest hcancel hpause hresume
    rcases hcall.isKnown with h | h | h | h
    · exact absurd h hrequest
    · exact absurd h hcancel
    · exact absurd h hpause
    · exact absurd h hresume

end Server

section Client

variable {client : GoalManagerClient} {msg : NavigationControl}

/-- Only the end of its own navigation clears the pause of a client by the way. -/
theorem onMessage_paused (client : GoalManagerClient) (msg : NavigationControl) :
    (client.onMessage msg).paused =
      if client.state = .acceptedAndNavigating ∧ msg.IsTerminal ∧ msg.type ≠ .error then false
      else client.paused := by
  unfold GoalManagerClient.onMessage
  split
  case h_8 hstate =>
    unfold GoalManagerClient.onNavigating NavigationControl.IsTerminal
    split <;> simp_all [GoalManagerClient.conclude]
  case h_6 hstate =>
    rw [if_neg (by rw [hstate]; simp)]
    unfold GoalManagerClient.onSentGoal
    split <;> rfl
  case h_7 hstate =>
    rw [if_neg (by rw [hstate]; simp)]
    unfold GoalManagerClient.onSentPreempt
    split <;> rfl
  all_goals
    rename_i hstate
    rw [if_neg (by rw [hstate]; simp)]

theorem announce_of_isTerminal {paused : Bool} (h : msg.IsTerminal) :
    announce paused msg = false := by
  unfold announce
  rcases h with h | h | h | h <;> rw [h]

theorem announce_of_other {paused : Bool} (hpaused : msg.type ≠ .paused)
    (hresumed : msg.type ≠ .resumed) (haccept : msg.type ≠ .accept)
    (hterminal : ¬ msg.IsTerminal) : announce paused msg = paused := by
  unfold NavigationControl.IsTerminal at hterminal
  unfold announce
  split <;> simp_all

theorem controlCallback_paused (hself : msg.userId ≠ client.id)
    (haddressed : msg.navCurrentUserId = client.id)
    (hfollows : client.paused = true → Follows client msg) :
    (client.controlCallback msg).paused = announce client.paused msg := by
  unfold GoalManagerClient.controlCallback
  rw [if_neg hself, if_neg (not_not.mpr haddressed)]
  split
  · rename_i htype
    rw [announce, htype]
  · rename_i htype
    rw [announce, htype]
  · rename_i hpaused hresumed
    change (client.onMessage msg).paused = _
    rw [onMessage_paused]
    cases hclient : client.paused with
    | false =>
        rw [ite_self, announce]
        split <;> simp_all
    | true =>
        obtain ⟨haccept, hterminal⟩ := hfollows hclient
        by_cases hend : msg.IsTerminal
        · obtain ⟨herror, hstate⟩ := hterminal hend
          rw [if_pos ⟨hstate, hend, herror⟩, announce_of_isTerminal hend]
        · rw [if_neg fun h => hend h.2.1, announce_of_other hpaused hresumed haccept hend]

end Client

section Steps

variable {name : String} {net : Network Unit} {getYaw : Quaternion → Double}

theorem start_announced (h : MissionProtocol.Start (fun _ => name) net) : Announced name net := by
  have hidentified := start_identified h
  obtain ⟨⟨params, nav, hserver⟩, hclients, hquiet⟩ := h
  refine ⟨hidentified, ?_, ?_, ?_⟩
  · rw [hserver]
    exact create_wellFormed params nav
  · rw [hserver]
    intro hactive
    exact absurd (show MissionState.idle = .active from hactive) (by decide)
  · rw [hserver, hclients, hquiet]
    rfl

theorem Announced.tell (h : Announced name net) {msgs : List NavigationControl}
    {gm : GoalManager} (htells : Tells (clientId name) net.server msgs gm) :
    announced (clientId name) (net.clients ()).paused
      (net.inFlight .server (.client ()) ++ msgs) = gm.paused := by
  rw [announced_append, h.told]
  exact htells.told

theorem operation_announced (h : Announced name net) (op : Operation)
    (hop : ∀ pose readings, op ≠ .goalPose pose readings) :
    Announced name (net.operation getYaw op) := by
  have hidentified : Identified (fun _ => name) (net.operation getYaw op) :=
    operation_identified h.identified op
  have htells := perform_tells getYaw h.wellFormed h.owner op hop
  refine ⟨hidentified, htells.wellFormed, htells.owner, ?_⟩
  unfold Network.operation
  dsimp only
  rw [Channels.broadcast_self]
  exact h.tell htells

theorem call_announced (h : Announced name net) (call : Call) :
    Announced name (net.call () call) := by
  refine ⟨call_identified h.identified () call, h.wellFormed, h.owner, ?_⟩
  unfold Network.call
  dsimp only
  rw [Function.update_self, (call_kept _ call).2,
    Channels.broadcast_of_ne _ _ _ _ (show Party.server ≠ .client () by simp)]
  exact h.told

theorem receive_server_announced (h : Announced name net) (sender : Party Unit)
    {msg : NavigationControl} (hmsg : msg ∈ net.inFlight sender .server)
    (readings : ControlReadings) :
    Announced name ({ net with inFlight := net.inFlight.consume sender .server }.receive
      .server msg readings) := by
  have hidentified := receive_identified h.identified sender .server msg readings
  have hsent := h.identified.sent sender .server msg hmsg
  have htells : Tells (clientId name) net.server (net.server.controlCallback msg readings).2
      (net.server.controlCallback msg readings).1 := by
    cases sender with
    | server =>
        rw [GoalManager.controlCallback_of_self _ _ _ hsent]
        exact tells_nothing h.wellFormed h.owner (.refl net.server) rfl
    | client i =>
        exact controlCallback_tells readings hsent (clientId_ne (by decide)) h.wellFormed h.owner
  refine ⟨hidentified, htells.wellFormed, htells.owner, ?_⟩
  unfold Network.receive
  dsimp only
  rw [Channels.broadcast_self,
    Channels.consume_of_receiver_ne _ _ _ (show Party.client () ≠ .server by simp)]
  exact h.tell htells

theorem receive_client_announced (h : Announced name net) (sender : Party Unit)
    {msg : NavigationControl} {rest : List NavigationControl}
    (hmsg : net.inFlight sender (.client ()) = msg :: rest)
    (hfollows : sender = .server → msg.navCurrentUserId = (net.clients ()).id →
      (net.clients ()).paused = true → Follows (net.clients ()) msg)
    (readings : ControlReadings) :
    Announced name ({ net with inFlight := net.inFlight.consume sender (.client ()) }.receive
      (.client ()) msg readings) := by
  have hidentified := receive_identified h.identified sender (.client ()) msg readings
  have hsent := h.identified.sent sender (.client ()) msg (by rw [hmsg]; exact List.mem_cons_self)
  have hid := h.identified.ids ()
  refine ⟨hidentified, h.wellFormed, h.owner, ?_⟩
  unfold Network.receive
  dsimp only
  rw [Function.update_self]
  have htold := h.told
  cases sender with
  | server =>
      rw [hmsg] at htold
      rw [Channels.consume_self, hmsg, List.tail_cons, ← htold]
      by_cases haddressed : msg.navCurrentUserId = (net.clients ()).id
      · have hself : msg.userId ≠ (net.clients ()).id := by
          rw [hid, show msg.userId = GoalManager.id from hsent]
          exact (clientId_ne (by decide)).symm
        rw [controlCallback_paused hself haddressed (hfollows rfl haddressed),
          announced_cons_of_eq (haddressed.trans hid)]
      · rw [controlCallback_of_other (Or.inr haddressed),
          announced_cons_of_ne (by rwa [← hid])]
  | client i =>
      have haddressed : msg.navCurrentUserId ≠ (net.clients ()).id := by
        rw [hid, hsent.navCurrentUserId]
        exact (clientId_ne (by decide)).symm
      rw [controlCallback_of_other (Or.inr haddressed),
        Channels.consume_of_sender_ne _ _ _ (show Party.server ≠ .client i by simp)]
      exact htold

theorem step_announced (h : Announced name net) (e : MissionProtocol.Event Unit)
    (hclient : FromClient e) (hfollowed : HandsFollowed net e) :
    Announced name (MissionProtocol.step getYaw net e) := by
  cases e with
  | call i call => exact call_announced h call
  | operation op =>
      refine operation_announced h op ?_
      rintro pose readings rfl
      exact hclient
  | deliver sender receiver readings =>
      change Announced name (net.deliver sender receiver readings)
      unfold Network.deliver
      split
      · exact h
      · rename_i msg rest hmsg
        cases receiver with
        | server =>
            exact receive_server_announced h sender (by rw [hmsg]; exact List.mem_cons_self)
              readings
        | client i =>
            refine receive_client_announced h sender hmsg ?_ readings
            rintro rfl
            exact hfollowed msg (by rw [hmsg]; rfl)

theorem Announced.agree (h : Announced name net) : PausesAgree net := by
  intro hquiet
  have htold := h.told
  rw [hquiet] at htold
  refine ⟨fun _ => htold, ?_⟩
  intro hidle
  exact Eq.trans htold (h.wellFormed.idle_paused hidle)

end Steps

/-- As long as the client, once paused, is handed nothing that clears the pause of the
mission but the end of its own navigation, with nothing in flight it agrees with the goal
manager on the pause. -/
theorem pause_agrees {name : String} {getYaw : Quaternion → Double} {net : Network Unit}
    {past : List (Network Unit × MissionProtocol.Event Unit)}
    (hrun : Run (MissionProtocol.step getYaw) (MissionProtocol.Start fun _ => name) net past)
    (hclient : ∀ p ∈ past, FromClient p.2) (hfollowed : ∀ p ∈ past, HandsFollowed p.1 p.2) :
    PausesAgree net := by
  have h : Announced name net := hrun.invariant
    (fun net e => FromClient e ∧ HandsFollowed net e) (fun _ => start_announced)
    (fun _ e h he => step_announced h e he.1 he.2)
    fun p hp => ⟨hclient p hp, hfollowed p hp⟩
  exact h.agree

/-- The client calls, and everybody receives what it published and the response. -/
def answered (call : Call) : List (MissionProtocol.Event Unit) :=
  [.call () call, .deliver (.client ()) .server {}, .deliver (.client ()) (.client ()) {},
    .deliver .server .server {}, .deliver .server (.client ()) {}]

def cancelling : List (MissionProtocol.Event Unit) :=
  accepting ++ (answered .pause ++ answered .cancel)

def preempting : List (MissionProtocol.Event Unit) :=
  accepting ++ (answered .pause ++ answered (.sendGoals { goals := [{}] }))

theorem pause_agrees_cancelled :
    let net := cancelling.foldl atOrigin exampleNetwork
    PausesAgree net ∧ net.server.state = .idle ∧ (net.clients ()).paused = false := by
  have hstart : Run atOrigin (MissionProtocol.Start fun _ => "robot") exampleNetwork [] :=
    .init exampleNetwork_start
  refine ⟨pause_agrees (hstart.foldl cancelling) ?_ ?_, by decide +kernel, by decide +kernel⟩
  · simp [cancelling, accepting, answered, history, FromClient]
  · decide +kernel

/-- A client that preempts its paused mission still takes it for paused. -/
theorem pause_disagrees_preempted :
    ∃ net past, Run atOrigin (MissionProtocol.Start fun _ => "robot") net past ∧
      (∀ p ∈ past, FromClient p.2) ∧ ¬ PausesAgree net := by
  have hstart : Run atOrigin (MissionProtocol.Start fun _ => "robot") exampleNetwork [] :=
    .init exampleNetwork_start
  refine ⟨_, _, hstart.foldl preempting, ?_, ?_⟩
  · simp [preempting, accepting, answered, history, FromClient]
  · intro hagree
    have hquiet : (preempting.foldl atOrigin exampleNetwork).inFlight.Quiet := by
      rintro (_ | ⟨⟨⟩⟩) (_ | ⟨⟨⟩⟩) <;> decide +kernel
    have hdiffer : ((preempting.foldl atOrigin exampleNetwork).clients ()).paused ≠
        (preempting.foldl atOrigin exampleNetwork).server.paused := by decide +kernel
    exact hdiffer ((hagree hquiet).1 (by decide +kernel))

end EasyNav.PauseAgreement
