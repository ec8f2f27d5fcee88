import EasyNav.MissionInvariant
import EasyNav.MissionProtocol

/-!
A mission from its client's side to its end: while nobody takes it over or calls it off,
it goes on exactly until its last goal is reached, and its client is told so.
-/

namespace EasyNav.MissionDelivery

open EasyNav.DoubleArithmetic
open EasyNav.NavigationState
open EasyNav.MessageChannels
open EasyNav.MissionMessages
open EasyNav.MissionClient
open EasyNav.MissionServer
open EasyNav.MissionServer.GoalManager
open EasyNav.MissionInvariant (WellFormed step_wellFormed create_wellFormed)
open EasyNav.MissionOwnership
open EasyNav.MissionProtocol
open EasyNav.Runs

universe u

variable {ι : Type u} [DecidableEq ι]

/-- An update takes the first goal of the mission as reached. -/
def takesGoal (getYaw : Quaternion → Double) (gm : GoalManager) (nav : NavState) : Bool :=
  match nav.robotPose, gm.goals.goals with
  | some odom, firstGoal :: _ =>
      decide (gm.state = .active) && !gm.progressHeld &&
        reaches getYaw odom.pose firstGoal.pose gm.goalTolerance
  | _, _ => false

def goalsTaken (getYaw : Quaternion → Double) (net : Network ι) : Event ι → Nat
  | .operation (.update nav _) => if takesGoal getYaw net.server nav then 1 else 0
  | _ => 0

/-- Nobody asks for another mission, its client does not call it off, and nothing else ends
it; it may be paused, and its progress held. -/
def Undisturbed (i : ι) : Event ι → Prop
  | .call _ (.sendGoals _) => False
  | .call j .cancel | .call j .reset => j ≠ i
  | .call _ .pause | .call _ .resume => True
  | .operation (.update _ _) | .operation (.setProgressHeld _)
  | .operation (.readParameters _ _) => True
  | .operation _ => False
  | .deliver _ _ _ => True

/-- The client knows that its mission is finished, or is being told. -/
def Concluding (client : GoalManagerClient) (pending : List NavigationControl) : Prop :=
  client.state = .navigationFinished ∨
    client.state = .acceptedAndNavigating ∧ ∃ reports final rest,
      pending = reports ++ final :: rest ∧ OnlyReports reports ∧ final.type = .finished

/-- A mission of these goals, so many of which are taken, as the goal manager, its client
and the messages on their way to the client have it. -/
inductive Underway (goals : List PoseStamped) (taken : Nat) (gm : GoalManager)
    (client : GoalManagerClient) (pending : List NavigationControl) : Prop
  | navigating (htaken : taken < goals.length) (howns : gm.Owns client.id)
      (hgoals : gm.goals.goals = goals.drop taken)
      (hstate : client.state = .acceptedAndNavigating) (hpending : OnlyReports pending) :
      Underway goals taken gm client pending
  | finished (htaken : taken = goals.length) (hidle : gm.state = .idle)
      (hconcluding : Concluding client pending) : Underway goals taken gm client pending

section Server

variable {gm : GoalManager} {getYaw : Quaternion → Double} {nav : NavState}

theorem progress_goals {odom : Odometry} (hactive : gm.state = .active)
    (hpose : nav.robotPose = some odom) :
    (gm.progress getYaw odom.pose).goals.goals =
      gm.goals.goals.drop (if takesGoal getYaw gm nav then 1 else 0) := by
  rw [takesGoal, hpose, hactive, progress, checkGoals]
  cases hgoals : gm.goals.goals with
  | nil =>
      rw [List.drop_nil]
      split <;> exact hgoals
  | cons firstGoal goals =>
      by_cases hheld : gm.progressHeld = true
      · simp [hheld, hgoals]
      · by_cases hreaches : reaches getYaw odom.pose firstGoal.pose gm.goalTolerance = true
        · simp [hheld, hreaches]
        · simp [hheld, hreaches, hgoals]

/-- An update of an active mission takes the first goal if it is reached, and finishes the
mission with the last one. -/
theorem update_advances (hactive : gm.state = .active) (hgoals : gm.goals.goals ≠ [])
    (readings : UpdateReadings) :
    let left := gm.goals.goals.drop (if takesGoal getYaw gm nav then 1 else 0)
    let result := gm.perform getYaw (.update nav readings)
    left ≠ [] ∧ result.1.Owns gm.currentClientId ∧ result.1.goals.goals = left ∧
        OnlyReports result.2 ∨
      left = [] ∧ result.1.state = .idle ∧ ∃ reported final, result.2 = reported ++ [final] ∧
        OnlyReports reported ∧ final.type = .finished ∧
          final.navCurrentUserId = gm.currentClientId := by
  have hupdated := gm.update_updated getYaw nav readings
  dsimp only [perform]
  generalize gm.update getYaw nav readings = result at hupdated ⊢
  obtain ⟨gm', nav', published⟩ := result
  obtain ⟨control, info⟩ := published
  dsimp only at hupdated ⊢
  cases hupdated with
  | idle hstate =>
      rw [hactive] at hstate
      cases hstate
  | waiting hstate hsame hwaiting =>
      have htakes : takesGoal getYaw gm nav = false := by
        rw [takesGoal, hwaiting.resolve_right hgoals]
      rw [htakes]
      refine Or.inl ⟨hgoals, ⟨hsame.state.trans hactive, hsame.currentClientId⟩, ?_, ?_⟩
      · rw [hsame.goals]
        rfl
      · exact fun msg hmsg => absurd hmsg List.not_mem_nil
  | navigating hstate hpose hreported hgoals' hnonempty howns =>
      have hleft := congrArg Goals.goals hgoals'
      rw [progress_goals hactive hpose] at hleft
      refine Or.inl ⟨hleft ▸ hnonempty, howns, hleft, ?_⟩
      exact fun msg hmsg => Or.inl (hreported msg hmsg).1
  | finished hstate hpose hreported hnonempty hdone hstate' hclient hgoals' hmsg =>
      rw [progress_goals hactive hpose] at hdone
      refine Or.inr ⟨hdone, hstate', _, _, rfl, ?_, hmsg.1, hmsg.2.2⟩
      exact fun msg hmsg => Or.inl (hreported msg hmsg).1

end Server

section Underway

variable {goals : List PoseStamped} {taken : Nat} {gm gm' : GoalManager}
  {client : GoalManagerClient} {pending : List NavigationControl}

theorem Concluding.append (h : Concluding client pending) (msgs : List NavigationControl) :
    Concluding client (pending ++ msgs) := by
  rcases h with hdone | ⟨hstate, reports, final, rest, rfl, hreports, hfinal⟩
  · exact Or.inl hdone
  · refine Or.inr ⟨hstate, reports, final, rest ++ msgs, ?_, hreports, hfinal⟩
    rw [List.append_assoc, List.cons_append]

theorem Underway.congr {client' : GoalManagerClient}
    (h : Underway goals taken gm client pending) (hmission : SameMission gm' gm)
    (hid : client'.id = client.id) (hstate : client'.state = client.state) :
    Underway goals taken gm' client' pending := by
  cases h with
  | navigating htaken howns hgoals hnavigating hpending =>
      refine .navigating htaken ?_ ?_ (hstate.trans hnavigating) hpending
      · rw [hid]
        exact (hmission.owns_iff _).mpr howns
      · rw [hmission.goals]
        exact hgoals
  | finished htaken hidle hconcluding =>
      refine .finished htaken (hmission.state.trans hidle) ?_
      rw [Concluding, hstate]
      exact hconcluding

theorem onlyReports_append {reports more : List NavigationControl} (h : OnlyReports reports)
    (hmore : OnlyReports more) : OnlyReports (reports ++ more) := by
  intro msg hmsg
  rcases List.mem_append.mp hmsg with hmsg | hmsg
  · exact h msg hmsg
  · exact hmore msg hmsg

theorem addressed_onlyReports {msgs : List NavigationControl} (h : OnlyReports msgs)
    (id : String) : OnlyReports (addressed id msgs) :=
  fun msg hmsg => h msg (List.mem_filter.mp hmsg).1

theorem Underway.update (h : Underway goals taken gm client pending)
    (getYaw : Quaternion → Double) (nav : NavState) (readings : UpdateReadings) :
    Underway goals (taken + if takesGoal getYaw gm nav then 1 else 0)
      (gm.perform getYaw (.update nav readings)).1 client
      (pending ++ addressed client.id (gm.perform getYaw (.update nav readings)).2) := by
  cases h with
  | navigating htaken howns hgoals hstate hpending =>
      have hnonempty : gm.goals.goals ≠ [] := by
        rw [hgoals]
        exact fun hempty => absurd (List.drop_eq_nil_iff.mp hempty) (by omega)
      have hcount : (if takesGoal getYaw gm nav then 1 else 0) ≤ 1 := by split <;> omega
      have hadvances := @update_advances gm getYaw nav howns.1 hnonempty readings
      rw [hgoals, List.drop_drop] at hadvances
      set count := if takesGoal getYaw gm nav then 1 else 0
      rcases hadvances with ⟨hleft, howns', hgoals', hreports⟩ |
        ⟨hleft, hidle, reported, final, hpublished, hreports, hfinal, howner⟩
      · have hmore : taken + count < goals.length := by
          by_contra hover
          exact hleft (List.drop_eq_nil_iff.mpr (by omega))
        rw [howns.2] at howns'
        exact .navigating hmore howns' hgoals' hstate
          (onlyReports_append hpending (addressed_onlyReports hreports _))
      · have hover := List.drop_eq_nil_iff.mp hleft
        rw [howns.2] at howner
        refine .finished (by omega) hidle (Or.inr ⟨hstate, _, final, [], ?_,
          onlyReports_append hpending (addressed_onlyReports hreports client.id), hfinal⟩)
        rw [hpublished, addressed_append, addressed_singleton, if_pos howner, List.append_assoc]
  | finished htaken hidle hconcluding =>
      have htakes : takesGoal getYaw gm nav = false := by
        rw [takesGoal]
        split
        · rw [hidle]
          rfl
        · rfl
      have hstill : (gm.perform getYaw (.update nav readings)).1.state = .idle := by
        have hupdated := gm.update_updated getYaw nav readings
        dsimp only [perform]
        generalize gm.update getYaw nav readings = result at hupdated ⊢
        obtain ⟨gm', nav', published⟩ := result
        obtain ⟨control, info⟩ := published
        dsimp only at hupdated ⊢
        cases hupdated with
        | idle _ hstate' => exact hstate'
        | waiting hstate => rw [hidle] at hstate; cases hstate
        | navigating hstate => rw [hidle] at hstate; cases hstate
        | finished _ _ _ _ _ hstate' => exact hstate'
      rw [htakes]
      exact .finished htaken hstill (hconcluding.append _)

/-- The goal manager is paused, resumed or told to cancel by somebody else. -/
theorem Underway.command (h : Underway goals taken gm client pending)
    {msg : NavigationControl} (hself : msg.userId ≠ GoalManager.id)
    (hmsg : msg.type = .pause ∨ msg.type = .resume ∨
      msg.type = .cancel ∧ msg.userId ≠ client.id) (readings : ControlReadings) :
    Underway goals taken (gm.controlCallback msg readings).1 client
      (pending ++ addressed client.id (gm.controlCallback msg readings).2) := by
  obtain ⟨notices, response, hpublished, hresponse, hhandled⟩ :=
    gm.controlCallback_handled msg readings hself
  rw [hpublished]
  have hfinished : ∀ gm' : GoalManager, SameMission gm' gm → taken = goals.length →
      gm.state = .idle → Concluding client pending → ∀ msgs,
        Underway goals taken gm' client (pending ++ msgs) :=
    fun gm' hsame htaken hidle hconcluding msgs =>
      .finished htaken (hsame.state.trans hidle) (hconcluding.append msgs)
  have hrequest : msg.type ≠ .request := by
    rcases hmsg with htype | htype | ⟨htype, -⟩ <;> rw [htype] <;> decide
  cases hhandled with
  | accepted htype => exact absurd htype hrequest
  | refused htype => exact absurd htype hrequest
  | cancelled htype howner =>
      have hother : msg.userId ≠ client.id := by
        rcases hmsg with hmsg | hmsg | ⟨-, hmsg⟩
        · rw [htype] at hmsg
          cases hmsg
        · rw [htype] at hmsg
          cases hmsg
        · exact hmsg
      cases h with
      | navigating htaken howns => exact absurd (howner.2.symm.trans howns.2) hother
      | finished htaken hidle =>
          rw [howner.1] at hidle
          cases hidle
  | reported htype hreport hsame =>
      cases h with
      | navigating htaken howns hgoals hstate hpending =>
          refine .navigating htaken ((hsame.owns_iff _).mpr howns) (hsame.goals ▸ hgoals) hstate
            (onlyReports_append hpending ?_)
          apply addressed_onlyReports
          intro other hother
          obtain rfl := List.mem_singleton.mp hother
          exact hreport
      | finished htaken hidle hconcluding => exact hfinished _ hsame htaken hidle hconcluding _
  | declined htype howner hdeclined hanswer hsame =>
      cases h with
      | navigating htaken howns hgoals hstate hpending =>
          have hother : msg.userId ≠ client.id := by
            rintro huser
            rw [huser] at howner
            exact howner howns
          rw [List.nil_append, addressed_response client.id hresponse, if_neg hother,
            List.append_nil]
          exact .navigating htaken ((hsame.owns_iff _).mpr howns) (hsame.goals ▸ hgoals) hstate
            hpending
      | finished htaken hidle hconcluding => exact hfinished _ hsame htaken hidle hconcluding _
  | unknown hunknown =>
      refine absurd ?_ hunknown
      rcases hmsg with htype | htype | ⟨htype, -⟩
      · exact Or.inr (Or.inr (Or.inl htype))
      · exact Or.inr (Or.inr (Or.inr htype))
      · exact Or.inr (Or.inl htype)

theorem Concluding.receive {msg : NavigationControl} {rest : List NavigationControl}
    (h : Concluding client (msg :: rest)) (hself : msg.userId ≠ client.id)
    (haddressed : msg.navCurrentUserId = client.id) :
    Concluding (client.controlCallback msg) rest := by
  have hstate := controlCallback_state hself haddressed
  rcases h with hdone | ⟨hnavigating, reports, final, later, hpending, hreports, hfinal⟩
  · left
    rw [hstate]
    split
    · exact hdone
    · rw [GoalManagerClient.onMessage, hdone]
      exact hdone
  · rcases List.cons_eq_append_iff.mp hpending with ⟨rfl, heq⟩ | ⟨reports, rfl, rfl⟩
    · obtain ⟨rfl, -⟩ := List.cons.inj heq
      left
      rw [hstate, if_neg (by rw [hfinal]; decide), GoalManagerClient.onMessage, hnavigating]
      dsimp only
      rw [GoalManagerClient.onNavigating, hfinal]
      rfl
    · obtain ⟨hreport, hreports⟩ := onlyReports_cons_iff.mp hreports
      have hsame := state_of_report hself haddressed hreport (Or.inl hnavigating)
      exact Or.inr ⟨hsame.trans hnavigating, reports, final, later, rfl, hreports, hfinal⟩

theorem Underway.receive {msg : NavigationControl} {rest : List NavigationControl}
    (h : Underway goals taken gm client (addressed client.id (msg :: rest)))
    (hself : msg.userId ≠ client.id) :
    Underway goals taken gm (client.controlCallback msg) (addressed client.id rest) := by
  by_cases haddressed : msg.navCurrentUserId = client.id
  · rw [addressed_cons_of_eq haddressed] at h
    cases h with
    | navigating htaken howns hgoals hstate hpending =>
        obtain ⟨hreport, hpending⟩ := onlyReports_cons_iff.mp hpending
        have hsame := state_of_report hself haddressed hreport (Or.inl hstate)
        refine .navigating htaken ?_ hgoals (hsame.trans hstate) hpending
        rw [controlCallback_id]
        exact howns
    | finished htaken hidle hconcluding =>
        exact .finished htaken hidle (hconcluding.receive hself haddressed)
  · rw [addressed_cons_of_ne haddressed] at h
    rw [controlCallback_of_other (Or.inr haddressed)]
    exact h

end Underway

section Network

variable {names : ι → String} {i : ι} {goals : List PoseStamped} {taken : Nat}
  {net : Network ι} {getYaw : Quaternion → Double}

/-- The mission of a client goes on in the whole network. -/
structure OnCourse (names : ι → String) (i : ι) (goals : List PoseStamped) (taken : Nat)
    (net : Network ι) : Prop where
  identified : Identified names net
  calm : ∀ j, ∀ msg ∈ net.inFlight (.client j) .server,
    msg.type = .pause ∨ msg.type = .resume ∨ msg.type = .cancel ∧ j ≠ i
  underway : Underway goals taken net.server (net.clients i)
    (addressed (net.clients i).id (net.inFlight .server (.client i)))

omit [DecidableEq ι] in
/-- What a call publishes, and what it leaves of the client that navigates. -/
theorem call_undisturbed {j : ι} {call : Call} (h : Undisturbed i (.call j call))
    (client : GoalManagerClient) :
    (∀ msg ∈ (client.call call).2, msg.type = .pause ∨ msg.type = .resume ∨
        msg.type = .cancel ∧ j ≠ i) ∧
      (j = i → (client.call call).1.state = client.state) := by
  cases call with
  | sendGoals goals => exact absurd h id
  | cancel =>
      refine ⟨?_, fun hij => absurd hij h⟩
      intro msg hmsg
      dsimp only [GoalManagerClient.call] at hmsg
      rw [GoalManagerClient.cancel] at hmsg
      split at hmsg
      · cases hmsg
      · obtain rfl := Option.some.inj hmsg
        exact Or.inr (Or.inr ⟨rfl, h⟩)
  | pause =>
      refine ⟨?_, fun _ => rfl⟩
      intro msg hmsg
      obtain rfl := Option.some.inj hmsg
      exact Or.inl rfl
  | resume =>
      refine ⟨?_, fun _ => rfl⟩
      intro msg hmsg
      obtain rfl := Option.some.inj hmsg
      exact Or.inr (Or.inl rfl)
  | reset =>
      refine ⟨?_, fun hij => absurd hij h⟩
      intro msg hmsg
      cases hmsg

theorem call_onCourse (h : OnCourse names i goals taken net) {j : ι} {call : Call}
    (hcall : Undisturbed i (.call j call)) :
    OnCourse names i goals taken (net.call j call) := by
  obtain ⟨hpublished, hstate⟩ := call_undisturbed hcall (net.clients j)
  refine ⟨call_identified h.identified j call, ?_, ?_⟩
  · intro k msg hmsg
    rw [Network.call] at hmsg
    dsimp only at hmsg
    by_cases hkj : k = j
    · subst hkj
      rw [Channels.broadcast_self] at hmsg
      rcases List.mem_append.mp hmsg with hmsg | hmsg
      · exact h.calm k msg hmsg
      · exact hpublished msg (Option.mem_toList.mp hmsg)
    · rw [Channels.broadcast_of_ne _ _ _ _ (by simpa using hkj)] at hmsg
      exact h.calm k msg hmsg
  · have hclient : ((net.call j call).clients i).id = (net.clients i).id ∧
        ((net.call j call).clients i).state = (net.clients i).state := by
      rw [Network.call]
      dsimp only
      by_cases hij : i = j
      · subst hij
        rw [Function.update_self]
        exact ⟨(call_kept _ call).1, hstate rfl⟩
      · rw [Function.update_of_ne hij]
        exact ⟨rfl, rfl⟩
    have hsame : (net.call j call).inFlight .server (.client i) =
        net.inFlight .server (.client i) := by
      rw [Network.call]
      exact Channels.broadcast_of_ne _ _ _ ((net.clients j).call call).2.toList
        (show Party.server ≠ .client j by simp)
    rw [hsame, hclient.1]
    exact h.underway.congr (SameMission.refl _) hclient.1 hclient.2

theorem operation_onCourse (h : OnCourse names i goals taken net) {op : Operation}
    (hop : Undisturbed i (.operation op)) :
    OnCourse names i goals (taken + goalsTaken getYaw net (.operation op))
      (net.operation getYaw op) := by
  refine ⟨operation_identified h.identified op, ?_, ?_⟩
  · intro j msg hmsg
    exact h.calm j msg hmsg
  · rw [Network.operation]
    dsimp only
    rw [Channels.broadcast_self, addressed_append]
    cases op with
    | update nav readings => exact h.underway.update getYaw nav readings
    | setProgressHeld held =>
        have hsame : SameMission (net.server.setProgressHeld held) net.server := ⟨rfl, rfl, rfl⟩
        rw [show addressed _ (net.server.perform getYaw (.setProgressHeld held)).2 = [] from rfl,
          List.append_nil]
        exact h.underway.congr hsame rfl rfl
    | readParameters params nav =>
        have hsame : SameMission (net.server.readParameters params nav).1 net.server :=
          ⟨rfl, rfl, rfl⟩
        rw [show addressed _ (net.server.perform getYaw (.readParameters params nav)).2 = []
          from rfl, List.append_nil]
        exact h.underway.congr hsame rfl rfl
    | goalPose pose readings => exact absurd hop id
    | setFinished now => exact absurd hop id
    | setError reason now => exact absurd hop id
    | setFailed reason now => exact absurd hop id

theorem receive_server_onCourse (hnames : Function.Injective names)
    (h : OnCourse names i goals taken net) (sender : Party ι) {msg : NavigationControl}
    (hmsg : msg ∈ net.inFlight sender .server) (readings : ControlReadings) :
    OnCourse names i goals taken
      ({ net with inFlight := net.inFlight.consume sender .server }.receive .server msg
        readings) := by
  have hsent := h.identified.sent sender .server msg hmsg
  refine ⟨receive_identified h.identified sender .server msg readings, ?_, ?_⟩
  · intro j other hother
    rw [Network.receive] at hother
    dsimp only at hother
    rw [Channels.broadcast_of_ne _ _ _ _ (by simp), Channels.consume] at hother
    split at hother
    · exact h.calm j other (List.mem_of_mem_tail hother)
    · exact h.calm j other hother
  · rw [Network.receive]
    dsimp only
    rw [Channels.broadcast_self, addressed_append,
      Channels.consume_of_receiver_ne _ _ _ (show Party.client i ≠ .server by simp)]
    cases sender with
    | server =>
        rw [controlCallback_of_self _ _ _ hsent]
        dsimp only
        rw [show addressed (net.clients i).id [] = [] from rfl, List.append_nil]
        exact h.underway
    | client j =>
        have hself : msg.userId ≠ GoalManager.id := by
          rw [hsent.userId]
          exact clientId_ne (by decide)
        refine h.underway.command hself ?_ readings
        rcases h.calm j msg hmsg with htype | htype | ⟨htype, hji⟩
        · exact Or.inl htype
        · exact Or.inr (Or.inl htype)
        · refine Or.inr (Or.inr ⟨htype, ?_⟩)
          rw [hsent.userId, h.identified.ids]
          exact fun heq => hji (hnames (clientId_injective heq))

theorem receive_client_onCourse (h : OnCourse names i goals taken net) (sender : Party ι)
    (j : ι) {msg : NavigationControl} {rest : List NavigationControl}
    (hmsg : net.inFlight sender (.client j) = msg :: rest) (readings : ControlReadings) :
    OnCourse names i goals taken
      ({ net with inFlight := net.inFlight.consume sender (.client j) }.receive (.client j) msg
        readings) := by
  have hsent := h.identified.sent sender (.client j) msg (by rw [hmsg]; exact List.mem_cons_self)
  refine ⟨receive_identified h.identified sender (.client j) msg readings, ?_, ?_⟩
  · intro k other hother
    rw [Network.receive] at hother
    dsimp only at hother
    rw [Channels.consume_of_receiver_ne _ _ _ (by simp)] at hother
    exact h.calm k other hother
  · rw [Network.receive]
    dsimp only
    by_cases hij : i = j
    · subst hij
      rw [Function.update_self, controlCallback_id]
      have hunderway := h.underway
      cases sender with
      | server =>
          rw [hmsg] at hunderway
          rw [Channels.consume_self, hmsg, List.tail_cons]
          refine hunderway.receive ?_
          rw [h.identified.ids, show msg.userId = GoalManager.id from hsent]
          exact (clientId_ne (by decide)).symm
      | client k =>
          have hother : msg.navCurrentUserId ≠ (net.clients i).id := by
            rw [h.identified.ids, hsent.navCurrentUserId]
            exact (clientId_ne (by decide)).symm
          rw [controlCallback_of_other (Or.inr hother),
            Channels.consume_of_sender_ne _ _ _ (show Party.server ≠ .client k by simp)]
          exact hunderway
    · rw [Function.update_of_ne hij, Channels.consume_of_receiver_ne _ _ _ (by simpa using hij)]
      exact h.underway

theorem step_onCourse (hnames : Function.Injective names)
    (h : OnCourse names i goals taken net) (e : Event ι) (he : Undisturbed i e) :
    OnCourse names i goals (taken + goalsTaken getYaw net e) (step getYaw net e) := by
  cases e with
  | call j call => exact call_onCourse h he
  | operation op => exact operation_onCourse h he
  | deliver sender receiver readings =>
      change OnCourse names i goals taken (net.deliver sender receiver readings)
      rw [Network.deliver]
      split
      · exact h
      · rename_i msg rest hmsg
        cases receiver with
        | server =>
            have hmem : msg ∈ net.inFlight sender .server := by
              rw [hmsg]
              exact List.mem_cons_self
            exact receive_server_onCourse hnames h sender hmem readings
        | client j => exact receive_client_onCourse h sender j hmsg readings

theorem run_wellFormed {past : List (Network ι × Event ι)}
    (hrun : Run (step getYaw) (Start names) net past) : WellFormed net.server := by
  refine hrun.invariant_of_all (motive := fun net : Network ι => WellFormed net.server) ?_ ?_
  · rintro net ⟨⟨params, nav, hserver⟩, -, -⟩
    rw [hserver]
    exact create_wellFormed params nav
  · intro net e h
    cases e with
    | call j call => exact h
    | operation op => exact step_wellFormed getYaw h (.operation op)
    | deliver sender receiver readings =>
        change WellFormed (net.deliver sender receiver readings).server
        rw [Network.deliver]
        split
        · exact h
        · rename_i msg rest hmsg
          cases receiver with
          | server => exact step_wellFormed getYaw h (.control msg readings)
          | client j => exact h

end Network

/-- From when its client knows that it navigates and nothing is in flight, a mission that
nobody takes over or calls off is finished exactly when as many updates as it has goals have
found the first one left to be reached; until then the goals left are its last ones. Once
the client has received what it is sent, it knows which of the two it is. -/
theorem mission_delivered {names : ι → String} (hnames : Function.Injective names)
    {getYaw : Quaternion → Double} {net net' : Network ι} {past later : List (Network ι × Event ι)}
    (hrun : Run (step getYaw) (Start names) net past)
    (hawaited : ∀ p ∈ past, HandsAwaited p.1 p.2) (hquiet : net.inFlight.Quiet) {i : ι}
    (hnavigating : (net.clients i).state = .acceptedAndNavigating)
    (hlater : Run (step getYaw) (· = net) net' later) (hcalm : ∀ p ∈ later, Undisturbed i p.2) :
    let goals := net.server.goals.goals
    let taken := total (goalsTaken getYaw) later
    taken ≤ goals.length ∧
      (taken < goals.length →
        net'.server.Owns (net'.clients i).id ∧ net'.server.goals.goals = goals.drop taken) ∧
      (taken = goals.length → net'.server.state = .idle) ∧
      (net'.inFlight .server (.client i) = [] → (net'.clients i).state =
        if taken = goals.length then .navigationFinished else .acceptedAndNavigating) := by
  have hwellFormed := run_wellFormed hrun
  have hconsistent : Consistent names net := hrun.invariant HandsAwaited
    (fun _ => start_consistent) (fun _ e h he => step_consistent hnames h e he) hawaited
  have howns : net.server.Owns (net.clients i).id :=
    (owner_agrees hnames hrun hawaited hquiet i).mpr hnavigating
  have hcourse : OnCourse names i net.server.goals.goals 0 net := by
    refine ⟨hconsistent.identified, ?_, ?_⟩
    · intro j msg hmsg
      rw [hquiet] at hmsg
      cases hmsg
    · refine .navigating ?_ howns rfl hnavigating ?_
      · exact List.length_pos_of_ne_nil (hwellFormed.active_iff.mp howns.1)
      · rw [hquiet]
        exact fun msg hmsg => absurd hmsg List.not_mem_nil
  have hfinal : OnCourse names i net.server.goals.goals
      (total (goalsTaken getYaw) later) net' := by
    refine hlater.history_invariant
      (motive := fun net' later => OnCourse names i net.server.goals.goals
        (total (goalsTaken getYaw) later) net') (fun _ e => Undisturbed i e) ?_ ?_ hcalm
    · rintro _ rfl
      exact hcourse
    · intro net' e later h he
      rw [total, Nat.add_comm]
      exact step_onCourse hnames h e he
  cases hfinal.underway with
  | navigating htaken howns' hgoals hstate hpending =>
      refine ⟨htaken.le, fun _ => ⟨howns', hgoals⟩, fun heq => absurd heq htaken.ne, fun _ => ?_⟩
      rw [if_neg htaken.ne]
      exact hstate
  | finished htaken hidle hconcluding =>
      refine ⟨htaken.le, fun hlt => absurd htaken hlt.ne, fun _ => hidle, fun hempty => ?_⟩
      rw [if_pos htaken]
      rw [hempty] at hconcluding
      rcases hconcluding with hdone | ⟨-, reports, final, rest, hnil, -⟩
      · exact hdone
      · exact absurd hnil.symm (List.append_ne_nil_of_right_ne_nil _ (List.cons_ne_nil _ _))

def exampleCourse : List (Event Unit) :=
  [.operation (.setProgressHeld true), .operation (.update { robotPose := some {} } {}),
    .operation (.setProgressHeld false), .call () .pause, .deliver (.client ()) .server {},
    .operation (.update { robotPose := some {} } {}), .deliver .server (.client ()) {},
    .deliver .server (.client ()) {}, .deliver .server (.client ()) {}]

theorem mission_delivered_example :
    let net := accepting.foldl atOrigin exampleNetwork
    ((exampleCourse.foldl atOrigin net).clients ()).state = .navigationFinished := by
  have hstart : Run atOrigin (Start fun _ => "robot") exampleNetwork [] :=
    .init exampleNetwork_start
  have hlater : Run atOrigin (· = accepting.foldl atOrigin exampleNetwork) _ [] := .init rfl
  have hawaited : ∀ p ∈ history atOrigin exampleNetwork accepting [],
      HandsAwaited p.1 p.2 := by
    simp only [accepting, history, List.forall_mem_cons]
    refine ⟨?_, trivial, trivial, trivial, trivial, List.forall_mem_nil _⟩
    unfold HandsAwaited
    decide +kernel
  have hquiet : (accepting.foldl atOrigin exampleNetwork).inFlight.Quiet := by
    rintro (_ | ⟨⟨⟩⟩) (_ | ⟨⟨⟩⟩) <;> decide +kernel
  have hcalm : ∀ p ∈ history atOrigin (accepting.foldl atOrigin exampleNetwork) exampleCourse
      [], Undisturbed () p.2 := by
    simp only [exampleCourse, history, List.forall_mem_cons]
    exact ⟨trivial, trivial, trivial, trivial, trivial, trivial, trivial, trivial, trivial,
      List.forall_mem_nil _⟩
  obtain ⟨-, -, -, hknows⟩ := mission_delivered (fun _ _ _ => rfl) (hstart.foldl accepting)
    hawaited hquiet (i := ()) (by decide +kernel) (hlater.foldl exampleCourse) hcalm
  have htaken : total (goalsTaken fun _ => 0)
      (history atOrigin (accepting.foldl atOrigin exampleNetwork) exampleCourse []) =
        (accepting.foldl atOrigin exampleNetwork).server.goals.goals.length := by
    decide +kernel
  have hstate := hknows (by decide +kernel)
  rw [if_pos htaken] at hstate
  exact hstate

end EasyNav.MissionDelivery
