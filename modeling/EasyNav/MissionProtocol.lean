import EasyNav.MessageChannels
import EasyNav.MissionOwnership
import EasyNav.Runs
import Mathlib.Logic.Function.Basic

/-!
The goal manager and its clients on the control topic. Everybody receives what anybody
publishes, in the order in which it was published.
-/

namespace EasyNav.MissionProtocol

open EasyNav.DoubleArithmetic
open EasyNav.MessageChannels
open EasyNav.NavigationState
open EasyNav.MissionMessages
open EasyNav.MissionClient
open EasyNav.MissionServer
open EasyNav.MissionOwnership
open EasyNav.Runs

universe u

inductive Party (ι : Type u) where
  | server
  | client (i : ι)
  deriving DecidableEq

structure Network (ι : Type u) where
  server : GoalManager
  clients : ι → GoalManagerClient
  inFlight : Channels (Party ι) NavigationControl

inductive Event (ι : Type u) where
  | call (i : ι) (call : Call)
  | operation (op : Operation)
  | deliver (sender receiver : Party ι) (readings : ControlReadings)

variable {ι : Type u} [DecidableEq ι]

def Network.call (net : Network ι) (i : ι) (call : Call) : Network ι :=
  let (client, msg) := (net.clients i).call call
  { net with
    clients := Function.update net.clients i client
    inFlight := net.inFlight.broadcast (.client i) msg.toList }

/-- The goal manager publishes what an operation of its own does. -/
def Network.operation (net : Network ι) (getYaw : Quaternion → Double) (op : Operation) :
    Network ι :=
  let (server, msgs) := net.server.perform getYaw op
  { net with server := server, inFlight := net.inFlight.broadcast .server msgs }

def Network.receive (net : Network ι) (receiver : Party ι) (msg : NavigationControl)
    (readings : ControlReadings) : Network ι :=
  match receiver with
  | .server =>
      let (server, msgs) := net.server.controlCallback msg readings
      { net with server := server, inFlight := net.inFlight.broadcast .server msgs }
  | .client i =>
      { net with
        clients := Function.update net.clients i ((net.clients i).controlCallback msg) }

def Network.deliver (net : Network ι) (sender receiver : Party ι) (readings : ControlReadings) :
    Network ι :=
  match net.inFlight sender receiver with
  | [] => net
  | msg :: _ =>
      { net with inFlight := net.inFlight.consume sender receiver }.receive receiver msg
        readings

def step (getYaw : Quaternion → Double) (net : Network ι) : Event ι → Network ι
  | .call i call => net.call i call
  | .operation op => net.operation getYaw op
  | .deliver sender receiver readings => net.deliver sender receiver readings

/-- A new goal manager, a new client for each name of a node, and nothing in flight. -/
def Start (names : ι → String) (net : Network ι) : Prop :=
  (∃ params nav, net.server = (GoalManager.create params nav).1) ∧
    net.clients = (fun i => GoalManagerClient.create (names i)) ∧ net.inFlight.Quiet

/-- No client that waits for the answer to a request is handed a message to it that is
neither that answer nor a report. -/
def HandsAwaited (net : Network ι) : Event ι → Prop
  | .deliver .server (.client i) _ =>
      ∀ msg ∈ (net.inFlight .server (.client i)).head?,
        msg.navCurrentUserId = (net.clients i).id → Awaited (net.clients i).state msg
  | _ => True

section Identifiers

def clientId (name : String) : String := name ++ "_goal_manager_client"

theorem clientId_injective : Function.Injective clientId :=
  fun _ _ h => (String.append_left_inj _).mp h

theorem clientId_ne {name other : String} (h : other.toList.getLast? ≠ some 't') :
    clientId name ≠ other := by
  rintro rfl
  apply h
  unfold clientId
  rw [String.toList_append, List.getLast?_append]
  rfl

end Identifiers

def Sent (names : ι → String) (sender _receiver : Party ι) (msg : NavigationControl) : Prop :=
  match sender with
  | .server => msg.userId = GoalManager.id
  | .client i => IsCall (clientId (names i)) msg

structure Identified (names : ι → String) (net : Network ι) : Prop where
  ids : ∀ i, (net.clients i).id = clientId (names i)
  sent : net.inFlight.Carries (Sent names)

structure Consistent (names : ι → String) (net : Network ι) : Prop where
  ids : ∀ i, (net.clients i).id = clientId (names i)
  sent : net.inFlight.Carries (Sent names)
  agreement : ∀ i, Agreement (net.clients i).state
    (requests (net.inFlight (.client i) .server))
    (addressed (clientId (names i)) (net.inFlight .server (.client i)))
    (net.server.Owns (clientId (names i)))

section Steps

variable {names : ι → String} {net : Network ι} {getYaw : Quaternion → Double}

omit [DecidableEq ι] in
theorem start_identified (h : Start names net) : Identified names net := by
  obtain ⟨-, hclients, hquiet⟩ := h
  refine ⟨fun i => by rw [hclients]; rfl, ?_⟩
  intro sender receiver msg hmsg
  rw [hquiet] at hmsg
  exact absurd hmsg List.not_mem_nil

theorem operation_identified (h : Identified names net) (op : Operation) :
    Identified names (net.operation getYaw op) :=
  ⟨h.ids, h.sent.broadcast fun _ => perform_userId getYaw op⟩

theorem call_identified (h : Identified names net) (i : ι) (call : Call) :
    Identified names (net.call i call) := by
  unfold Network.call
  dsimp only
  refine ⟨?_, h.sent.broadcast ?_⟩
  · intro j
    dsimp only
    by_cases hij : j = i
    · subst hij
      rw [Function.update_self, (call_kept _ call).1, h.ids]
    · rw [Function.update_of_ne hij, h.ids]
  · intro receiver msg hmsg
    have hcall := call_isCall call msg (Option.mem_toList.mp hmsg)
    rw [h.ids] at hcall
    exact hcall

theorem receive_identified (h : Identified names net) (sender receiver : Party ι)
    (msg : NavigationControl) (readings : ControlReadings) :
    Identified names ({ net with inFlight := net.inFlight.consume sender receiver }.receive
      receiver msg readings) := by
  unfold Network.receive
  cases receiver with
  | server => exact ⟨h.ids, (h.sent.consume _ _).broadcast fun _ => controlCallback_userId⟩
  | client i =>
      refine ⟨?_, h.sent.consume _ _⟩
      intro j
      dsimp only
      by_cases hij : j = i
      · subst hij
        rw [Function.update_self, controlCallback_id, h.ids]
      · rw [Function.update_of_ne hij, h.ids]

omit [DecidableEq ι] in
theorem Consistent.identified (h : Consistent names net) : Identified names net :=
  ⟨h.ids, h.sent⟩

omit [DecidableEq ι] in
theorem start_consistent (h : Start names net) : Consistent names net := by
  obtain ⟨hids, hsent⟩ := start_identified h
  obtain ⟨⟨params, nav, hserver⟩, hclients, hquiet⟩ := h
  refine ⟨hids, hsent, ?_⟩
  intro i
  rw [hclients, hserver, hquiet, hquiet]
  have hidle : (GoalManagerClient.create (names i)).state = .idle := rfl
  exact .resting (by simp [hidle]) (by simp [NoAnswer, addressed]) (fun howns => absurd
    (show MissionState.idle = .active from howns.1) (by decide))

theorem operation_consistent (h : Consistent names net) (op : Operation) :
    Consistent names (net.operation getYaw op) := by
  have hidentified : Identified names (net.operation getYaw op) :=
    operation_identified h.identified op
  obtain ⟨hids, hsent⟩ := hidentified
  refine ⟨hids, hsent, ?_⟩
  intro i
  unfold Network.operation
  dsimp only
  rw [Channels.broadcast_self, Channels.broadcast_of_ne _ _ _ _ (by simp), addressed_append]
  exact (h.agreement i).reportsOwnership
    (perform_reportsOwnership getYaw op (clientId_ne (by decide)))

theorem call_consistent (h : Consistent names net) (i : ι) (call : Call) :
    Consistent names (net.call i call) := by
  obtain ⟨hids, hsent⟩ := call_identified h.identified i call
  refine ⟨hids, hsent, ?_⟩
  intro j
  unfold Network.call
  dsimp only
  rw [Channels.broadcast_of_ne _ _ _ _ (show Party.server ≠ .client i by simp)]
  by_cases hij : j = i
  · subst hij
    rw [Function.update_self, Channels.broadcast_self, requests_append]
    exact call_agreement call (h.agreement j)
  · rw [Function.update_of_ne hij, Channels.broadcast_of_ne _ _ _ _ (by simpa using hij)]
    exact h.agreement j

theorem receive_server_consistent (hnames : Function.Injective names)
    (h : Consistent names net) (sender : Party ι) {msg : NavigationControl}
    {rest : List NavigationControl} (hmsg : net.inFlight sender .server = msg :: rest)
    (readings : ControlReadings) :
    Consistent names
      ({ net with inFlight := net.inFlight.consume sender .server }.receive .server msg
        readings) := by
  obtain ⟨hids, hcarries⟩ := receive_identified h.identified sender .server msg readings
  have hsent := h.sent sender .server msg (by rw [hmsg]; exact List.mem_cons_self)
  refine ⟨hids, hcarries, ?_⟩
  intro i
  unfold Network.receive
  dsimp only
  rw [Channels.broadcast_self, addressed_append,
    Channels.broadcast_of_ne _ _ _ _ (show Party.client i ≠ .server by simp),
    Channels.consume_of_receiver_ne _ _ _ (show Party.client i ≠ .server by simp)]
  have hagreement := h.agreement i
  cases sender with
  | server =>
      rw [GoalManager.controlCallback_of_self _ _ _ hsent,
        Channels.consume_of_sender_ne _ _ _ (show Party.client i ≠ .server by simp)]
      simpa [addressed] using hagreement
  | client j =>
      have hcount : requests (net.inFlight (.client i) .server) =
          requests (net.inFlight.consume (.client j) .server (.client i) .server) +
            if clientId (names j) = clientId (names i) then requests [msg] else 0 := by
        by_cases hij : i = j
        · subst hij
          rw [if_pos rfl, Channels.consume_self, hmsg, List.tail_cons, Nat.add_comm,
            ← requests_append]
          rfl
        · rw [if_neg fun heq => hij (hnames (clientId_injective heq)).symm,
            Channels.consume_of_sender_ne _ _ _ (by simpa using hij), Nat.add_zero]
      rw [hcount] at hagreement
      refine controlCallback_agreement hsent (clientId_ne (by decide)) hagreement ?_
      intro heq htype
      have hle := hagreement.requests_le
      have hone : requests [msg] = 1 := by simp [requests, htype]
      rw [if_pos heq, hone] at hle
      exact Nat.le_zero.mp (Nat.le_of_succ_le_succ hle)

theorem receive_agreement {client : GoalManagerClient} {requests : Nat} {owns : Prop}
    {msg : NavigationControl} {rest : List NavigationControl}
    (hself : msg.userId ≠ client.id)
    (h : Agreement client.state requests (addressed client.id (msg :: rest)) owns)
    (hawaited : msg.navCurrentUserId = client.id → Awaited client.state msg) :
    Agreement (client.controlCallback msg).state requests (addressed client.id rest) owns := by
  by_cases haddressed : msg.navCurrentUserId = client.id
  · rw [addressed_cons_of_eq haddressed] at h
    exact h.receive hself haddressed (hawaited haddressed)
  · rw [addressed_cons_of_ne haddressed] at h
    rw [controlCallback_of_other (Or.inr haddressed)]
    exact h

theorem receive_client_consistent (h : Consistent names net) (sender : Party ι) (i : ι)
    {msg : NavigationControl} {rest : List NavigationControl}
    (hmsg : net.inFlight sender (.client i) = msg :: rest)
    (hawaited : sender = .server → msg.navCurrentUserId = (net.clients i).id →
      Awaited (net.clients i).state msg) (readings : ControlReadings) :
    Consistent names
      ({ net with inFlight := net.inFlight.consume sender (.client i) }.receive (.client i) msg
        readings) := by
  obtain ⟨hids, hcarries⟩ := receive_identified h.identified sender (.client i) msg readings
  have hsent := h.sent sender (.client i) msg (by rw [hmsg]; exact List.mem_cons_self)
  refine ⟨hids, hcarries, ?_⟩
  intro j
  unfold Network.receive
  dsimp only
  rw [Channels.consume_of_receiver_ne _ _ _ (show Party.server ≠ .client i by simp)]
  have hagreement := h.agreement j
  by_cases hij : j = i
  · subst hij
    rw [Function.update_self]
    cases sender with
    | server =>
        rw [← h.ids j, hmsg] at hagreement
        rw [← h.ids j, Channels.consume_self, hmsg, List.tail_cons]
        refine receive_agreement ?_ hagreement (hawaited rfl)
        rw [h.ids, show msg.userId = GoalManager.id from hsent]
        exact (clientId_ne (by decide)).symm
    | client k =>
        have haddressed : msg.navCurrentUserId ≠ (net.clients j).id := by
          rw [h.ids, hsent.navCurrentUserId]
          exact (clientId_ne (by decide)).symm
        rw [controlCallback_of_other (Or.inr haddressed),
          Channels.consume_of_sender_ne _ _ _ (show Party.server ≠ .client k by simp)]
        exact hagreement
  · rw [Function.update_of_ne hij, Channels.consume_of_receiver_ne _ _ _ (by simpa using hij)]
    exact hagreement

theorem step_consistent (hnames : Function.Injective names) (h : Consistent names net)
    (e : Event ι) (hawaited : HandsAwaited net e) : Consistent names (step getYaw net e) := by
  cases e with
  | call i call => exact call_consistent h i call
  | operation op => exact operation_consistent h op
  | deliver sender receiver readings =>
      change Consistent names (net.deliver sender receiver readings)
      unfold Network.deliver
      split
      · exact h
      · rename_i msg rest hmsg
        cases receiver with
        | server => exact receive_server_consistent hnames h sender hmsg readings
        | client i =>
            refine receive_client_consistent h sender i hmsg ?_ readings
            rintro rfl
            exact hawaited msg (by rw [hmsg]; rfl)

end Steps

/-- Agreement on who is navigating. As long as no client that waits for an answer is
handed anything else but a report, whenever nothing is in flight the goal manager is
active for a client exactly when that client is navigating. -/
theorem owner_agrees {names : ι → String} (hnames : Function.Injective names)
    {getYaw : Quaternion → Double} {net : Network ι} {past : List (Network ι × Event ι)}
    (hrun : Run (step getYaw) (Start names) net past)
    (hawaited : ∀ p ∈ past, HandsAwaited p.1 p.2) (hquiet : net.inFlight.Quiet) (i : ι) :
    net.server.Owns (net.clients i).id ↔ (net.clients i).state = .acceptedAndNavigating := by
  have h : Consistent names net := hrun.invariant HandsAwaited (fun _ => start_consistent)
    (fun _ e h he => step_consistent hnames h e he) hawaited
  rw [h.ids]
  refine (h.agreement i).quiet ?_ ?_
  · rw [hquiet]
    rfl
  · rw [hquiet]
    rfl

def exampleNetwork : Network Unit where
  server := (GoalManager.create {} {}).1
  clients := fun _ => GoalManagerClient.create "robot"
  inFlight := fun _ _ => []

theorem exampleNetwork_start : Start (fun _ => "robot") exampleNetwork :=
  ⟨⟨{}, {}, rfl⟩, rfl, fun _ _ => rfl⟩

def accepting : List (Event Unit) :=
  [.call () (.sendGoals { goals := [{}] }), .deliver (.client ()) .server {},
    .deliver (.client ()) (.client ()) {}, .deliver .server .server {},
    .deliver .server (.client ()) {}]

def finishingWhilePreempting : List (Event Unit) :=
  [.operation (.update { robotPose := some {} } {}),
    .call () (.sendGoals { goals := [{}] }), .deliver (.client ()) .server {},
    .deliver (.client ()) (.client ()) {},
    .deliver .server .server {}, .deliver .server .server {}, .deliver .server .server {},
    .deliver .server (.client ()) {}, .deliver .server (.client ()) {},
    .deliver .server (.client ()) {}]

def atOrigin : Network Unit → Event Unit → Network Unit := step fun _ => 0

theorem owner_agrees_accepted :
    let net := accepting.foldl atOrigin exampleNetwork
    net.server.Owns (net.clients ()).id ∧ (net.clients ()).state = .acceptedAndNavigating := by
  have hstart : Run atOrigin (Start fun _ => "robot") exampleNetwork [] :=
    .init exampleNetwork_start
  have hasked := (hstart.next (.call () (.sendGoals { goals := [{}] }))).next
    (.deliver (.client ()) .server {})
  have hanswered := ((hasked.next (.deliver (.client ()) (.client ()) {})).next
    (.deliver .server .server {})).next (.deliver .server (.client ()) {})
  have hnavigating : ((accepting.foldl atOrigin exampleNetwork).clients ()).state =
      .acceptedAndNavigating := by decide +kernel
  refine ⟨(owner_agrees (fun _ _ _ => rfl) hanswered ?_ ?_ ()).mpr hnavigating, hnavigating⟩
  · simp only [List.forall_mem_cons]
    refine ⟨?_, trivial, trivial, trivial, trivial, by simp⟩
    unfold HandsAwaited
    decide +kernel
  · rintro (_ | ⟨⟨⟩⟩) (_ | ⟨⟨⟩⟩) <;> decide +kernel

/-- A mission that finishes while its client preempts it: with nothing in flight, the goal
manager is active for a client in error. -/
theorem owner_disagrees_after_crossing :
    ∃ net past, Run atOrigin (Start fun _ => "robot") net past ∧ net.inFlight.Quiet ∧
      net.server.Owns (net.clients ()).id ∧ (net.clients ()).state = .error := by
  have hstart : Run atOrigin (Start fun _ => "robot") exampleNetwork [] :=
    .init exampleNetwork_start
  refine ⟨_, _, hstart.foldl (accepting ++ finishingWhilePreempting), ?_, by decide +kernel⟩
  rintro (_ | ⟨⟨⟩⟩) (_ | ⟨⟨⟩⟩) <;> decide +kernel

end EasyNav.MissionProtocol
