import EasyNav.MissionClient
import EasyNav.MissionServer

namespace EasyNav.MissionOwnership

open EasyNav.DoubleArithmetic
open EasyNav.NavigationState
open EasyNav.MissionMessages
open EasyNav.MissionClient
open EasyNav.MissionServer
open EasyNav.MissionServer.GoalManager

def addressed (client : String) (msgs : List NavigationControl) : List NavigationControl :=
  msgs.filter fun msg => msg.navCurrentUserId = client

theorem addressed_append (client : String) (a b : List NavigationControl) :
    addressed client (a ++ b) = addressed client a ++ addressed client b :=
  List.filter_append _ _

theorem addressed_cons_of_eq {client : String} {msg : NavigationControl}
    (h : msg.navCurrentUserId = client) (msgs : List NavigationControl) :
    addressed client (msg :: msgs) = msg :: addressed client msgs :=
  List.filter_cons_of_pos (by simpa using h)

theorem addressed_cons_of_ne {client : String} {msg : NavigationControl}
    (h : msg.navCurrentUserId ≠ client) (msgs : List NavigationControl) :
    addressed client (msg :: msgs) = addressed client msgs :=
  List.filter_cons_of_neg (by simpa using h)

def OnlyReports (msgs : List NavigationControl) : Prop := ∀ msg ∈ msgs, msg.IsReport

def NoAnswer (msgs : List NavigationControl) : Prop := ∀ msg ∈ msgs, ¬ msg.IsAnswer

/-- What a client is told while it does not ask for a mission: `before` and `after` say
whether it owns the active mission. -/
inductive ReportsOwnership : List NavigationControl → Prop → Prop → Prop
  | nothing {before after : Prop} (h : before ↔ after) : ReportsOwnership [] before after
  | report {msg : NavigationControl} {msgs : List NavigationControl} {before after : Prop}
      (hmsg : msg.IsReport) (h : ReportsOwnership msgs before after) :
      ReportsOwnership (msg :: msgs) before after
  | ended {msg : NavigationControl} {before after : Prop} (hreport : ¬ msg.IsReport)
      (hanswer : ¬ msg.IsAnswer) (hafter : ¬ after) : ReportsOwnership [msg] before after

theorem ReportsOwnership.of_isTerminal {msg : NavigationControl} {before after : Prop}
    (hmsg : msg.IsTerminal) (hafter : ¬ after) : ReportsOwnership [msg] before after :=
  .ended hmsg.not_isReport hmsg.not_isAnswer hafter

/-- How the state of a client, the requests it has in flight, the messages on their way
to it and whether it owns the active mission go together. At most one request or answer
is in flight, and what follows the answer tells whether the mission goes on. -/
inductive Agreement : ClientState → Nat → List NavigationControl → Prop → Prop
  | resting {state : ClientState} {pending : List NavigationControl} {owns : Prop}
      (hstate : state ≠ .sentGoal ∧ state ≠ .sentPreempt ∧ state ≠ .acceptedAndNavigating)
      (hpending : NoAnswer pending) (howns : ¬ owns) : Agreement state 0 pending owns
  | navigating {pending : List NavigationControl} {owns : Prop} (hpending : NoAnswer pending)
      (howns : owns ↔ OnlyReports pending) : Agreement .acceptedAndNavigating 0 pending owns
  | requested {pending : List NavigationControl} {owns : Prop} (hpending : NoAnswer pending)
      (howns : ¬ owns) : Agreement .sentGoal 1 pending owns
  | preempting {pending : List NavigationControl} {owns : Prop} (hpending : NoAnswer pending)
      (howns : owns ↔ OnlyReports pending) : Agreement .sentPreempt 1 pending owns
  | accepted {state : ClientState} {answer : NavigationControl}
      {earlier later : List NavigationControl} {owns : Prop}
      (hstate : state = .sentGoal ∨ state = .sentPreempt) (hearlier : NoAnswer earlier)
      (hanswer : answer.type = .accept) (hlater : NoAnswer later)
      (howns : owns ↔ OnlyReports later) : Agreement state 0 (earlier ++ answer :: later) owns
  | refused {answer : NavigationControl} {earlier later : List NavigationControl}
      {owns : Prop} (hearlier : NoAnswer earlier) (hanswer : answer.IsRejection)
      (hlater : NoAnswer later) (howns : ¬ owns) :
      Agreement .sentGoal 0 (earlier ++ answer :: later) owns
  | kept {answer : NavigationControl} {earlier later : List NavigationControl}
      {owns : Prop} (hearlier : NoAnswer earlier) (hanswer : answer.IsRejection)
      (hlater : NoAnswer later)
      (howns : OnlyReports earlier → (owns ↔ OnlyReports later)) :
      Agreement .sentPreempt 0 (earlier ++ answer :: later) owns

section Lists

variable {msg : NavigationControl} {msgs : List NavigationControl}

theorem noAnswer_append (h : NoAnswer msgs) (hmsg : ¬ msg.IsAnswer) :
    NoAnswer (msgs ++ [msg]) := by
  intro other hother
  rcases List.mem_append.mp hother with hother | hother
  · exact h other hother
  · rw [List.mem_singleton.mp hother]
    exact hmsg

theorem onlyReports_append_iff :
    OnlyReports (msgs ++ [msg]) ↔ OnlyReports msgs ∧ msg.IsReport := by
  unfold OnlyReports
  simp [or_imp, forall_and]

theorem onlyReports_cons_iff :
    OnlyReports (msg :: msgs) ↔ msg.IsReport ∧ OnlyReports msgs := by
  unfold OnlyReports
  simp

theorem noAnswer_cons_iff : NoAnswer (msg :: msgs) ↔ ¬ msg.IsAnswer ∧ NoAnswer msgs := by
  unfold NoAnswer
  simp

end Lists

section Steps

variable {state : ClientState} {requests : Nat} {pending : List NavigationControl}
  {owns owns' : Prop} {msg : NavigationControl}

theorem Agreement.congr (h : Agreement state requests pending owns) (hiff : owns ↔ owns') :
    Agreement state requests pending owns' := by
  rwa [← propext hiff]

theorem Agreement.report (h : Agreement state requests pending owns) (hmsg : msg.IsReport) :
    Agreement state requests (pending ++ [msg]) owns := by
  have hanswer := hmsg.not_isAnswer
  have honly : ∀ msgs, OnlyReports (msgs ++ [msg]) ↔ OnlyReports msgs :=
    fun msgs => onlyReports_append_iff.trans (and_iff_left hmsg)
  cases h with
  | resting hstate hpending howns => exact .resting hstate (noAnswer_append hpending hanswer) howns
  | navigating hpending howns =>
      exact .navigating (noAnswer_append hpending hanswer) (howns.trans (honly _).symm)
  | requested hpending howns => exact .requested (noAnswer_append hpending hanswer) howns
  | preempting hpending howns =>
      exact .preempting (noAnswer_append hpending hanswer) (howns.trans (honly _).symm)
  | accepted hstate hearlier haccept hlater howns =>
      rw [List.append_assoc, List.cons_append]
      exact .accepted hstate hearlier haccept (noAnswer_append hlater hanswer)
        (howns.trans (honly _).symm)
  | refused hearlier hrefused hlater howns =>
      rw [List.append_assoc, List.cons_append]
      exact .refused hearlier hrefused (noAnswer_append hlater hanswer) howns
  | kept hearlier hrefused hlater howns =>
      rw [List.append_assoc, List.cons_append]
      exact .kept hearlier hrefused (noAnswer_append hlater hanswer)
        (fun hreports => (howns hreports).trans (honly _).symm)

theorem Agreement.ended (h : Agreement state requests pending owns) (hreport : ¬ msg.IsReport)
    (hanswer : ¬ msg.IsAnswer) (howns' : ¬ owns') :
    Agreement state requests (pending ++ [msg]) owns' := by
  have hnot : ∀ msgs, owns' ↔ OnlyReports (msgs ++ [msg]) := fun msgs =>
    iff_of_false howns' fun honly => hreport (onlyReports_append_iff.mp honly).2
  cases h with
  | resting hstate hpending _ => exact .resting hstate (noAnswer_append hpending hanswer) howns'
  | navigating hpending _ => exact .navigating (noAnswer_append hpending hanswer) (hnot _)
  | requested hpending _ => exact .requested (noAnswer_append hpending hanswer) howns'
  | preempting hpending _ => exact .preempting (noAnswer_append hpending hanswer) (hnot _)
  | accepted hstate hearlier haccept hlater _ =>
      rw [List.append_assoc, List.cons_append]
      exact .accepted hstate hearlier haccept (noAnswer_append hlater hanswer) (hnot _)
  | refused hearlier hrefused hlater _ =>
      rw [List.append_assoc, List.cons_append]
      exact .refused hearlier hrefused (noAnswer_append hlater hanswer) howns'
  | kept hearlier hrefused hlater _ =>
      rw [List.append_assoc, List.cons_append]
      exact .kept hearlier hrefused (noAnswer_append hlater hanswer) (fun _ => hnot _)

theorem Agreement.reportsOwnership {msgs : List NavigationControl}
    (h : Agreement state requests pending owns) (htold : ReportsOwnership msgs owns owns') :
    Agreement state requests (pending ++ msgs) owns' := by
  induction htold generalizing pending with
  | nothing hiff =>
      rw [List.append_nil]
      exact h.congr hiff
  | report hmsg _ ih =>
      rw [List.append_cons]
      exact ih (h.report hmsg)
  | ended hreport hanswer hafter => exact h.ended hreport hanswer hafter

theorem Agreement.accept (h : Agreement state 1 pending owns) (hmsg : msg.type = .accept)
    (howns' : owns') : Agreement state 0 (pending ++ [msg]) owns' := by
  have hreports : owns' ↔ OnlyReports [] := iff_of_true howns' (by simp [OnlyReports])
  cases h with
  | requested hpending _ =>
      exact .accepted (Or.inl rfl) hpending hmsg (by simp [NoAnswer]) hreports
  | preempting hpending _ =>
      exact .accepted (Or.inr rfl) hpending hmsg (by simp [NoAnswer]) hreports

/-- The goal manager rejects the request in flight: a client that was navigating still
is, unless its mission was over by then. -/
theorem Agreement.reject (h : Agreement state 1 pending owns) (hmsg : msg.IsRejection)
    (hiff : owns ↔ owns') : Agreement state 0 (pending ++ [msg]) owns' := by
  cases h with
  | requested hpending howns =>
      exact .refused hpending hmsg (by simp [NoAnswer]) (fun h => howns (hiff.mpr h))
  | preempting hpending howns =>
      refine .kept hpending hmsg (by simp [NoAnswer]) ?_
      intro hreports
      exact iff_of_true (hiff.mp (howns.mpr hreports)) (by simp [OnlyReports])

theorem Agreement.requests_le (h : Agreement state requests pending owns) : requests ≤ 1 := by
  cases h <;> decide

/-- With nothing in flight, the client is navigating exactly when it owns the active
mission. -/
theorem Agreement.quiet (h : Agreement state requests pending owns) (hrequests : requests = 0)
    (hpending : pending = []) : owns ↔ state = .acceptedAndNavigating := by
  cases h with
  | resting hstate _ howns => exact iff_of_false howns hstate.2.2
  | navigating _ howns =>
      exact iff_of_true (howns.mpr (by simp [OnlyReports, hpending])) rfl
  | requested => contradiction
  | preempting => contradiction
  | accepted => simp at hpending
  | refused => simp at hpending
  | kept => simp at hpending

end Steps

section Client

/-- What a client is prepared to be handed: while it waits for the answer to a request,
that answer, or a report. -/
def Awaited : ClientState → NavigationControl → Prop
  | .sentGoal, msg => msg.IsAnswer ∨ msg.type = .paused ∨ msg.type = .resumed
  | .sentPreempt, msg => msg.IsAnswer ∨ msg.IsReport
  | _, _ => True

instance (state : ClientState) (msg : NavigationControl) : Decidable (Awaited state msg) :=
  match state with
  | .sentGoal => inferInstanceAs (Decidable (_ ∨ _ ∨ _))
  | .sentPreempt => inferInstanceAs (Decidable (_ ∨ _))
  | .idle | .acceptedAndNavigating | .navigationFinished | .navigationRejected
  | .navigationFailed | .navigationCancelled | .error => inferInstanceAs (Decidable True)

variable {client : GoalManagerClient} {msg : NavigationControl}

theorem controlCallback_of_other (h : msg.userId = client.id ∨ msg.navCurrentUserId ≠ client.id) :
    client.controlCallback msg = client := by
  unfold GoalManagerClient.controlCallback
  rcases h with h | h
  · rw [if_pos h]
  · rw [if_pos h]
    split <;> rfl

@[simp] theorem controlCallback_id : (client.controlCallback msg).id = client.id := by
  unfold GoalManagerClient.controlCallback GoalManagerClient.onMessage
    GoalManagerClient.onSentGoal GoalManagerClient.onSentPreempt GoalManagerClient.onNavigating
    GoalManagerClient.conclude
  split
  · rfl
  · split
    · rfl
    · split <;> try rfl
      dsimp only
      split <;> try rfl
      all_goals split <;> rfl

variable (hself : msg.userId ≠ client.id) (haddressed : msg.navCurrentUserId = client.id)

include hself haddressed

theorem controlCallback_state :
    (client.controlCallback msg).state =
      if msg.type = .paused ∨ msg.type = .resumed then client.state
      else (client.onMessage msg).state := by
  unfold GoalManagerClient.controlCallback
  rw [if_neg hself, if_neg (not_not.mpr haddressed)]
  split
  · rename_i htype
    rw [if_pos (Or.inl htype)]
  · rename_i htype
    rw [if_pos (Or.inr htype)]
  · rename_i hpaused hresumed
    rw [if_neg (not_or.mpr ⟨hpaused, hresumed⟩)]

theorem resting_of_resting
    (hstate : client.state ≠ .sentGoal ∧ client.state ≠ .sentPreempt ∧
      client.state ≠ .acceptedAndNavigating) :
    (client.controlCallback msg).state ≠ .sentGoal ∧
      (client.controlCallback msg).state ≠ .sentPreempt ∧
      (client.controlCallback msg).state ≠ .acceptedAndNavigating := by
  rw [controlCallback_state hself haddressed]
  split
  · exact hstate
  · unfold GoalManagerClient.onMessage
    cases h : client.state <;> simp_all

theorem state_of_report (hreport : msg.IsReport)
    (hstate : client.state = .acceptedAndNavigating ∨ client.state = .sentPreempt) :
    (client.controlCallback msg).state = client.state := by
  rw [controlCallback_state hself haddressed]
  split
  · rfl
  · rename_i htype
    have hfeedback : msg.type = .feedback := hreport.resolve_right htype
    unfold GoalManagerClient.onMessage
    rcases hstate with hstate | hstate <;> rw [hstate]
    · simp [GoalManagerClient.onNavigating, hfeedback, hstate]
    · simp [GoalManagerClient.onSentPreempt, hfeedback, hstate]

theorem resting_of_navigating (hreport : ¬ msg.IsReport)
    (hstate : client.state = .acceptedAndNavigating) :
    (client.controlCallback msg).state ≠ .sentGoal ∧
      (client.controlCallback msg).state ≠ .sentPreempt ∧
      (client.controlCallback msg).state ≠ .acceptedAndNavigating := by
  rw [controlCallback_state hself haddressed, if_neg fun htype => hreport (Or.inr htype)]
  unfold GoalManagerClient.onMessage
  rw [hstate]
  unfold GoalManagerClient.onNavigating GoalManagerClient.conclude
  dsimp only
  split
  · rename_i htype
    exact absurd (Or.inl htype) hreport
  all_goals exact ⟨by simp, by simp, by simp⟩

theorem state_of_answer (hanswer : msg.IsAnswer) :
    (client.state = .sentGoal → (client.controlCallback msg).state =
        if msg.type = .accept then .acceptedAndNavigating else .navigationFailed) ∧
      (client.state = .sentPreempt →
        (client.controlCallback msg).state = .acceptedAndNavigating) := by
  have htype : ¬ (msg.type = .paused ∨ msg.type = .resumed) := by
    rcases hanswer with h | ⟨h, -⟩ <;> simp [h]
  rw [controlCallback_state hself haddressed, if_neg htype]
  unfold GoalManagerClient.onMessage
  refine ⟨fun hstate => ?_, fun hstate => ?_⟩ <;> rw [hstate]
  · rcases hanswer with h | ⟨h, -⟩ <;> simp [GoalManagerClient.onSentGoal, h]
  · rcases hanswer with h | ⟨h, -⟩ <;> simp [GoalManagerClient.onSentPreempt, h]

theorem state_of_awaited (hanswer : ¬ msg.IsAnswer) (hawaited : Awaited client.state msg)
    (hstate : client.state = .sentGoal ∨ client.state = .sentPreempt) :
    (client.controlCallback msg).state = client.state ∧ msg.IsReport := by
  rcases hstate with hstate | hstate
  · rw [hstate] at hawaited
    have htype := hawaited.resolve_left hanswer
    rw [controlCallback_state hself haddressed, if_pos htype]
    exact ⟨rfl, Or.inr htype⟩
  · rw [hstate] at hawaited
    have hreport := hawaited.resolve_left hanswer
    exact ⟨state_of_report hself haddressed hreport (Or.inr hstate), hreport⟩

theorem Agreement.receive {requests : Nat} {pending : List NavigationControl} {owns : Prop}
    (h : Agreement client.state requests (msg :: pending) owns)
    (hawaited : Awaited client.state msg) :
    Agreement (client.controlCallback msg).state requests pending owns := by
  generalize hstate : client.state = state at h
  generalize hall : msg :: pending = all at h
  cases h with
  | resting hresting hpending howns =>
      subst hall hstate
      exact .resting (resting_of_resting hself haddressed hresting)
        (noAnswer_cons_iff.mp hpending).2 howns
  | navigating hpending howns =>
      subst hall
      obtain ⟨hanswer, hpending⟩ := noAnswer_cons_iff.mp hpending
      rw [onlyReports_cons_iff] at howns
      by_cases hreport : msg.IsReport
      · rw [state_of_report hself haddressed hreport (Or.inl hstate), hstate]
        exact .navigating hpending (howns.trans (and_iff_right hreport))
      · exact .resting (resting_of_navigating hself haddressed hreport hstate) hpending
          (fun h => hreport (howns.mp h).1)
  | requested hpending howns =>
      subst hall
      obtain ⟨hanswer, hpending⟩ := noAnswer_cons_iff.mp hpending
      rw [(state_of_awaited hself haddressed hanswer hawaited (Or.inl hstate)).1, hstate]
      exact .requested hpending howns
  | preempting hpending howns =>
      subst hall
      obtain ⟨hanswer, hpending⟩ := noAnswer_cons_iff.mp hpending
      obtain ⟨hsame, hreport⟩ :=
        state_of_awaited hself haddressed hanswer hawaited (Or.inr hstate)
      rw [onlyReports_cons_iff] at howns
      rw [hsame, hstate]
      exact .preempting hpending (howns.trans (and_iff_right hreport))
  | accepted hwaiting hearlier haccept hlater howns =>
      rcases List.cons_eq_append_iff.mp hall with ⟨rfl, heq⟩ | ⟨earlier, rfl, rfl⟩
      · obtain ⟨hmsg, rfl⟩ := List.cons.inj heq
        rw [hmsg] at haccept
        obtain ⟨hgoal, hpreempt⟩ := state_of_answer hself haddressed (Or.inl haccept)
        have hnavigating : (client.controlCallback msg).state = .acceptedAndNavigating := by
          rcases hwaiting with rfl | rfl
          · rw [hgoal hstate, if_pos haccept]
          · exact hpreempt hstate
        rw [hnavigating]
        exact .navigating hlater howns
      · obtain ⟨hanswer, hearlier⟩ := noAnswer_cons_iff.mp hearlier
        rw [(state_of_awaited hself haddressed hanswer hawaited (hstate ▸ hwaiting)).1, hstate]
        exact .accepted hwaiting hearlier haccept hlater howns
  | refused hearlier hrefused hlater howns =>
      rcases List.cons_eq_append_iff.mp hall with ⟨rfl, heq⟩ | ⟨earlier, rfl, rfl⟩
      · obtain ⟨hmsg, rfl⟩ := List.cons.inj heq
        rw [hmsg] at hrefused
        have hfailed := (state_of_answer hself haddressed (Or.inr hrefused)).1 hstate
        rw [hfailed, if_neg (by simp [hrefused.1])]
        exact .resting (by decide) hlater howns
      · obtain ⟨hanswer, hearlier⟩ := noAnswer_cons_iff.mp hearlier
        rw [(state_of_awaited hself haddressed hanswer hawaited (Or.inl hstate)).1, hstate]
        exact .refused hearlier hrefused hlater howns
  | kept hearlier hrefused hlater howns =>
      rcases List.cons_eq_append_iff.mp hall with ⟨rfl, heq⟩ | ⟨earlier, rfl, rfl⟩
      · obtain ⟨hmsg, rfl⟩ := List.cons.inj heq
        rw [hmsg] at hrefused
        rw [(state_of_answer hself haddressed (Or.inr hrefused)).2 hstate]
        exact .navigating hlater (howns (by simp [OnlyReports]))
      · obtain ⟨hanswer, hearlier⟩ := noAnswer_cons_iff.mp hearlier
        obtain ⟨hsame, hreport⟩ :=
          state_of_awaited hself haddressed hanswer hawaited (Or.inr hstate)
        rw [hsame, hstate]
        exact .kept hearlier hrefused hlater
          (fun hreports => howns (onlyReports_cons_iff.mpr ⟨hreport, hreports⟩))

end Client

section Calls

structure IsCall (client : String) (msg : NavigationControl) : Prop where
  userId : msg.userId = client
  navCurrentUserId : msg.navCurrentUserId = ""
  isKnown : IsKnown msg.type

def requests (msgs : List NavigationControl) : Nat := msgs.countP fun msg => msg.type = .request

theorem requests_append (a b : List NavigationControl) :
    requests (a ++ b) = requests a + requests b := List.countP_append

variable {client : GoalManagerClient} {pending : List NavigationControl} {owns : Prop} {n : Nat}

theorem sendGoals_agreement (goals : Goals) (h : Agreement client.state n pending owns) :
    Agreement (client.sendGoals goals).1.state
      (n + requests (client.sendGoals goals).2.toList) pending owns := by
  unfold GoalManagerClient.sendGoals
  dsimp only
  split
  · exact h
  · split
    · rename_i hidle
      rw [hidle] at h
      cases h with
      | resting _ hpending howns => exact .requested hpending howns
      | accepted hstate => simp at hstate
    · rename_i hnavigating
      rw [hnavigating] at h
      cases h with
      | navigating hpending howns => exact .preempting hpending howns
      | resting hstate => exact absurd rfl hstate.2.2
      | accepted hstate => simp at hstate
    · exact h

theorem reset_agreement (h : Agreement client.state n pending owns) :
    Agreement client.reset.state n pending owns := by
  unfold GoalManagerClient.reset
  have hresting : ∀ {state : ClientState}, Agreement state n pending owns →
      state ≠ .sentGoal ∧ state ≠ .sentPreempt ∧ state ≠ .acceptedAndNavigating →
        Agreement .idle n pending owns := by
    intro state h hstate
    cases h with
    | resting _ hpending howns => exact .resting (by decide) hpending howns
    | accepted hwaiting => exact absurd hwaiting (not_or.mpr ⟨hstate.1, hstate.2.1⟩)
    | navigating => exact absurd rfl hstate.2.2
    | requested => exact absurd rfl hstate.1
    | preempting => exact absurd rfl hstate.2.1
    | refused => exact absurd rfl hstate.1
    | kept => exact absurd rfl hstate.2.1
  split
  case h_6 => exact h
  all_goals
    rename_i hstate
    exact hresting h (by rw [hstate]; decide)

theorem call_agreement (call : Call) (h : Agreement client.state n pending owns) :
    Agreement (client.call call).1.state (n + requests (client.call call).2.toList) pending
      owns := by
  cases call with
  | sendGoals goals => exact sendGoals_agreement goals h
  | cancel =>
      change Agreement client.cancel.1.state (n + requests client.cancel.2.toList) pending owns
      unfold GoalManagerClient.cancel
      split <;> exact h
  | pause => exact h
  | resume => exact h
  | reset => exact reset_agreement h

/-- A call keeps the flag: the client waits until it is told. -/
theorem call_kept (client : GoalManagerClient) (call : Call) :
    (client.call call).1.id = client.id ∧ (client.call call).1.paused = client.paused := by
  cases call with
  | sendGoals goals =>
      unfold GoalManagerClient.call GoalManagerClient.sendGoals
      dsimp only
      split
      · exact ⟨rfl, rfl⟩
      · split <;> exact ⟨rfl, rfl⟩
  | cancel =>
      unfold GoalManagerClient.call GoalManagerClient.cancel
      dsimp only
      split <;> exact ⟨rfl, rfl⟩
  | pause => exact ⟨rfl, rfl⟩
  | resume => exact ⟨rfl, rfl⟩
  | reset =>
      unfold GoalManagerClient.call GoalManagerClient.reset
      dsimp only
      split <;> exact ⟨rfl, rfl⟩

theorem call_isCall (call : Call) : ∀ msg ∈ (client.call call).2, IsCall client.id msg := by
  have hcommand : ∀ client : GoalManagerClient, ∀ type, IsKnown type →
      IsCall client.id (client.command type) := fun _ _ h => ⟨rfl, rfl, h⟩
  intro msg hmsg
  cases call with
  | sendGoals goals =>
      unfold GoalManagerClient.call GoalManagerClient.sendGoals at hmsg
      dsimp only at hmsg
      split at hmsg
      · contradiction
      · split at hmsg
        · rw [← Option.some.inj hmsg]
          exact ⟨rfl, rfl, Or.inl rfl⟩
        · rw [← Option.some.inj hmsg]
          exact ⟨rfl, rfl, Or.inl rfl⟩
        · contradiction
  | cancel =>
      unfold GoalManagerClient.call GoalManagerClient.cancel at hmsg
      dsimp only at hmsg
      split at hmsg
      · contradiction
      · rw [← Option.some.inj hmsg]
        exact hcommand client _ (by decide)
  | pause =>
      rw [← Option.some.inj hmsg]
      exact hcommand _ _ (by decide)
  | resume =>
      rw [← Option.some.inj hmsg]
      exact hcommand _ _ (by decide)
  | reset => contradiction

end Calls

section Server

variable {gm gm' : GoalManager} {msg response : NavigationControl} {readings : ControlReadings}
  {notices : List NavigationControl} {client : String}

theorem addressed_singleton (client : String) (msg : NavigationControl) :
    addressed client [msg] = if msg.navCurrentUserId = client then [msg] else [] := by
  simp [addressed, List.filter_singleton]

theorem addressed_response (client : String) (hresponse : IsResponse msg response) :
    addressed client [response] = if msg.userId = client then [response] else [] := by
  rw [addressed_singleton, hresponse.navCurrentUserId]

/-- What handling a message tells the clients that do not request a mission with it. -/
theorem handled_reportsOwnership (h : Handled gm msg readings notices gm' response)
    (hresponse : IsResponse msg response) (hknown : IsKnown msg.type)
    (hrequest : msg.userId = client → msg.type ≠ .request) :
    ReportsOwnership (addressed client (notices ++ [response])) (gm.Owns client)
      (gm'.Owns client) := by
  rw [addressed_append, addressed_response client hresponse]
  by_cases huser : msg.userId = client
  · rw [if_pos huser]
    cases h with
    | accepted htype => exact absurd htype (hrequest huser)
    | refused htype => exact absurd htype (hrequest huser)
    | cancelled _ _ hcancelled _ hstate =>
        exact .of_isTerminal (Or.inr (Or.inr (Or.inr hcancelled)))
          (fun howns => by simp [Owns, hstate] at howns)
    | reported _ hreport hsame =>
        exact .report hreport (.nothing (hsame.owns_iff client).symm)
    | declined _ howns htype hanswer hsame =>
        refine .ended ?_ hanswer (by rw [hsame.owns_iff, ← huser]; exact howns)
        rcases htype with htype | htype <;> simp [NavigationControl.IsReport, htype]
    | unknown hunknown => exact absurd hknown hunknown
  · rw [if_neg huser, List.append_nil]
    have hsame : ∀ {gm'}, SameMission gm' gm →
        ReportsOwnership (addressed client []) (gm.Owns client) (gm'.Owns client) :=
      fun hsame => .nothing (hsame.owns_iff client).symm
    cases h with
    | accepted _ _ _ howns' _ hnotices =>
        have hlost : ¬ gm'.Owns client := fun howns => huser (howns'.2.symm.trans howns.2)
        by_cases howns : gm.Owns client
        · rw [hnotices, if_pos ⟨howns.1, by rw [howns.2]; exact huser⟩, addressed_singleton,
            if_pos (by exact howns.2)]
          exact .of_isTerminal (Or.inr (Or.inr (Or.inr rfl))) hlost
        · have hnone : addressed client notices = [] := by
            rw [hnotices]
            split
            · rename_i hactive
              rw [addressed_singleton, if_neg]
              exact fun hclient => howns ⟨hactive.1, hclient⟩
            · rfl
          rw [hnone]
          exact .nothing (iff_of_false howns hlost)
    | cancelled _ howns _ _ hstate =>
        exact .nothing (iff_of_false (fun howns' => huser (howns.2.symm.trans howns'.2))
          (fun howns' => by simp [Owns, hstate] at howns'))
    | refused _ _ h => exact hsame h
    | reported _ _ h => exact hsame h
    | declined _ _ _ _ h => exact hsame h
    | unknown _ _ h => exact hsame h

theorem handled_answered (h : Handled gm msg readings notices gm' response)
    (hresponse : IsResponse msg response) (huser : msg.userId = client)
    (htype : msg.type = .request) :
    addressed client (notices ++ [response]) = [response] ∧
      (response.type = .accept ∧ gm'.Owns client ∨
        response.IsRejection ∧ (gm.Owns client ↔ gm'.Owns client)) := by
  rw [addressed_append, addressed_response client hresponse, if_pos huser]
  cases h with
  | accepted _ _ haccept howns _ hnotices =>
      refine ⟨?_, Or.inl ⟨haccept, huser ▸ howns⟩⟩
      rw [hnotices]
      split
      · rename_i hpreempts
        rw [addressed_singleton,
          if_neg fun hclient => hpreempts.2 (huser.trans hclient.symm)]
        rfl
      · rfl
  | refused _ hrefused hsame => exact ⟨rfl, Or.inr ⟨hrefused, (hsame.owns_iff client).symm⟩⟩
  | cancelled hcancel => exact absurd (htype.symm.trans hcancel) (by decide)
  | reported hpause =>
      rw [htype] at hpause
      exact absurd hpause (by decide)
  | declined hknown =>
      rw [htype] at hknown
      exact absurd hknown (by decide)
  | unknown hunknown => exact absurd (Or.inl htype) hunknown

theorem reportsOwnership_of_reports {reported msgs : List NavigationControl} {before after : Prop}
    (hreported : ∀ msg ∈ reported, msg.IsReport) (h : ReportsOwnership msgs before after) :
    ReportsOwnership (reported ++ msgs) before after := by
  induction reported with
  | nil => exact h
  | cons msg reported ih =>
      exact .report (hreported msg List.mem_cons_self)
        (ih fun other hother => hreported other (List.mem_cons_of_mem _ hother))

theorem addressed_reports {owner : String} {reported : List NavigationControl}
    (hreported : ∀ msg ∈ reported, msg.type = .feedback ∧ msg.userId = GoalManager.id ∧
      msg.navCurrentUserId = owner) :
    ∀ msg ∈ addressed client reported, msg.IsReport := by
  intro msg hmsg
  exact Or.inl (hreported msg (List.mem_filter.mp hmsg).1).1

theorem updated_reportsOwnership {getYaw : Quaternion → Double} {nav : NavState}
    {published : List NavigationControl} (h : Updated gm getYaw nav gm' published) :
    ReportsOwnership (addressed client published) (gm.Owns client) (gm'.Owns client) := by
  cases h with
  | idle hstate hstate' =>
      exact .nothing (iff_of_false (fun howns => by simp [Owns, hstate] at howns)
        (fun howns => by simp [Owns, hstate'] at howns))
  | waiting _ hsame => exact .nothing (hsame.owns_iff client).symm
  | navigating hstate _ hreported _ _ howns' =>
      rw [← List.append_nil (addressed client published)]
      refine reportsOwnership_of_reports (addressed_reports hreported) (.nothing ?_)
      constructor
      · exact fun howns => ⟨howns'.1, howns'.2.trans howns.2⟩
      · exact fun howns => ⟨hstate, howns'.2.symm.trans howns.2⟩
  | finished hstate _ hreported _ _ hstate' _ _ hmsg =>
      have hended : ¬ gm'.Owns client := fun howns => by simp [Owns, hstate'] at howns
      rw [addressed_append]
      refine reportsOwnership_of_reports (addressed_reports hreported) ?_
      rw [addressed_singleton]
      split
      · exact .of_isTerminal (Or.inl hmsg.1) hended
      · rename_i hother
        exact .nothing (iff_of_false
          (fun howns => hother (hmsg.2.2.trans howns.2)) hended)

theorem setEnded_reportsOwnership {type : ControlType} {statusMessage : String} {now : Time}
    (htype : type = .finished ∨ type = .error ∨ type = .failed) :
    ReportsOwnership (addressed client [(gm.setEnded type statusMessage now).2]) (gm.Owns client)
      ((gm.setEnded type statusMessage now).1.Owns client) := by
  have hended : ¬ (gm.setEnded type statusMessage now).1.Owns client :=
    fun howns => absurd (show MissionState.idle = .active from howns.1) (by decide)
  rw [addressed_singleton]
  split
  · exact .of_isTerminal (gm.setEnded_isTerminal statusMessage now htype) hended
  · rename_i hother
    exact .nothing (iff_of_false (fun howns => hother howns.2) hended)

theorem perform_reportsOwnership (getYaw : Quaternion → Double) (op : Operation)
    (hclient : client ≠ GoalManager.initposeId) :
    ReportsOwnership (addressed client (gm.perform getYaw op).2) (gm.Owns client)
      ((gm.perform getYaw op).1.Owns client) := by
  cases op with
  | goalPose pose readings =>
      have hself : (gm.poseRequest pose).userId ≠ GoalManager.id := by
        change initposeId ≠ GoalManager.id
        decide
      obtain ⟨notices, response, hpublished, hresponse, hhandled⟩ :=
        gm.controlCallback_handled (gm.poseRequest pose) readings hself
      change ReportsOwnership
        (addressed client (gm.controlCallback (gm.poseRequest pose) readings).2) _ _
      rw [hpublished]
      exact handled_reportsOwnership hhandled hresponse (Or.inl rfl)
        fun huser => absurd huser.symm hclient
  | setFinished now => exact setEnded_reportsOwnership (Or.inl rfl)
  | setError reason now => exact setEnded_reportsOwnership (Or.inr (Or.inl rfl))
  | setFailed reason now => exact setEnded_reportsOwnership (Or.inr (Or.inr rfl))
  | setProgressHeld held => exact .nothing Iff.rfl
  | readParameters params nav => exact .nothing Iff.rfl
  | update nav readings => exact updated_reportsOwnership (gm.update_updated getYaw nav readings)

theorem handled_userId (h : Handled gm msg readings notices gm' response)
    (hresponse : IsResponse msg response) :
    ∀ other ∈ notices ++ [response], other.userId = GoalManager.id := by
  intro other hother
  rcases List.mem_append.mp hother with hother | hother
  · cases h with
    | accepted _ _ _ _ _ hnotices =>
        rw [hnotices] at hother
        split at hother
        · rw [List.mem_singleton.mp hother]
          rfl
        · exact absurd hother List.not_mem_nil
    | _ => exact absurd hother List.not_mem_nil
  · rw [List.mem_singleton.mp hother]
    exact hresponse.userId

theorem controlCallback_userId :
    ∀ other ∈ (gm.controlCallback msg readings).2, other.userId = GoalManager.id := by
  by_cases hself : msg.userId = GoalManager.id
  · rw [controlCallback_of_self _ _ _ hself]
    simp
  · obtain ⟨notices, response, hpublished, hresponse, hhandled⟩ :=
      gm.controlCallback_handled msg readings hself
    rw [hpublished]
    exact handled_userId hhandled hresponse

theorem updated_userId {getYaw : Quaternion → Double} {nav : NavState}
    {published : List NavigationControl} (h : Updated gm getYaw nav gm' published) :
    ∀ other ∈ published, other.userId = GoalManager.id := by
  cases h with
  | idle => simp
  | waiting => simp
  | navigating _ _ hreported => exact fun other hother => (hreported other hother).2.1
  | finished _ _ hreported _ _ _ _ _ hmsg =>
      intro other hother
      rcases List.mem_append.mp hother with hother | hother
      · exact (hreported other hother).2.1
      · rw [List.mem_singleton.mp hother]
        exact hmsg.2.1

theorem perform_userId (getYaw : Quaternion → Double) (op : Operation) :
    ∀ other ∈ (gm.perform getYaw op).2, other.userId = GoalManager.id := by
  cases op with
  | goalPose pose readings => exact controlCallback_userId
  | setFinished now | setError reason now | setFailed reason now =>
      intro other hother
      rw [List.mem_singleton.mp hother]
      rfl
  | setProgressHeld held => simp [perform]
  | readParameters params nav => simp [perform]
  | update nav readings => exact updated_userId (gm.update_updated getYaw nav readings)

/-- What the message of a client does to what that client and the others know. -/
theorem controlCallback_agreement {sender : String} (hcall : IsCall sender msg)
    (hsender : sender ≠ GoalManager.id) {state : ClientState}
    {pending : List NavigationControl} {n : Nat}
    (h : Agreement state (n + if sender = client then requests [msg] else 0) pending
      (gm.Owns client)) (hlast : sender = client → msg.type = .request → n = 0) :
    Agreement state n (pending ++ addressed client (gm.controlCallback msg readings).2)
      ((gm.controlCallback msg readings).1.Owns client) := by
  have hself : msg.userId ≠ GoalManager.id := by
    rw [hcall.userId]
    exact hsender
  obtain ⟨notices, response, hpublished, hresponse, hhandled⟩ :=
    gm.controlCallback_handled msg readings hself
  rw [hpublished]
  by_cases hrequest : sender = client ∧ msg.type = .request
  · obtain ⟨rfl, htype⟩ := hrequest
    rw [if_pos rfl, hlast rfl htype] at h
    have hcount : requests [msg] = 1 := by simp [requests, htype]
    rw [hcount] at h
    obtain ⟨haddressed, hanswer⟩ := handled_answered hhandled hresponse hcall.userId htype
    rw [haddressed, hlast rfl htype]
    rcases hanswer with ⟨haccept, howns⟩ | ⟨hrefused, hsame⟩
    · exact h.accept haccept howns
    · exact h.reject hrefused hsame
  · have hcount : (if sender = client then requests [msg] else 0) = 0 := by
      split
      · rename_i hclient
        have htype : msg.type ≠ .request := fun htype => hrequest ⟨hclient, htype⟩
        simp [requests, htype]
      · rfl
    rw [hcount, Nat.add_zero] at h
    refine h.reportsOwnership (handled_reportsOwnership hhandled hresponse hcall.isKnown ?_)
    intro huser htype
    exact hrequest ⟨hcall.userId.symm.trans huser, htype⟩

end Server

end EasyNav.MissionOwnership
