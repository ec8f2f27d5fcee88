import EasyNav.MissionClient

namespace EasyNav.PythonClient

open EasyNav.NavigationState
open EasyNav.MissionMessages
open EasyNav.MissionClient

/-- The client in Python, whose last control message is never missing. It adds to `seq`
without a bound; the message takes a sum up to the maximum. -/
structure GoalManagerClient where
  id : String
  state : ClientState := .idle
  paused : Bool := false
  lastControl : NavigationControl := {}
  lastFeedback : NavigationControl := {}
  lastResult : NavigationControl := {}
  deriving DecidableEq

namespace GoalManagerClient

/-- The states in which `_on_control` looks at the type of the message. -/
def inProgress (client : GoalManagerClient) : Bool :=
  decide (client.state ≠ .idle) && decide (client.state ≠ .navigationFinished) &&
    decide (client.state ≠ .navigationFailed) && decide (client.state ≠ .navigationCancelled) &&
    decide (client.state ≠ .error)

/-- The states and the messages that `_on_control` tells apart while one is in progress. -/
def matchState (client : GoalManagerClient) (msg : NavigationControl) : GoalManagerClient :=
  match client.state with
  | .sentGoal =>
      match msg.type with
      | .accept => { client with state := .acceptedAndNavigating }
      | .reject => { client with state := .navigationFailed }
      | .error => { client with state := .error }
      | _ => { client with state := .error }
  | .sentPreempt =>
      match msg.type with
      | .feedback => { client with lastFeedback := msg }
      | .accept => { client with state := .acceptedAndNavigating }
      | .reject => { client with state := .acceptedAndNavigating }
      | .error => { client with state := .error }
      | _ => { client with state := .error }
  | .acceptedAndNavigating =>
      match msg.type with
      | .feedback => { client with lastFeedback := msg }
      | .finished =>
          { client with lastResult := msg, state := .navigationFinished, paused := false }
      | .failed =>
          { client with lastResult := msg, state := .navigationFailed, paused := false }
      | .cancelled =>
          { client with lastResult := msg, state := .navigationCancelled, paused := false }
      | _ => { client with lastResult := msg, state := .error }
  | _ => { client with state := .error }

def onControl (client : GoalManagerClient) (msg : NavigationControl) : GoalManagerClient :=
  if msg.userId = client.id then client
  else if msg.navCurrentUserId ≠ client.id then client
  else if msg.type = .paused then { client with paused := true, lastControl := msg }
  else if msg.type = .resumed then { client with paused := false, lastControl := msg }
  else
    let client := if client.inProgress then client.matchState msg else client
    { client with lastControl := msg }

def sendGoals (client : GoalManagerClient) (goals : Goals) :
    GoalManagerClient × Option NavigationControl :=
  if goals.goals.length = 0 then (client, none)
  else
    let msg : NavigationControl :=
      { type := .request
        header := goals.header
        userId := client.id
        seq := client.lastControl.seq + 1
        goals := goals }
    match client.state with
    | .idle => ({ client with state := .sentGoal }, some msg)
    | .acceptedAndNavigating => ({ client with state := .sentPreempt }, some msg)
    | _ => (client, none)

def sendGoal (client : GoalManagerClient) (goal : PoseStamped) :
    GoalManagerClient × Option NavigationControl :=
  client.sendGoals { header := goal.header, goals := [goal] }

def command (client : GoalManagerClient) (type : ControlType) : NavigationControl :=
  { type := type
    header := client.lastControl.header
    userId := client.id
    seq := client.lastControl.seq + 1 }

def cancel (client : GoalManagerClient) : GoalManagerClient × Option NavigationControl :=
  if client.state ≠ .acceptedAndNavigating then (client, none)
  else (client, some (client.command .cancel))

def pause (client : GoalManagerClient) : GoalManagerClient × Option NavigationControl :=
  (client, some (client.command .pause))

def resume (client : GoalManagerClient) : GoalManagerClient × Option NavigationControl :=
  (client, some (client.command .resume))

def reset (client : GoalManagerClient) : GoalManagerClient :=
  if client.state = .navigationFinished ∨ client.state = .navigationRejected ∨
      client.state = .navigationFailed ∨ client.state = .navigationCancelled ∨
      client.state = .error then { client with state := .idle }
  else client

end GoalManagerClient

/-- What either client is fed: a call of its interface, or a message. -/
inductive Input where
  | sendGoal (goal : PoseStamped)
  | call (call : Call)
  | receive (msg : NavigationControl)

/-- The C++ client, with what it published, newest first. -/
def cppStep : MissionClient.GoalManagerClient × List NavigationControl → Input →
    MissionClient.GoalManagerClient × List NavigationControl
  | (client, published), .sendGoal goal =>
      ((client.sendGoal goal).1, (client.sendGoal goal).2.toList ++ published)
  | (client, published), .call call =>
      ((client.call call).1, (client.call call).2.toList ++ published)
  | (client, published), .receive msg => (client.controlCallback msg, published)

namespace GoalManagerClient

def call (client : GoalManagerClient) : Call → GoalManagerClient × Option NavigationControl
  | .sendGoals goals => client.sendGoals goals
  | .cancel => client.cancel
  | .pause => client.pause
  | .resume => client.resume
  | .reset => (client.reset, none)

end GoalManagerClient

/-- The Python client, with what it published, newest first. -/
def pyStep : GoalManagerClient × List NavigationControl → Input →
    GoalManagerClient × List NavigationControl
  | (client, published), .sendGoal goal =>
      ((client.sendGoal goal).1, (client.sendGoal goal).2.toList ++ published)
  | (client, published), .call call =>
      ((client.call call).1, (client.call call).2.toList ++ published)
  | (client, published), .receive msg => (client.onControl msg, published)

/-- The Python client in the place of a C++ one: it makes no difference whether the C++ client
has a last control message yet. -/
def counterpart (cpp : MissionClient.GoalManagerClient) : GoalManagerClient where
  id := cpp.id
  state := cpp.state
  paused := cpp.paused
  lastControl := cpp.last
  lastFeedback := cpp.lastFeedback
  lastResult := cpp.lastResult

section Refinement

variable (cpp : MissionClient.GoalManagerClient)

theorem onMessage_counterpart (msg : NavigationControl) :
    (if (counterpart cpp).inProgress then (counterpart cpp).matchState msg else counterpart cpp) =
      counterpart (cpp.onMessage msg) := by
  rcases cpp with ⟨id, state, paused, lastControl, lastFeedback, lastResult⟩
  rcases msg with ⟨type, header, seq, userId, navCurrentUserId, goals, statusMessage, currentPose,
    navigationTime, distanceToGoal⟩
  cases state with
  | idle => rfl
  | navigationFinished => rfl
  | navigationRejected => rfl
  | navigationFailed => rfl
  | navigationCancelled => rfl
  | error => rfl
  | sentGoal => cases type <;> rfl
  | sentPreempt => cases type <;> rfl
  | acceptedAndNavigating => cases type <;> rfl

theorem onControl_counterpart (msg : NavigationControl) :
    (counterpart cpp).onControl msg = counterpart (cpp.controlCallback msg) := by
  have hid : (counterpart cpp).id = cpp.id := rfl
  rw [GoalManagerClient.onControl, MissionClient.GoalManagerClient.controlCallback, hid]
  split
  · rfl
  · split
    · rfl
    · split
      · rename_i hpaused
        rw [hpaused]
        rfl
      · rename_i hpaused
        split
        · rename_i hresumed
          rw [hresumed]
          rfl
        · rename_i hresumed
          dsimp only
          rw [onMessage_counterpart]
          split
          · contradiction
          · contradiction
          · rfl

theorem sendGoals_counterpart (goals : Goals) :
    (counterpart cpp).sendGoals goals =
      (counterpart (cpp.sendGoals goals).1, (cpp.sendGoals goals).2) := by
  rcases cpp with ⟨id, state, paused, lastControl, lastFeedback, lastResult⟩
  rcases goals with ⟨header, goals⟩
  cases goals with
  | nil => rfl
  | cons goal goals => cases state <;> rfl

theorem call_counterpart (call : Call) :
    (counterpart cpp).call call = (counterpart (cpp.call call).1, (cpp.call call).2) := by
  cases call with
  | sendGoals goals => exact sendGoals_counterpart cpp goals
  | cancel =>
      rcases cpp with ⟨id, state, paused, lastControl, lastFeedback, lastResult⟩
      cases state <;> rfl
  | pause => rfl
  | resume => rfl
  | reset =>
      rcases cpp with ⟨id, state, paused, lastControl, lastFeedback, lastResult⟩
      cases state <;> rfl

theorem pyStep_counterpart (published : List NavigationControl) (input : Input) :
    pyStep (counterpart cpp, published) input =
      (counterpart (cppStep (cpp, published) input).1, (cppStep (cpp, published) input).2) := by
  cases input with
  | sendGoal goal =>
      rw [pyStep, cppStep, GoalManagerClient.sendGoal, sendGoals_counterpart]
      rfl
  | call call => rw [pyStep, cppStep, call_counterpart]
  | receive msg => rw [pyStep, cppStep, onControl_counterpart]

theorem foldl_counterpart (published : List NavigationControl) (inputs : List Input) :
    inputs.foldl pyStep (counterpart cpp, published) =
      (counterpart (inputs.foldl cppStep (cpp, published)).1,
        (inputs.foldl cppStep (cpp, published)).2) := by
  induction inputs generalizing cpp published with
  | nil => rfl
  | cons input inputs ih =>
      rw [List.foldl_cons, List.foldl_cons, pyStep_counterpart]
      exact ih _ _

end Refinement

/-- Two clients with the same id, the one in C++ and the one in Python, fed the same inputs:
they are in the same state, report the same and have published the same. -/
theorem python_refines_cpp (id : String) (inputs : List Input) :
    let cpp := inputs.foldl cppStep ({ id := id }, [])
    let py := inputs.foldl pyStep ({ id := id }, [])
    py.1.state = cpp.1.state ∧ py.1.paused = cpp.1.paused ∧
      py.1.lastFeedback = cpp.1.lastFeedback ∧ py.1.lastResult = cpp.1.lastResult ∧
      py.2 = cpp.2 := by
  intro cpp py
  have hpy : py = (counterpart cpp.1, cpp.2) :=
    foldl_counterpart { id := id } [] inputs
  rw [hpy]
  exact ⟨rfl, rfl, rfl, rfl, rfl⟩

end EasyNav.PythonClient
