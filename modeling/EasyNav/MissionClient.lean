import EasyNav.MissionMessages

namespace EasyNav.MissionClient

open EasyNav.NavigationState
open EasyNav.MissionMessages

inductive ClientState where
  | idle
  | sentGoal
  | sentPreempt
  | acceptedAndNavigating
  | navigationFinished
  | navigationRejected
  | navigationFailed
  | navigationCancelled
  | error
  deriving DecidableEq

structure GoalManagerClient where
  id : String
  state : ClientState := .idle
  paused : Bool := false
  lastControl : Option NavigationControl := none
  lastFeedback : NavigationControl := {}
  lastResult : NavigationControl := {}
  deriving DecidableEq

namespace GoalManagerClient

def create (nodeName : String) : GoalManagerClient :=
  { id := nodeName ++ "_goal_manager_client" }

/-- A result, and what the client does next. -/
def conclude (client : GoalManagerClient) (msg : NavigationControl) (state : ClientState) :
    GoalManagerClient :=
  { client with lastResult := msg, state := state, paused := false }

def onSentGoal (client : GoalManagerClient) (msg : NavigationControl) : GoalManagerClient :=
  match msg.type with
  | .accept => { client with state := .acceptedAndNavigating }
  | .reject => { client with state := .navigationFailed }
  | .error => { client with state := .error }
  | _ => { client with state := .error }

def onSentPreempt (client : GoalManagerClient) (msg : NavigationControl) :
    GoalManagerClient :=
  match msg.type with
  | .feedback => { client with lastFeedback := msg }
  | .accept => { client with state := .acceptedAndNavigating }
  | .reject => { client with state := .acceptedAndNavigating }
  | .error => { client with state := .error }
  | _ => { client with state := .error }

def onNavigating (client : GoalManagerClient) (msg : NavigationControl) : GoalManagerClient :=
  match msg.type with
  | .feedback => { client with lastFeedback := msg }
  | .finished => client.conclude msg .navigationFinished
  | .failed => client.conclude msg .navigationFailed
  | .cancelled => client.conclude msg .navigationCancelled
  | _ => { client with lastResult := msg, state := .error }

/-- What a message that is neither PAUSED nor RESUMED does, by the state. -/
def onMessage (client : GoalManagerClient) (msg : NavigationControl) : GoalManagerClient :=
  match client.state with
  | .idle | .navigationFinished | .navigationFailed | .navigationCancelled | .error => client
  | .sentGoal => client.onSentGoal msg
  | .sentPreempt => client.onSentPreempt msg
  | .acceptedAndNavigating => client.onNavigating msg
  | .navigationRejected => { client with state := .error }

def controlCallback (client : GoalManagerClient) (msg : NavigationControl) :
    GoalManagerClient :=
  if msg.userId = client.id then client
  else if msg.navCurrentUserId ≠ client.id then client
  else
    -- Pausing is not tied to the ownership of a goal: confirmed in any state.
    match msg.type with
    | .paused => { client with paused := true, lastControl := some msg }
    | .resumed => { client with paused := false, lastControl := some msg }
    | _ => { client.onMessage msg with lastControl := some msg }

def last (client : GoalManagerClient) : NavigationControl := client.lastControl.getD {}

/-- A message about whatever navigation is active, under the header of the last one
received. -/
def command (client : GoalManagerClient) (type : ControlType) : NavigationControl :=
  { type := type
    header := client.last.header
    userId := client.id
    seq := client.last.seq + 1 }

def goalsRequest (client : GoalManagerClient) (goals : Goals) : NavigationControl :=
  { type := .request
    header := goals.header
    userId := client.id
    seq := client.last.seq + 1
    goals := goals }

def sendGoals (client : GoalManagerClient) (goals : Goals) :
    GoalManagerClient × Option NavigationControl :=
  let client := { client with lastControl := some client.last }
  if goals.goals.isEmpty then (client, none)
  else
    match client.state with
    | .idle => ({ client with state := .sentGoal }, some (client.goalsRequest goals))
    | .acceptedAndNavigating =>
        ({ client with state := .sentPreempt }, some (client.goalsRequest goals))
    | _ => (client, none)

def sendGoal (client : GoalManagerClient) (goal : PoseStamped) :
    GoalManagerClient × Option NavigationControl :=
  client.sendGoals { header := goal.header, goals := [goal] }

def cancel (client : GoalManagerClient) : GoalManagerClient × Option NavigationControl :=
  if client.state ≠ .acceptedAndNavigating then (client, none)
  else (client, some (client.command .cancel))

def pause (client : GoalManagerClient) : GoalManagerClient × Option NavigationControl :=
  let client := { client with lastControl := some client.last }
  (client, some (client.command .pause))

def resume (client : GoalManagerClient) : GoalManagerClient × Option NavigationControl :=
  let client := { client with lastControl := some client.last }
  (client, some (client.command .resume))

def reset (client : GoalManagerClient) : GoalManagerClient :=
  match client.state with
  | .navigationFinished | .navigationRejected | .navigationFailed | .navigationCancelled
  | .error => { client with state := .idle }
  | _ => client

end GoalManagerClient

inductive Call where
  | sendGoals (goals : Goals)
  | cancel
  | pause
  | resume
  | reset

namespace GoalManagerClient

def call (client : GoalManagerClient) : Call → GoalManagerClient × Option NavigationControl
  | .sendGoals goals => client.sendGoals goals
  | .cancel => client.cancel
  | .pause => client.pause
  | .resume => client.resume
  | .reset => (client.reset, none)

end GoalManagerClient

end EasyNav.MissionClient
