import EasyNav.CommandFreshness

/-!
The process: `main`, its real-time thread, the thread that waits for a second signal, and
the signals that arrive at any time. One step is one step of a thread between two accesses
to what the threads share; what the nodes do in it is a step of the system node.
-/

namespace EasyNav.SystemMain

open EasyNav.NavigationState
open EasyNav.Lifecycle
open EasyNav.SystemLifecycle
open EasyNav.CommandFreshness
open EasyNav.ProtectiveStop (RtSystem)

def kDebounceNs : Int := 1000000000

structure Globals where
  stop : Bool := false
  lastSignalNs : Int := 0
  signals : Nat := 0
  watcherDone : Bool := false
  signalSem : Nat := 0
  deriving DecidableEq

/-- The second component: the process exits at once. -/
def handleShutdownSignal (g : Globals) (nowNs : Int) : Globals × Bool :=
  if g.lastSignalNs ≠ 0 ∧ nowNs - g.lastSignalNs ≤ kDebounceNs then (g, false)
  else
    let g := { g with lastSignalNs := nowNs, signals := g.signals + 1, stop := true }
    if g.signals = 2 then ({ g with signalSem := g.signalSem + 1 }, false)
    else (g, decide (3 ≤ g.signals))

inductive WatcherPhase where
  | waiting
  | woken
  | shuttingDown
  | finished
  deriving DecidableEq

inductive RtPhase where
  | notStarted
  | settingUp
  | looping
  | cycling
  | spinning
  | finished
  deriving DecidableEq

/-- How `main` leaves the block that the nodes live in. -/
inductive Leaving where
  | returning (code : Nat)
  | atEnd
  deriving DecidableEq

inductive MainPhase where
  | configuring
  | configured
  | activating
  | activated
  | waitingForRt
  | looping
  | cycling
  | reconfiguring
  | spinning
  | stopping
  | joining
  | deciding
  | deactivating
  | destroying (leaving : Leaving)
  | shuttingDown
  | endingWatcher (code : Nat)
  | posting (code : Nat)
  | joiningWatcher (code : Nat)
  | closing (code : Nat)
  | exited (code : Nat)
  | killed
  deriving DecidableEq

structure Process where
  globals : Globals := {}
  /-- `rclcpp::ok()`. -/
  contextValid : Bool := true
  watcher : WatcherPhase := .waiting
  rtThread : RtPhase := .notStarted
  /-- The promise of the real-time thread: why it has no real-time priority, if it does not. -/
  rtSetup : Option String := none
  main : MainPhase := .configuring
  safetyMode : Bool := false
  useRealTime : Bool := true
  shutdownReason : Option String := none
  node : Node := constructed
  /-- The commands published while the context was valid. -/
  delivered : List TwistStamped := []

def Process.over (p : Process) : Bool :=
  match p.main with
  | .exited _ | .killed => true
  | _ => false

/-- The commands that the controller node published, newest first. -/
def Process.published (p : Process) : List TwistStamped :=
  p.node.data.world.controller.published

def Process.setNode (p : Process) (node : Node) : Process :=
  { p with
    node := node
    delivered :=
      if p.contextValid then node.data.world.controller.published else p.delivered }

def Process.perform (p : Process) (events : List Event) : Process :=
  p.setNode (events.foldl step p.node)

/-- What a transition meets in the process: mitigations request shutdowns in it too, before
anything in it looks at them. -/
structure TransitionTurn extends Choices where
  requests : List String := []

def TransitionTurn.events (turn : TransitionTurn) (event : Choices → Event) : List Event :=
  turn.requests.map .requestShutdown ++ [event turn.toChoices]

/-- What the environment chooses in a step of the real-time thread: why it gets no
real-time priority, its cycle, the messages that its executor takes, and the shutdowns that
mitigations request meanwhile. -/
structure RtTurn where
  setupError : String := ""
  update : RtUpdate
  requests : List String := []
  statuses : List (SafetyStatus × Time) := []

def rtStep (p : Process) (turn : RtTurn) : Process :=
  match p.rtThread with
  | .notStarted | .finished => p
  | .settingUp =>
      let error := if p.useRealTime then turn.setupError else ""
      { p with
        rtSetup := some error
        rtThread := if error ≠ "" ∧ p.safetyMode then .finished else .looping }
  | .looping =>
      { p with
        rtThread :=
          if p.globals.stop then .finished
          else if p.node.state = .active then .cycling
          else .spinning }
  | .cycling =>
      { p.perform (.rtCycle turn.update :: turn.requests.map .requestShutdown) with
        rtThread := .spinning }
  | .spinning =>
      { p.perform (turn.statuses.map (fun (msg, steady) => .status msg steady) ++
            turn.requests.map .requestShutdown) with
        rtThread := .looping }

/-- What `restart_with` meets, transition after transition; whether it sets every
parameter. -/
structure Restart where
  deactivate : TransitionTurn
  cleanup : TransitionTurn
  leftovers : TransitionTurn
  configure : TransitionTurn
  activate : TransitionTurn
  allSet : Bool := true

def restartWith (node : Node) (restart : Restart) : Node × Bool :=
  let node :=
    if node.state = .active then
      (restart.deactivate.events (.transition .deactivate)).foldl step node
    else node
  let node :=
    if node.state = .inactive then
      (restart.cleanup.events (.transition .cleanup)).foldl step node
    else node
  if node.state ≠ .unconfigured then (node, false)
  else
    let node := (restart.leftovers.events .cleanupSubnodes).foldl step node
    let node := (restart.configure.events (.transition .configure)).foldl step node
    if node.state ≠ .inactive then (node, false)
    else
      let node := (restart.activate.events (.transition .activate)).foldl step node
      (node, decide (node.state = .active) && restart.allSet)

/-- A pending request: whether it changes parameters that exist, and the restarts with the
new values and with the previous ones. -/
structure Reconfigure where
  reason : String
  valid : Bool := true
  changed : Restart
  restored : Restart

def applyPendingReconfigure (node : Node) : Option Reconfigure → Node
  | none => node
  | some request =>
      if node.data.isShutdownRequested || decide (node.state ≠ .active) || !request.valid then node
      else
        let (node, changed) := restartWith node request.changed
        if changed then node
        else
          let (node, restored) := restartWith node request.restored
          if restored then node
          else
            step node (.requestShutdown
              ("unable to reconfigure (" ++ request.reason ++ ") or restore"))

/-- The destructor of a lifecycle node shuts it down from whichever state it is in. -/
def destroySystemNode (node : Node) (choices : Choices) : Node :=
  [PrimaryState.active, .inactive, .unconfigured].foldl (fun node state =>
    if node.state = state then step node (.transition .shutdown choices) else node) node

def destroySubnode (choices : Choices) (data : SystemData RtSystem) (name : Subnode) :
    SystemData RtSystem :=
  [PrimaryState.active, .inactive, .unconfigured].foldl (fun data state =>
    if data.subnodes name = state then data.triggerSubnode choices.callbacks name .shutdown
    else data) data

/-- Members are destroyed in the reverse order of their declarations. -/
def destructionOrder : List Subnode :=
  [.recoveryNode, .sensorsNode, .plannerNode, .mapsManagerNode, .localizerNode,
    .controllerNode]

def destroy (node : Node) (choices : Choices) : Node :=
  let node := destroySystemNode node choices
  { node with data := destructionOrder.foldl (destroySubnode choices) node.data }

/-- What the environment chooses in a step of `main`; each step looks at its own part. The
callbacks are the transitions that the node's lifecycle services are asked for. -/
structure MainTurn where
  choices : TransitionTurn
  lockError : String := ""
  useRealTime : Bool := true
  components : Quiet := .nothing
  recovery : Update := {}
  requests : List String := []
  reconfigure : Option Reconfigure := none
  callbacks : List (Transition × TransitionTurn) := []

def mainStep (p : Process) (turn : MainTurn) : Process :=
  match p.main with
  | .configuring =>
      { p.perform (turn.choices.events (.transition .configure)) with main := .configured }
  | .configured =>
      if p.globals.stop then { p with main := .destroying (.returning 0) }
      else if p.node.state ≠ .inactive then { p with main := .destroying (.returning 1) }
      else
        let supervisor := p.node.data.world.supervisor
        let p := { p with safetyMode := supervisor.safetyMode }
        if supervisor.lockMemory ∧ turn.lockError ≠ "" then
          { p with main := .destroying (.returning 1) }
        else { p with main := .activating }
  | .activating =>
      { p.perform (turn.choices.events (.transition .activate)) with main := .activated }
  | .activated =>
      if p.node.state ≠ .active then { p with main := .destroying (.returning 1) }
      else
        { p with useRealTime := turn.useRealTime, rtThread := .settingUp, main := .waitingForRt }
  | .waitingForRt =>
      match p.rtSetup with
      | none => p
      | some error =>
          if error ≠ "" ∧ p.safetyMode then
            { p.perform [.requestShutdown ("[safety.mode] no real-time scheduling: " ++ error)] with
              main := .looping }
          else { p with main := .looping }
  | .looping =>
      if p.globals.stop || p.node.data.isShutdownRequested then { p with main := .stopping }
      else if p.node.state = .active then { p with main := .cycling }
      else { p with main := .reconfiguring }
  | .cycling =>
      { p.perform (.cycle turn.components turn.recovery :: turn.requests.map .requestShutdown) with
        main := .reconfiguring }
  | .reconfiguring =>
      { p.setNode (applyPendingReconfigure p.node turn.reconfigure) with main := .spinning }
  | .spinning =>
      let transitions :=
        turn.callbacks.flatMap fun (transition, turn) => turn.events (.transition transition)
      { p.perform (transitions ++ turn.requests.map .requestShutdown) with main := .looping }
  | .stopping => { p with globals := { p.globals with stop := true }, main := .joining }
  | .joining => if p.rtThread = .finished then { p with main := .deciding } else p
  | .deciding =>
      if p.node.data.isShutdownRequested then
        { p with shutdownReason := p.node.data.shutdownReason, main := .deactivating }
      else { p with main := .destroying .atEnd }
  | .deactivating =>
      { p.perform (turn.choices.events (.transition .deactivate)) with main := .destroying .atEnd }
  -- What mitigations request meanwhile reaches no node any more.
  | .destroying leaving =>
      { p.setNode (destroy p.node turn.choices.toChoices) with
        main :=
          match leaving with
          | .returning code => .endingWatcher code
          | .atEnd => .shuttingDown }
  | .shuttingDown =>
      { p with
        contextValid := false
        main := .endingWatcher (if p.shutdownReason.isSome then 1 else 0) }
  | .endingWatcher code =>
      { p with globals := { p.globals with watcherDone := true }, main := .posting code }
  | .posting code =>
      { p with
        globals := { p.globals with signalSem := p.globals.signalSem + 1 }
        main := .joiningWatcher code }
  | .joiningWatcher code => if p.watcher = .finished then { p with main := .closing code } else p
  -- `RclcppShutdownGuard`.
  | .closing code => { p with contextValid := false, main := .exited code }
  | .exited _ | .killed => p

def watcherStep (p : Process) : Process :=
  match p.watcher with
  | .waiting =>
      if p.globals.signalSem = 0 then p
      else
        { p with
          globals := { p.globals with signalSem := p.globals.signalSem - 1 }
          watcher := .woken }
  | .woken =>
      { p with
        watcher := if !p.globals.watcherDone && p.contextValid then .shuttingDown else .finished }
  | .shuttingDown => { p with contextValid := false, watcher := .finished }
  | .finished => p

def signalStep (p : Process) (nowNs : Int) : Process :=
  let (globals, kills) := handleShutdownSignal p.globals nowNs
  { p with globals := globals, main := if kills then .killed else p.main }

inductive Input where
  | signal (nowNs : Int)
  | watcher
  | rt (turn : RtTurn)
  | main (turn : MainTurn)

def Process.step (p : Process) (input : Input) : Process :=
  if p.over then p
  else
    match input with
    | .signal nowNs => signalStep p nowNs
    | .watcher => watcherStep p
    | .rt turn => rtStep p turn
    | .main turn => mainStep p turn

def Started (p : Process) : Prop := p = {}

end EasyNav.SystemMain
