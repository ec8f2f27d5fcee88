import EasyNav.SystemLifecycle

namespace EasyNav.Reconfiguration

open EasyNav.Lifecycle
open EasyNav.SystemLifecycle

universe u

inductive NodeId where
  | system
  | subnode (name : Subnode)
  deriving DecidableEq

def subnodeName : Subnode → String
  | .controllerNode => "controller_node"
  | .localizerNode => "localizer_node"
  | .mapsManagerNode => "maps_manager_node"
  | .plannerNode => "planner_node"
  | .recoveryNode => "recovery_node"
  | .sensorsNode => "sensors_node"

def findNode (name : String) : Option NodeId :=
  if name = "system_node" then some .system
  else (systemNodes.find? fun subnode => subnodeName subnode = name).map .subnode

abbrev Store (V : Type u) := NodeId → String → Option V

structure ParameterChange (V : Type u) where
  node : String
  parameter : String
  value : V

structure ReconfigureRequest (V : Type u) where
  changes : List (ParameterChange V) := []
  restore : Bool := false
  reason : String

/-- What parameters and nodes accept. -/
structure Environment (V : Type u) where
  accepts : NodeId → String → V → Bool
  systemValid : Store V → Bool
  configures : Subnode → Store V → CallbackReturn
  subnodesValid : Store V → Bool
  activates : Subnode → Store V → CallbackReturn
  /-- `use_cmd_vel_stamped` is given among the overrides of the controller node. -/
  controllerOverrides : Bool := false

/-- `originals` is kept in the order of its keys. -/
structure ReconfigurableNode (V : Type u) where
  node : Managed (SystemData (Store V))
  pendingReconfigure : Option (ReconfigureRequest V) := none
  originalParameters : List (String × ParameterChange V) := []
  reconfiguredParameters : Option (List String) := none

variable {V : Type u} (env : Environment V)

def Store.set (store : Store V) (node : NodeId) (parameter : String) (value : V) : Store V :=
  fun node' parameter' =>
    if node' = node ∧ parameter' = parameter then some value else store node' parameter'

/-- `set_parameter`, of a change to a node that exists. -/
def setParameter (store : Store V) (change : ParameterChange V) : Store V × Bool :=
  match findNode change.node with
  | none => (store, false)
  | some node =>
      if env.accepts node change.parameter change.value then
        (Store.set store node change.parameter change.value, true)
      else (store, false)

def setParameters : List (ParameterChange V) → Store V → Store V × Bool
  | [], store => (store, true)
  | change :: changes, store =>
      let (store, set) := setParameter env store change
      let (store, allSet) := setParameters changes store
      (store, set && allSet)

/-- A deprecated parameter of the system node is the controller node's. -/
def forwardDeprecatedUseCmdVelStamped (store : Store V) : Store V :=
  match store .system "use_cmd_vel_stamped", env.controllerOverrides with
  | some stamped, false =>
      Store.set store (.subnode .controllerNode) "use_cmd_vel_stamped" stamped
  | _, _ => store

def subnodeCallbacks (name : Subnode) : Callbacks (Store V) where
  on transition store :=
    match transition with
    | .configure => (store, env.configures name store)
    | .activate => (store, env.activates name store)
    | _ => (store, .success)
  onError store := (store, .success)

def systemHooks : SystemHooks (Store V) where
  forwardDeprecated := forwardDeprecatedUseCmdVelStamped env
  checkSystem store := (store, env.systemValid store)
  checkSubnodes := env.subnodesValid
  onConfigured := id
  onActivated := id
  clearCmdVel := id

def trigger (node : Managed (SystemData (Store V))) (transition : Transition) :
    Managed (SystemData (Store V)) :=
  node.trigger (SystemData.systemCallbacks (subnodeCallbacks env) (systemHooks env)) transition

/-- Takes the system down to Unconfigured, as far as its transitions allow. -/
def stop (node : Managed (SystemData (Store V))) : Managed (SystemData (Store V)) :=
  let node := if node.state = .active then trigger env node .deactivate else node
  if node.state = .inactive then trigger env node .cleanup else node

def start (node : Managed (SystemData (Store V))) :
    Managed (SystemData (Store V)) × Bool :=
  let node := trigger env node .configure
  if node.state ≠ .inactive then (node, false)
  else
    let node := trigger env node .activate
    (node, decide (node.state = .active))

def restartWith (node : Managed (SystemData (Store V))) (changes : List (ParameterChange V)) :
    Managed (SystemData (Store V)) × Bool :=
  let node := stop env node
  if node.state ≠ .unconfigured then (node, false)
  else
    -- A failed configure may leave some subnodes configured.
    let data := node.data.cleanupSubnodes (subnodeCallbacks env)
    let (store, allSet) := setParameters env changes data.world
    let (node, started) := start env ⟨node.state, { data with world := store }⟩
    (node, started && allSet)

/-- The change back to the value that a parameter has, if there is that parameter. -/
def previousValue (store : Store V) (change : ParameterChange V) :
    Option (ParameterChange V) :=
  match findNode change.node with
  | none => none
  | some node => (store node change.parameter).map fun value => { change with value := value }

/-- Current values: the originals of first changes, and what to go back to if these
fail. -/
def previousValues (store : Store V) : List (ParameterChange V) →
    Option (List (ParameterChange V))
  | [] => some []
  | change :: changes =>
      match previousValue store change, previousValues store changes with
      | some value, some values => some (value :: values)
      | _, _ => none

def changeKey (change : ParameterChange V) : String := change.node ++ "/" ++ change.parameter

/-- `std::map::emplace`: a key that is there keeps its value. -/
def emplace (key : String) (value : ParameterChange V) :
    List (String × ParameterChange V) → List (String × ParameterChange V)
  | [] => [(key, value)]
  | entry :: entries =>
      if key = entry.1 then entry :: entries
      else if key < entry.1 then (key, value) :: entry :: entries
      else entry :: emplace key value entries

def requestReconfigure (sys : ReconfigurableNode V) (allowed : Bool)
    (changes : List (ParameterChange V)) (reason : String) : ReconfigurableNode V × Bool :=
  if allowed then
    ({ sys with pendingReconfigure := some { changes := changes, reason := reason } }, true)
  else (sys, false)

def requestRestoreParameters (sys : ReconfigurableNode V) (allowed : Bool) (reason : String) :
    ReconfigurableNode V × Bool :=
  if allowed then
    ({ sys with pendingReconfigure := some { restore := true, reason := reason } }, true)
  else (sys, false)

/-- Restarts with the changes, and with the previous values if that fails. -/
def reconfigure (sys : ReconfigurableNode V) (request : ReconfigureRequest V)
    (changes previous : List (ParameterChange V)) : ReconfigurableNode V :=
  let (node, restarted) := restartWith env sys.node changes
  if !restarted then
    let (node, restored) := restartWith env node previous
    if restored then { sys with node := node }
    else
      { sys with
        node := { node with
          data := node.data.requestShutdown
            ("unable to reconfigure (" ++ request.reason ++ ") or restore") } }
  else
    let originals :=
      if request.restore then []
      else previous.foldl (fun originals value => emplace (changeKey value) value originals)
        sys.originalParameters
    { sys with
      node := node
      originalParameters := originals
      reconfiguredParameters := some (originals.map Prod.fst) }

/-- The changes that a request stands for. -/
def requestedChanges (sys : ReconfigurableNode V) (request : ReconfigureRequest V) :
    List (ParameterChange V) :=
  if request.restore then sys.originalParameters.map Prod.snd else request.changes

def applyPendingReconfigure (sys : ReconfigurableNode V) : ReconfigurableNode V × Bool :=
  match sys.pendingReconfigure with
  | none => (sys, false)
  | some request =>
      if sys.node.data.isShutdownRequested || decide (sys.node.state ≠ .active) then (sys, false)
      else
        let changes := requestedChanges sys request
        let sys := { sys with pendingReconfigure := none }
        if changes.isEmpty then (sys, false)
        else
          match previousValues sys.node.data.world changes with
          | none => (sys, false)
          | some previous => (reconfigure env sys request changes previous, true)

def Accepted (change : ParameterChange V) : Prop :=
  ∃ node, findNode change.node = some node ∧
    env.accepts node change.parameter change.value = true

def Touches (changes : List (ParameterChange V)) (node : NodeId) (parameter : String) : Prop :=
  ∃ change ∈ changes, findNode change.node = some node ∧ change.parameter = parameter

section Parameters

variable {env} {store other : Store V} {changes previous : List (ParameterChange V)}
  {node : NodeId} {parameter : String}

theorem setParameter_accepted_iff (store : Store V) (change : ParameterChange V) :
    (setParameter env store change).2 = true ↔ Accepted env change := by
  unfold setParameter Accepted
  cases findNode change.node with
  | none => simp
  | some node =>
      dsimp only
      split
      · simp_all
      · simp_all

theorem setParameters_accepted_iff (store : Store V) (changes : List (ParameterChange V)) :
    (setParameters env changes store).2 = true ↔ ∀ change ∈ changes, Accepted env change := by
  induction changes generalizing store with
  | nil => simp [setParameters]
  | cons change changes ih =>
      simp only [setParameters, Bool.and_eq_true, setParameter_accepted_iff, ih,
        List.forall_mem_cons]

theorem setParameter_of_not_touches {change : ParameterChange V}
    (h : ¬ (findNode change.node = some node ∧ change.parameter = parameter)) :
    (setParameter env store change).1 node parameter = store node parameter := by
  unfold setParameter
  split
  · rfl
  · rename_i node' hnode
    split
    · unfold Store.set
      dsimp only
      rw [if_neg]
      rintro ⟨rfl, rfl⟩
      exact h ⟨hnode, rfl⟩
    · rfl

theorem setParameters_of_not_touches (h : ¬ Touches changes node parameter) :
    (setParameters env changes store).1 node parameter = store node parameter := by
  induction changes generalizing store with
  | nil => rfl
  | cons change changes ih =>
      have hchange : ¬ (findNode change.node = some node ∧ change.parameter = parameter) :=
        fun htouches => h ⟨change, List.mem_cons_self, htouches⟩
      have hchanges : ¬ Touches changes node parameter :=
        fun ⟨other, hother, htouches⟩ => h ⟨other, List.mem_cons_of_mem _ hother, htouches⟩
      have hkept : (setParameter env store change).1 node parameter = store node parameter :=
        setParameter_of_not_touches hchange
      exact (ih hchanges).trans hkept

theorem previousValue_eq_some {change value : ParameterChange V}
    (h : previousValue store change = some value) :
    ∃ node, findNode change.node = some node ∧ value.node = change.node ∧
      value.parameter = change.parameter ∧ store node change.parameter = some value.value := by
  unfold previousValue at h
  split at h
  · contradiction
  · rename_i node hnode
    obtain ⟨v, hv, rfl⟩ := Option.map_eq_some_iff.mp h
    exact ⟨node, hnode, rfl, rfl, hv⟩

theorem previousValues_cons_iff {change : ParameterChange V} :
    previousValues store (change :: changes) = some previous ↔
      ∃ value values, previousValue store change = some value ∧
        previousValues store changes = some values ∧ previous = value :: values := by
  rw [previousValues]
  cases previousValue store change <;> cases previousValues store changes <;> simp [eq_comm]

theorem previousValues_mem (h : previousValues store changes = some previous)
    {value : ParameterChange V} (hvalue : value ∈ previous) :
    ∃ target, findNode value.node = some target ∧
      store target value.parameter = some value.value := by
  induction changes generalizing previous with
  | nil =>
      obtain rfl := Option.some.inj h
      exact absurd hvalue List.not_mem_nil
  | cons change changes ih =>
      obtain ⟨first, rest, hfirst, hrest, rfl⟩ := previousValues_cons_iff.mp h
      rcases List.mem_cons.mp hvalue with rfl | hvalue
      · obtain ⟨target, htarget, hnode, hparameter, hstored⟩ := previousValue_eq_some hfirst
        exact ⟨target, by rw [hnode, htarget], by rw [hparameter, hstored]⟩
      · exact ih hrest hvalue

def place (change : ParameterChange V) : String × String := (change.node, change.parameter)

theorem previousValues_places (h : previousValues store changes = some previous) :
    previous.map place = changes.map place := by
  induction changes generalizing previous with
  | nil =>
      obtain rfl := Option.some.inj h
      rfl
  | cons change changes ih =>
      obtain ⟨first, rest, hfirst, hrest, rfl⟩ := previousValues_cons_iff.mp h
      obtain ⟨target, -, hnode, hparameter, -⟩ := previousValue_eq_some hfirst
      simp [place, hnode, hparameter, ih hrest]

theorem touches_iff_places :
    Touches changes node parameter ↔
      ∃ p ∈ changes.map place, findNode p.1 = some node ∧ p.2 = parameter := by
  simp [Touches, place]

theorem previousValues_touches_iff (h : previousValues store changes = some previous) :
    Touches previous node parameter ↔ Touches changes node parameter := by
  rw [touches_iff_places, touches_iff_places, previousValues_places h]

theorem not_touches_of_eq_none (hprevious : previousValues store changes = some previous)
    (h : store node parameter = none) : ¬ Touches changes node parameter := by
  rw [← previousValues_touches_iff hprevious]
  rintro ⟨value, hvalue, hnode, rfl⟩
  obtain ⟨target, htarget, hstored⟩ := previousValues_mem hprevious hvalue
  obtain rfl := Option.some.inj (htarget.symm.trans hnode)
  rw [h] at hstored
  contradiction

theorem setParameters_of_values {value : Option V}
    (haccepted : ∀ change ∈ changes, Accepted env change)
    (hvalues : ∀ change ∈ changes, findNode change.node = some node →
      change.parameter = parameter → some change.value = value)
    (h : ¬ Touches changes node parameter → store node parameter = value) :
    (setParameters env changes store).1 node parameter = value := by
  induction changes generalizing store with
  | nil => exact h fun ⟨change, hchange, _⟩ => absurd hchange List.not_mem_nil
  | cons change changes ih =>
      obtain ⟨⟨target, htarget, haccepts⟩, hrest⟩ := List.forall_mem_cons.mp haccepted
      obtain ⟨hthis, hothers⟩ := List.forall_mem_cons.mp hvalues
      change (setParameters env changes (setParameter env store change).1).1 node parameter = value
      refine ih hrest hothers fun hnot => ?_
      by_cases htouches : findNode change.node = some node ∧ change.parameter = parameter
      · obtain rfl := Option.some.inj (htarget.symm.trans htouches.1)
        obtain rfl := htouches.2
        rw [← hthis htarget rfl]
        simp [setParameter, htarget, haccepts, Store.set]
      · refine (setParameter_of_not_touches htouches).trans (h ?_)
        rintro ⟨other, hother, hother'⟩
        rcases List.mem_cons.mp hother with rfl | hother
        · exact htouches hother'
        · exact hnot ⟨other, hother, hother'⟩

/-- Once the previous values are accepted, the parameters that changed are as before. -/
theorem setParameters_previousValues (hprevious : previousValues store changes = some previous)
    (haccepted : ∀ change ∈ previous, Accepted env change)
    (h : Touches changes node parameter ∨ other node parameter = store node parameter) :
    (setParameters env previous other).1 node parameter = store node parameter := by
  apply setParameters_of_values haccepted
  · rintro value hvalue hnode rfl
    obtain ⟨target, htarget, hstored⟩ := previousValues_mem hprevious hvalue
    obtain rfl := Option.some.inj (htarget.symm.trans hnode)
    exact hstored.symm
  · intro hnot
    exact h.resolve_left fun htouches => hnot ((previousValues_touches_iff hprevious).mpr htouches)

theorem not_gated_iff {node : Managed (SystemData (Store V))} :
    ¬ (node.data.isShutdownRequested || decide (node.state ≠ .active)) = true ↔
      node.state = .active ∧ node.data.shutdownReason = none := by
  simp [SystemData.isShutdownRequested, and_comm]

end Parameters

end EasyNav.Reconfiguration
