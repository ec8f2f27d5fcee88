import EasyNav.Reconfiguration
import EasyNav.Runs
import Mathlib.Data.List.TakeWhile

/-!
What a reconfiguration that fails leaves. Restarting is followed through the few states
that a failed attempt can end in: the node and its subnodes all in one state, or the node
Inactive with the first subnodes Active, which no cleanup gets out of.
-/

namespace EasyNav.Rollback

open EasyNav.Lifecycle
open EasyNav.SystemLifecycle
open EasyNav.Reconfiguration
open EasyNav.Runs

universe u

variable {V : Type u} (env : Environment V)

/-- The node and every subnode in one state, and no shutdown requested. -/
def settled (state : PrimaryState) (active : Bool) (store : Store V) :
    Managed (SystemData (Store V)) :=
  ⟨state,
    { subnodes := fun _ => state, active := active, shutdownReason := none, world := store }⟩

def configurable (store : Store V) : Bool :=
  env.systemValid store &&
    (systemNodes.all fun name => env.configures name store = .success) &&
    env.subnodesValid store

def activable (store : Store V) : Bool :=
  systemNodes.all fun name => env.activates name store = .success

def activated (store : Store V) : List Subnode :=
  systemNodes.takeWhile fun name => env.activates name store = .success

/-- Where an activation leaves the subnodes that it does not reach. -/
def notActivated (store : Store V) (name : Subnode) : PrimaryState :=
  if systemNodes.find? (fun name => !decide (env.activates name store = .success)) =
      some name then
    PrimaryState.inactive.onAnswer .activate (env.activates name store)
  else .inactive

/-- The node Inactive, after an activation that only some subnodes made. -/
def partlyActive (store : Store V) : Managed (SystemData (Store V)) :=
  ⟨.inactive,
    { subnodes := fun name =>
        if name ∈ activated env store then .active else notActivated env store name
      active := false
      shutdownReason := none
      world := store }⟩

section Restart

variable {env} {store : Store V}

theorem all_systemNodes_iff {ok : Subnode → Bool} :
    systemNodes.all ok = true ↔ ∀ name, ok name = true := by
  rw [List.all_eq_true]
  exact ⟨fun h name => h name (mem_systemNodes name), fun h name _ => h name⟩

theorem takeWhile_systemNodes {ok : Subnode → Bool} (h : systemNodes.all ok = true) :
    systemNodes.takeWhile ok = systemNodes :=
  List.takeWhile_eq_self_iff.mpr (List.all_eq_true.mp h)

theorem notActivated_cases (name : Subnode) :
    notActivated env store name = .inactive ∨ notActivated env store name = .unconfigured := by
  unfold notActivated
  split
  · cases env.activates name store with
    | success => exact Or.inl rfl
    | failure => exact Or.inl rfl
    | error => exact Or.inr rfl
  · exact Or.inl rfl

theorem onDeactivate_settled (active : Bool) :
    (settled .active active store).data.onDeactivate (subnodeCallbacks env) id =
      ((settled .inactive false store).data, .success) := by
  unfold SystemData.onDeactivate SystemData.deactivateSubnodes
  rw [SystemData.triggerAll_systemNodes PrimaryState.goal_deactivate (fun _ => rfl)
    (fun _ _ => rfl)]
  rfl

theorem trigger_deactivate (active : Bool) :
    trigger env (settled .active active store) .deactivate = settled .inactive false store :=
  Managed.trigger_of_success rfl (onDeactivate_settled active)

theorem trigger_cleanup {subnodes : Subnode → PrimaryState}
    (h : ∀ name, subnodes name = .inactive ∨ subnodes name = .unconfigured) :
    trigger env
        ⟨.inactive, { (settled .inactive false store).data with subnodes := subnodes }⟩
        .cleanup =
      settled .unconfigured false store := by
  have hcleanup : SystemData.onCleanup (subnodeCallbacks env)
      { (settled .inactive false store).data with subnodes := subnodes } =
        ((settled .unconfigured false store).data, .success) := by
    unfold SystemData.onCleanup
    rw [SystemData.triggerAll_cleanup (fun _ _ => rfl) systemNodes h]
    simp only [mem_systemNodes, if_true]
    rfl
  exact Managed.trigger_of_success rfl hcleanup

/-- The controller node, the first one, is Active: its cleanup is not valid. -/
theorem trigger_cleanup_partlyActive (h : env.activates .controllerNode store = .success) :
    trigger env (partlyActive env store) .cleanup = partlyActive env store := by
  have hmem : .controllerNode ∈ activated env store := by
    unfold activated systemNodes
    rw [List.takeWhile_cons, if_pos (decide_eq_true h)]
    exact List.mem_cons_self
  have hactive : (partlyActive env store).data.subnodes .controllerNode = .active :=
    if_pos hmem
  have hcleanup : (partlyActive env store).data.onCleanup (subnodeCallbacks env) =
      ((partlyActive env store).data, .failure) := by
    unfold SystemData.onCleanup systemNodes
    rw [SystemData.triggerAll_of_invalid]
    · rfl
    · rw [hactive]
      rfl
    · rw [hactive]
      simp
  exact Managed.trigger_of_failure rfl hcleanup

theorem stop_active (active : Bool) :
    stop env (settled .active active store) = settled .unconfigured false store := by
  unfold stop
  rw [trigger_deactivate]
  exact trigger_cleanup fun _ => Or.inl rfl

theorem stop_unconfigured :
    stop env (settled .unconfigured false store) = settled .unconfigured false store :=
  rfl

theorem stop_partlyActive (h : env.activates .controllerNode store ≠ .success) :
    stop env (partlyActive env store) = settled .unconfigured false store := by
  have hactivated : activated env store = [] := by
    unfold activated systemNodes
    rw [List.takeWhile_cons, if_neg (by simpa using h)]
  apply trigger_cleanup
  intro name
  rw [hactivated, if_neg List.not_mem_nil]
  exact notActivated_cases name

theorem stop_partlyActive_of_success (h : env.activates .controllerNode store = .success) :
    stop env (partlyActive env store) = partlyActive env store :=
  trigger_cleanup_partlyActive h

/-- Configuring reaches some subnodes, and leaves the others Unconfigured. -/
theorem triggerAll_configure :
    SystemData.triggerAll (subnodeCallbacks env) .configure .inactive systemNodes
        (settled .unconfigured false store).data =
      ({ (settled .unconfigured false store).data with
        subnodes := fun name =>
          if name ∈ systemNodes.takeWhile fun name => env.configures name store = .success then
            .inactive
          else .unconfigured },
        systemNodes.all fun name => env.configures name store = .success) := by
  have hunconfigured : ∀ answer,
      PrimaryState.unconfigured.onAnswer .configure answer = .unconfigured := by
    intro answer
    cases answer with
    | success => rfl
    | failure => rfl
    | error => rfl
  rw [SystemData.triggerAll_eq PrimaryState.goal_configure
    (fun answer => by rw [hunconfigured]; decide) systemNodes systemNodes_nodup
    (fun _ _ => rfl) (fun _ => rfl) (fun _ => rfl)]
  dsimp only [settled]
  simp only [hunconfigured, ite_self]
  rfl

theorem cleanupSubnodes_configured (configured : List Subnode) :
    SystemData.cleanupSubnodes (subnodeCallbacks env)
        { (settled .unconfigured false store).data with
          subnodes := fun name => if name ∈ configured then .inactive else .unconfigured } =
      (settled .unconfigured false store).data := by
  rw [SystemData.cleanupSubnodes_eq]
  · rfl
  · exact fun _ _ => rfl
  · intro name
    dsimp only
    split
    · exact Or.inl rfl
    · exact Or.inr rfl

theorem cleanupSubnodes_settled :
    SystemData.cleanupSubnodes (subnodeCallbacks env) (settled .unconfigured false store).data =
      (settled .unconfigured false store).data := by
  rw [SystemData.cleanupSubnodes_eq]
  · rfl
  · exact fun _ _ => rfl
  · exact fun _ => Or.inr rfl

theorem onConfigure_settled {new : Store V}
    (hnew : forwardDeprecatedUseCmdVelStamped env store = new) :
    (settled .unconfigured false store).data.onConfigure (subnodeCallbacks env)
        (systemHooks env) =
      if configurable env new then ((settled .inactive false new).data, .success)
      else ((settled .unconfigured false new).data, .failure) := by
  have hcheck : (systemHooks env).checkSystem
      ((systemHooks env).forwardDeprecated (settled .unconfigured false store).data.world) =
        (new, env.systemValid new) := by
    rw [← hnew]
    rfl
  rw [SystemData.onConfigure_eq hcheck triggerAll_configure, cleanupSubnodes_configured]
  unfold configurable
  cases env.systemValid new with
  | false => rfl
  | true =>
      cases hall : systemNodes.all fun name => env.configures name new = .success with
      | false => rfl
      | true =>
          rw [takeWhile_systemNodes hall]
          dsimp only [systemHooks, settled]
          simp only [mem_systemNodes, if_true]
          cases env.subnodesValid new with
          | false => rfl
          | true => rfl

theorem trigger_configure {new : Store V}
    (hnew : forwardDeprecatedUseCmdVelStamped env store = new) :
    trigger env (settled .unconfigured false store) .configure =
      settled (if configurable env new then .inactive else .unconfigured) false new := by
  have hon := onConfigure_settled hnew
  refine (Managed.trigger_of_ite rfl hon).trans ?_
  split <;> rfl

theorem onActivate_settled :
    (settled .inactive false store).data.onActivate (subnodeCallbacks env) id =
      if activable env store then ((settled .active true store).data, .success)
      else ((partlyActive env store).data, .failure) := by
  have hall : SystemData.triggerAll (subnodeCallbacks env) .activate .active systemNodes
      (settled .inactive false store).data =
        ((partlyActive env store).data, activable env store) :=
    SystemData.triggerAll_eq PrimaryState.goal_activate
      (fun answer => by cases answer <;> decide) systemNodes systemNodes_nodup
      (fun _ _ => rfl) (fun _ => rfl) (fun _ => rfl)
  unfold SystemData.onActivate
  rw [hall]
  dsimp only
  cases hactivable : activable env store with
  | false => rfl
  | true =>
      have hactivated : activated env store = systemNodes := takeWhile_systemNodes hactivable
      have hsubnodes : (partlyActive env store).data.subnodes = fun _ => .active := by
        funext name
        change (if name ∈ activated env store then PrimaryState.active else _) = _
        rw [hactivated, if_pos (mem_systemNodes name)]
      rw [hsubnodes]
      rfl

theorem trigger_activate :
    trigger env (settled .inactive false store) .activate =
      if activable env store then settled .active true store
      else partlyActive env store := by
  have hon : (settled .inactive false store).data.onActivate (subnodeCallbacks env) id = _ :=
    onActivate_settled
  exact Managed.trigger_of_ite rfl hon

def startedNode (env : Environment V) (store : Store V) : Managed (SystemData (Store V)) :=
  if configurable env store then
    if activable env store then settled .active true store
    else partlyActive env store
  else settled .unconfigured false store

theorem start_settled {new : Store V}
    (hnew : forwardDeprecatedUseCmdVelStamped env store = new) :
    start env (settled .unconfigured false store) =
      (startedNode env new, configurable env new && activable env new) := by
  unfold start startedNode
  rw [trigger_configure hnew]
  cases configurable env new with
  | false => rfl
  | true =>
      rw [if_pos rfl, if_pos rfl, if_neg (by simp [settled]), trigger_activate]
      cases activable env new with
      | false => rfl
      | true => rfl

/-- The parameters that restarting with these changes applies. -/
def newValues (env : Environment V) (store : Store V) (changes : List (ParameterChange V)) :
    Store V :=
  forwardDeprecatedUseCmdVelStamped env (setParameters env changes store).1

theorem restartWith_of_stop {node : Managed (SystemData (Store V))}
    (hstop : stop env node = settled .unconfigured false store)
    (changes : List (ParameterChange V)) :
    restartWith env node changes =
      (startedNode env (newValues env store changes),
        configurable env (newValues env store changes) &&
          activable env (newValues env store changes) && (setParameters env changes store).2) := by
  unfold restartWith
  rw [hstop]
  dsimp only
  rw [if_neg (by simp [settled]), cleanupSubnodes_settled]
  change (let r := start env (settled .unconfigured false (setParameters env changes store).1)
    (r.1, r.2 && (setParameters env changes store).2)) = _
  rw [start_settled rfl]
  rfl

/-- The first subnode activates, and another one does not. -/
def Stuck (env : Environment V) (store : Store V) : Prop :=
  configurable env store = true ∧ env.activates .controllerNode store = .success ∧
    activable env store = false

theorem stop_startedNode (h : ¬ Stuck env store) :
    stop env (startedNode env store) = settled .unconfigured false store := by
  unfold startedNode
  split
  · rename_i hconfigurable
    split
    · exact stop_active true
    · rename_i hactivable
      exact stop_partlyActive fun hfirst =>
        h ⟨hconfigurable, hfirst, Bool.eq_false_iff.mpr hactivable⟩
  · exact stop_unconfigured

theorem restartWith_of_stuck (h : Stuck env store) (changes : List (ParameterChange V)) :
    restartWith env (startedNode env store) changes = (startedNode env store, false) := by
  obtain ⟨hconfigurable, hfirst, hactivable⟩ := h
  have hnode : startedNode env store = partlyActive env store := by
    unfold startedNode
    rw [if_pos hconfigurable, hactivable]
    rfl
  rw [hnode]
  unfold restartWith
  rw [stop_partlyActive_of_success hfirst]
  dsimp only
  rw [if_pos (by simp [partlyActive])]

end Restart

section Values

variable {env} {store other : Store V} {changes previous : List (ParameterChange V)}
  {node : NodeId} {parameter : String}

theorem forwardDeprecatedUseCmdVelStamped_of_some {stamped : V}
    (hstamped : store .system "use_cmd_vel_stamped" = some stamped)
    (hoverrides : env.controllerOverrides = false) :
    forwardDeprecatedUseCmdVelStamped env store =
      Store.set store (.subnode .controllerNode) "use_cmd_vel_stamped" stamped := by
  unfold forwardDeprecatedUseCmdVelStamped
  rw [hstamped, hoverrides]

theorem forwardDeprecatedUseCmdVelStamped_of_none
    (h : store .system "use_cmd_vel_stamped" = none ∨ env.controllerOverrides = true) :
    forwardDeprecatedUseCmdVelStamped env store = store := by
  unfold forwardDeprecatedUseCmdVelStamped
  split
  · rename_i hstamped hoverrides
    rcases h with h | h
    · rw [h] at hstamped
      contradiction
    · rw [h] at hoverrides
      contradiction
  · rfl

theorem forwardDeprecatedUseCmdVelStamped_cases (env : Environment V) (store : Store V) :
    forwardDeprecatedUseCmdVelStamped env store = store ∨
      ∃ stamped, store .system "use_cmd_vel_stamped" = some stamped ∧
        env.controllerOverrides = false := by
  cases hstamped : store .system "use_cmd_vel_stamped" with
  | none => exact Or.inl (forwardDeprecatedUseCmdVelStamped_of_none (Or.inl hstamped))
  | some stamped =>
      cases hoverrides : env.controllerOverrides with
      | true => exact Or.inl (forwardDeprecatedUseCmdVelStamped_of_none (Or.inr hoverrides))
      | false => exact Or.inr ⟨stamped, rfl, rfl⟩

theorem forwardDeprecatedUseCmdVelStamped_of_ne
    (h : ¬ (node = .subnode .controllerNode ∧ parameter = "use_cmd_vel_stamped")) :
    forwardDeprecatedUseCmdVelStamped env store node parameter = store node parameter := by
  rcases forwardDeprecatedUseCmdVelStamped_cases env store with heq | ⟨stamped, hsome, hfalse⟩
  · rw [heq]
  · rw [forwardDeprecatedUseCmdVelStamped_of_some hsome hfalse]
    exact if_neg h

theorem forwardDeprecatedUseCmdVelStamped_idem :
    forwardDeprecatedUseCmdVelStamped env (forwardDeprecatedUseCmdVelStamped env store) =
      forwardDeprecatedUseCmdVelStamped env store := by
  rcases forwardDeprecatedUseCmdVelStamped_cases env store with heq | ⟨stamped, hsome, hfalse⟩
  · rw [heq, heq]
  · have hsystem : forwardDeprecatedUseCmdVelStamped env store .system "use_cmd_vel_stamped" =
        store .system "use_cmd_vel_stamped" :=
      forwardDeprecatedUseCmdVelStamped_of_ne (by simp)
    rw [forwardDeprecatedUseCmdVelStamped_of_some (hsystem.trans hsome) hfalse,
      forwardDeprecatedUseCmdVelStamped_of_some hsome hfalse]
    funext node parameter
    unfold Store.set
    split
    · rfl
    · rfl

theorem newValues_previousValues (hprevious : previousValues store changes = some previous)
    (haccepted : ∀ change ∈ previous, Accepted env change)
    (hdeprecated : forwardDeprecatedUseCmdVelStamped env store = store) :
    newValues env (newValues env store changes) previous = store := by
  have hrestored : ∀ node parameter,
      newValues env store changes node parameter =
        (setParameters env changes store).1 node parameter →
      (setParameters env previous (newValues env store changes)).1 node parameter =
        store node parameter := by
    intro node parameter hkept
    apply setParameters_previousValues hprevious haccepted
    by_cases htouches : Touches changes node parameter
    · exact Or.inl htouches
    · exact Or.inr (hkept.trans (setParameters_of_not_touches htouches))
  have hstamped := hrestored .system "use_cmd_vel_stamped"
    (forwardDeprecatedUseCmdVelStamped_of_ne (by simp))
  funext node parameter
  by_cases hforwarded : node = .subnode .controllerNode ∧ parameter = "use_cmd_vel_stamped"
  · unfold newValues at hrestored hstamped ⊢
    by_cases h : store .system "use_cmd_vel_stamped" = none ∨ env.controllerOverrides = true
    · have hchanged : (setParameters env changes store).1 .system "use_cmd_vel_stamped" = none ∨
          env.controllerOverrides = true := by
        refine h.imp_left fun hnone => ?_
        rw [setParameters_of_not_touches (not_touches_of_eq_none hprevious hnone), hnone]
      rw [forwardDeprecatedUseCmdVelStamped_of_none (h.imp_left hstamped.trans)]
      apply hrestored
      rw [forwardDeprecatedUseCmdVelStamped_of_none hchanged]
    · obtain ⟨hsome, hoverrides⟩ := not_or.mp h
      obtain ⟨stamped, hsome⟩ := Option.ne_none_iff_exists'.mp hsome
      rw [Bool.not_eq_true] at hoverrides
      rw [forwardDeprecatedUseCmdVelStamped_of_some (hstamped.trans hsome) hoverrides,
        ← hdeprecated, forwardDeprecatedUseCmdVelStamped_of_some hsome hoverrides]
      obtain ⟨rfl, rfl⟩ := hforwarded
      unfold Store.set
      simp only [and_self, if_true]
  · unfold newValues
    rw [forwardDeprecatedUseCmdVelStamped_of_ne hforwarded]
    exact hrestored node parameter (forwardDeprecatedUseCmdVelStamped_of_ne hforwarded)

end Values

inductive Operation (V : Type u) where
  | transition (transition : Transition)
  | setParameter (change : ParameterChange V)
  | requestShutdown (reason : String)
  | requestReconfigure (allowed : Bool) (changes : List (ParameterChange V)) (reason : String)
  | requestRestoreParameters (allowed : Bool) (reason : String)
  | applyPendingReconfigure

def step (sys : ReconfigurableNode V) : Operation V → ReconfigurableNode V
  | .transition transition => { sys with node := trigger env sys.node transition }
  | .setParameter change =>
      { sys with
        node := { sys.node with
          data := { sys.node.data with
            world := (setParameter env sys.node.data.world change).1 } } }
  | .requestShutdown reason =>
      { sys with node := { sys.node with data := sys.node.data.requestShutdown reason } }
  | .requestReconfigure allowed changes reason =>
      (requestReconfigure sys allowed changes reason).1
  | .requestRestoreParameters allowed reason => (requestRestoreParameters sys allowed reason).1
  | .applyPendingReconfigure => (applyPendingReconfigure env sys).1

def IsInitial (sys : ReconfigurableNode V) : Prop :=
  ∃ store, sys = { node := settled .unconfigured false store }

/-- While the node is Active, every subnode is. -/
def Together (node : Managed (SystemData (Store V))) : Prop :=
  node.state = .active → ∀ name, node.data.subnodes name = .active

section Together

variable {env} {node : Managed (SystemData (Store V))}

theorem Together.requestShutdown (h : Together node) (reason : String) :
    Together { node with data := node.data.requestShutdown reason } :=
  h

theorem deactivateSubnodes_ne_failure {data : SystemData (Store V)}
    (h : ∀ name, data.subnodes name = .active) :
    (data.deactivateSubnodes (subnodeCallbacks env)).2 ≠ .failure := by
  unfold SystemData.deactivateSubnodes
  rw [SystemData.triggerAll_systemNodes PrimaryState.goal_deactivate h (fun _ _ => rfl)]
  dsimp only
  rw [if_neg (by simp)]
  split
  · simp
  · simp

theorem trigger_together (h : Together node) (transition : Transition) :
    Together (trigger env node transition) := by
  cases hgoal : node.state.goal transition with
  | none =>
      unfold trigger
      rw [Managed.trigger_of_invalid hgoal]
      exact h
  | some goal =>
      intro hactive name
      unfold trigger at hactive ⊢
      rw [Managed.trigger_of_goal hgoal] at hactive ⊢
      rcases Managed.settle_cases _ transition node.state goal _ with
        ⟨hsuccess, hnode⟩ | ⟨hfailure, hnode⟩ | hother
      · rw [hnode] at hactive ⊢
        obtain rfl : goal = .active := hactive
        obtain rfl := PrimaryState.activate_of_goal hgoal
        exact SystemData.onActivate_subnodes hsuccess name
      · rw [hnode] at hactive
        obtain ⟨hstate, rfl⟩ := PrimaryState.deactivate_of_onFailure hgoal hactive
        exact absurd hfailure (deactivateSubnodes_ne_failure (h hstate))
      · exact absurd hactive hother

theorem stop_together (h : Together node) : Together (stop env node) := by
  unfold stop
  dsimp only
  have hdeactivated : Together (trigger env node .deactivate) := trigger_together h .deactivate
  split
  · split
    · exact trigger_together hdeactivated .cleanup
    · exact hdeactivated
  · split
    · exact trigger_together h .cleanup
    · exact h

theorem start_together (h : Together node) : Together (start env node).1 := by
  unfold start
  dsimp only
  split
  · exact trigger_together h .configure
  · exact trigger_together (trigger_together h .configure) .activate

theorem restartWith_together (h : Together node) (changes : List (ParameterChange V)) :
    Together (restartWith env node changes).1 := by
  unfold restartWith
  dsimp only
  split
  · exact stop_together h
  · rename_i hstate
    apply start_together
    intro hactive
    rw [not_not.mp hstate] at hactive
    contradiction

theorem reconfigure_together {sys : ReconfigurableNode V} (h : Together sys.node)
    (request : ReconfigureRequest V) (changes previous : List (ParameterChange V)) :
    Together (reconfigure env sys request changes previous).node := by
  unfold reconfigure
  dsimp only
  have hfirst : Together (restartWith env sys.node changes).1 := restartWith_together h changes
  split
  · have hsecond : Together (restartWith env (restartWith env sys.node changes).1 previous).1 :=
      restartWith_together hfirst previous
    split
    · exact hsecond
    · exact hsecond.requestShutdown _
  · exact hfirst

theorem applyPendingReconfigure_together {sys : ReconfigurableNode V} (h : Together sys.node) :
    Together (applyPendingReconfigure env sys).1.node := by
  unfold applyPendingReconfigure
  split
  · exact h
  · split
    · exact h
    · dsimp only
      split
      · exact h
      · split
        · exact h
        · apply reconfigure_together
          exact h

theorem step_together {sys : ReconfigurableNode V} (h : Together sys.node)
    (operation : Operation V) : Together (step env sys operation).node := by
  cases operation with
  | transition transition => exact trigger_together h transition
  | setParameter change => exact h
  | requestShutdown reason => exact h
  | requestReconfigure allowed changes reason =>
      cases allowed with
      | false => exact h
      | true => exact h
  | requestRestoreParameters allowed reason =>
      cases allowed with
      | false => exact h
      | true => exact h
  | applyPendingReconfigure => exact applyPendingReconfigure_together h

/-- In every run, all subnodes are Active while the node is. -/
theorem run_together {sys : ReconfigurableNode V}
    {past : List (ReconfigurableNode V × Operation V)}
    (hrun : Run (step env) IsInitial sys past) : Together sys.node := by
  refine hrun.invariant_of_all (motive := fun sys => Together sys.node) ?_
    (fun sys operation h => step_together h operation)
  rintro sys ⟨store, rfl⟩ hactive
  contradiction

end Together

/-- The node and all its subnodes are Active with these parameters, and no shutdown was
requested. -/
structure RolledBack (store : Store V) (node : Managed (SystemData (Store V))) : Prop where
  active : node.state = .active
  subnodes : ∀ name, node.data.subnodes name = .active
  values : node.data.world = store
  running : node.data.shutdownReason = none

/-- Every subnode would configure and activate with these parameters. -/
def Works (store : Store V) : Prop :=
  ∀ name, env.configures name store = .success ∧ env.activates name store = .success

/-- What the way back needs, besides the subnodes. -/
structure Recoverable (store : Store V) (changes previous : List (ParameterChange V)) :
    Prop where
  /-- An activation that fails does so in the first subnode. -/
  unstuck : ¬ Stuck env (newValues env store changes)
  accepted : ∀ change ∈ previous, Accepted env change
  forwarded : forwardDeprecatedUseCmdVelStamped env store = store
  system : env.systemValid store = true
  subnodes : env.subnodesValid store = true

/-- Restarting with the requested changes, if there are any, fails. -/
def RestartFails (sys : ReconfigurableNode V) (request : ReconfigureRequest V) : Prop :=
  requestedChanges sys request ≠ [] ∧
    (restartWith env sys.node (requestedChanges sys request)).2 = false

section Rollback

variable {env} {store : Store V} {changes previous : List (ParameterChange V)}
  {sys : ReconfigurableNode V} {node : Managed (SystemData (Store V))}
  {request : ReconfigureRequest V}

theorem not_rolledBack_requestShutdown (node : Managed (SystemData (Store V)))
    (reason : String) :
    ¬ RolledBack store { node with data := node.data.requestShutdown reason } := by
  rintro ⟨-, -, -, hrunning⟩
  contradiction

theorem Works.configurable (hworks : Works env store) (hsystem : env.systemValid store = true)
    (hsubnodes : env.subnodesValid store = true) : configurable env store = true := by
  unfold Rollback.configurable
  rw [hsystem, hsubnodes, all_systemNodes_iff.mpr fun name => decide_eq_true (hworks name).1]
  rfl

theorem Works.activable (hworks : Works env store) : activable env store = true :=
  all_systemNodes_iff.mpr fun name => decide_eq_true (hworks name).2

theorem configurable_iff :
    configurable env store = true ↔
      env.systemValid store = true ∧ (∀ name, env.configures name store = .success) ∧
        env.subnodesValid store = true := by
  unfold configurable
  simp only [Bool.and_eq_true, all_systemNodes_iff, decide_eq_true_eq, and_assoc]

theorem startedNode_of_activable (hconfigurable : configurable env store = true)
    (hactivable : activable env store = true) :
    startedNode env store = settled .active true store := by
  unfold startedNode
  rw [if_pos hconfigurable, if_pos hactivable]

theorem reconfigure_of_failed {restored : Bool} {second : Managed (SystemData (Store V))}
    (hfirst : restartWith env sys.node changes = (node, false))
    (hsecond : restartWith env node previous = (second, restored)) :
    (reconfigure env sys request changes previous).node =
      if restored then second
      else
        { second with
          data := second.data.requestShutdown
            ("unable to reconfigure (" ++ request.reason ++ ") or restore") } := by
  unfold reconfigure
  rw [hfirst]
  dsimp only
  rw [hsecond]
  cases restored with
  | false => rfl
  | true => rfl

theorem restored_iff (hprevious : previousValues store changes = some previous)
    (hworks : Works env store) (hunstuck : ¬ Stuck env (newValues env store changes)) :
    (newValues env (newValues env store changes) previous = store ∧
      configurable env store = true ∧ ∀ change ∈ previous, Accepted env change) ↔
      Recoverable env store changes previous := by
  constructor
  · rintro ⟨hvalues, hconfigurable, haccepted⟩
    obtain ⟨hsystem, -, hsubnodes⟩ := configurable_iff.mp hconfigurable
    refine ⟨hunstuck, haccepted, ?_, hsystem, hsubnodes⟩
    rw [← hvalues]
    exact forwardDeprecatedUseCmdVelStamped_idem
  · intro h
    exact ⟨newValues_previousValues hprevious h.accepted h.forwarded,
      hworks.configurable h.system h.subnodes, h.accepted⟩

/-- The second attempt, with the previous values, after a first one that failed. -/
theorem reconfigure_rolledBack_iff (active : Bool)
    (hnode : sys.node = settled .active active store)
    (hprevious : previousValues store changes = some previous) (hworks : Works env store)
    (hfailed : (restartWith env sys.node changes).2 = false) :
    RolledBack store (reconfigure env sys request changes previous).node ↔
      Recoverable env store changes previous := by
  have hfirst : restartWith env sys.node changes =
      (startedNode env (newValues env store changes), false) := by
    rw [hnode] at hfailed ⊢
    rw [restartWith_of_stop (stop_active active)] at hfailed ⊢
    exact Prod.ext rfl hfailed
  by_cases hstuck : Stuck env (newValues env store changes)
  · rw [reconfigure_of_failed hfirst (restartWith_of_stuck hstuck previous)]
    exact iff_of_false (not_rolledBack_requestShutdown _ _) fun h => h.unstuck hstuck
  · have hsecond := restartWith_of_stop (stop_startedNode hstuck) previous
    rw [reconfigure_of_failed hfirst hsecond, ← restored_iff hprevious hworks hstuck]
    constructor
    · intro h
      split at h
      · rename_i hrestored
        rw [Bool.and_eq_true, Bool.and_eq_true, setParameters_accepted_iff] at hrestored
        obtain ⟨⟨hconfigurable, hactivable⟩, haccepted⟩ := hrestored
        rw [startedNode_of_activable hconfigurable hactivable] at h
        have hvalues := h.values
        exact ⟨hvalues, hvalues ▸ hconfigurable, haccepted⟩
      · exact absurd h (not_rolledBack_requestShutdown _ _)
    · rintro ⟨hvalues, hconfigurable, haccepted⟩
      rw [hvalues, hconfigurable, hworks.activable,
        (setParameters_accepted_iff _ _).mpr haccepted,
        startedNode_of_activable hconfigurable hworks.activable]
      exact ⟨rfl, fun _ => rfl, rfl, rfl⟩

theorem eq_settled (hactive : node.state = .active)
    (hsubnodes : ∀ name, node.data.subnodes name = .active)
    (hrunning : node.data.shutdownReason = none) :
    node = settled .active node.data.active node.data.world := by
  obtain ⟨state, subnodes, active, reason, world⟩ := node
  obtain rfl : state = .active := hactive
  obtain rfl : reason = none := hrunning
  obtain rfl : subnodes = fun _ => .active := funext hsubnodes
  rfl

theorem applyPendingReconfigure_node (hpending : sys.pendingReconfigure = some request)
    (hactive : sys.node.state = .active) (hrunning : sys.node.data.shutdownReason = none)
    (hchanges : requestedChanges sys request ≠ [])
    (hprevious : previousValues sys.node.data.world (requestedChanges sys request) =
      some previous) :
    (applyPendingReconfigure env sys).1.node =
      (reconfigure env { sys with pendingReconfigure := none } request
        (requestedChanges sys request) previous).node := by
  have happly := not_gated_iff.mpr ⟨hactive, hrunning⟩
  simp only [applyPendingReconfigure, hpending]
  rw [if_neg happly, if_neg (by simpa using hchanges), hprevious]

/-- A reconfiguration that fails is rolled back when nothing stands in the way back, and
only then. -/
theorem rolledBack_iff {past : List (ReconfigurableNode V × Operation V)}
    (hrun : Run (step env) IsInitial sys past)
    (hpending : sys.pendingReconfigure = some request)
    (hactive : sys.node.state = .active) (hrunning : sys.node.data.shutdownReason = none)
    (hprevious : previousValues sys.node.data.world (requestedChanges sys request) =
      some previous)
    (hworks : Works env sys.node.data.world) (hfails : RestartFails env sys request) :
    RolledBack sys.node.data.world (applyPendingReconfigure env sys).1.node ↔
      Recoverable env sys.node.data.world (requestedChanges sys request) previous := by
  obtain ⟨hchanges, hfailed⟩ := hfails
  have hnode := eq_settled hactive (run_together hrun hactive) hrunning
  rw [applyPendingReconfigure_node hpending hactive hrunning hchanges hprevious]
  exact reconfigure_rolledBack_iff sys.node.data.active hnode hprevious hworks hfailed

end Rollback

/-- Recovery managers, of which one throws when it is activated. -/
def managers (loadsThrowing : Bool) : Environment String where
  accepts _ _ value := loadsThrowing || value ≠ "throwing"
  systemValid _ := true
  configures _ _ := .success
  subnodesValid _ := true
  activates name store :=
    if name = .recoveryNode ∧
        store (.subnode .recoveryNode) "recovery_manager.plugin" = some "throwing"
    then .error else .success

def firstManager : Store String :=
  Store.set (fun _ _ => none) (.subnode .recoveryNode) "recovery_manager.plugin" "default"

def toThrowing : ParameterChange String :=
  { node := "recovery_node", parameter := "recovery_manager.plugin", value := "throwing" }

def toDefault : ParameterChange String :=
  { node := "recovery_node", parameter := "recovery_manager.plugin", value := "default" }

def changeManager : ReconfigureRequest String := { changes := [toThrowing], reason := "try" }

/-- Configured, activated and asked to change the manager. -/
def changingManager (loadsThrowing : Bool) : ReconfigurableNode String :=
  [.transition .configure, .transition .activate, .requestReconfigure true [toThrowing] "try"]
    |>.foldl (step (managers loadsThrowing)) { node := settled .unconfigured false firstManager }

section Managers

variable (loadsThrowing : Bool)

theorem configurable_managers (store : Store String) :
    configurable (managers loadsThrowing) store = true :=
  rfl

theorem activates_managers {store : Store String} {name : Subnode}
    (h : name ≠ .recoveryNode ∨
      store (.subnode .recoveryNode) "recovery_manager.plugin" ≠ some "throwing") :
    (managers loadsThrowing).activates name store = .success := by
  apply if_neg
  rintro ⟨hname, hstore⟩
  rcases h with h | h
  · exact h hname
  · exact h hstore

theorem firstManager_default :
    firstManager (.subnode .recoveryNode) "recovery_manager.plugin" = some "default" := by
  unfold firstManager Store.set
  exact if_pos ⟨rfl, rfl⟩

theorem works_firstManager : Works (managers loadsThrowing) firstManager := fun _ =>
  ⟨rfl, activates_managers _ (Or.inr (by rw [firstManager_default]; decide))⟩

theorem forward_firstManager :
    forwardDeprecatedUseCmdVelStamped (managers loadsThrowing) firstManager = firstManager :=
  forwardDeprecatedUseCmdVelStamped_of_none (Or.inl rfl)

theorem changingManager_eq :
    changingManager loadsThrowing =
      { node := settled .active true firstManager
        pendingReconfigure := some changeManager } := by
  have hconfigured := trigger_configure (forward_firstManager loadsThrowing)
  rw [configurable_managers, if_pos rfl] at hconfigured
  have hactivated : trigger (managers loadsThrowing) (settled .inactive false firstManager)
      .activate = _ := trigger_activate
  rw [(works_firstManager loadsThrowing).activable, if_pos rfl] at hactivated
  unfold changingManager
  simp only [List.foldl, step, hconfigured, hactivated]
  rfl

theorem changingManager_run :
    ∃ past, Run (step (managers loadsThrowing)) IsInitial (changingManager loadsThrowing)
      past :=
  ⟨_, (Run.init ⟨firstManager, rfl⟩).foldl _⟩

theorem changingManager_world : (changingManager loadsThrowing).node.data.world = firstManager := by
  rw [changingManager_eq]
  rfl

theorem previousValues_firstManager :
    previousValues firstManager
        (requestedChanges (changingManager loadsThrowing) changeManager) = some [toDefault] :=
  rfl

theorem newValues_toThrowing :
    newValues (managers loadsThrowing) firstManager [toThrowing] =
      if loadsThrowing then
        Store.set firstManager (.subnode .recoveryNode) "recovery_manager.plugin" "throwing"
      else firstManager := by
  cases loadsThrowing with
  | false => rfl
  | true => rfl

theorem restartWith_changingManager :
    (restartWith (managers loadsThrowing) (changingManager loadsThrowing).node
        [toThrowing]).2 =
      (configurable (managers loadsThrowing)
          (newValues (managers loadsThrowing) firstManager [toThrowing]) &&
        activable (managers loadsThrowing)
          (newValues (managers loadsThrowing) firstManager [toThrowing]) &&
        (setParameters (managers loadsThrowing) [toThrowing] firstManager).2) := by
  rw [changingManager_eq, restartWith_of_stop (stop_active true)]

theorem restartFails_rejected :
    RestartFails (managers false) (changingManager false) changeManager := by
  have hrejected : (setParameters (managers false) [toThrowing] firstManager).2 = false := rfl
  refine ⟨List.cons_ne_nil _ _, (restartWith_changingManager false).trans ?_⟩
  rw [hrejected, Bool.and_false]

theorem recoverable_rejected :
    Recoverable (managers false) firstManager [toThrowing] [toDefault] := by
  refine ⟨?_, ?_, forward_firstManager false, rfl, rfl⟩
  · rw [newValues_toThrowing, if_neg (by decide)]
    rintro ⟨-, -, hactivable⟩
    rw [(works_firstManager false).activable] at hactivable
    contradiction
  · intro change hchange
    rw [List.mem_singleton.mp hchange]
    exact ⟨.subnode .recoveryNode, rfl, rfl⟩

/-- A value that the parameter rejects. -/
theorem rolledBack_iff_rejected :
    RolledBack firstManager
      (applyPendingReconfigure (managers false) (changingManager false)).1.node := by
  obtain ⟨past, hrun⟩ := changingManager_run false
  have hnode := changingManager_eq false
  have hworld := changingManager_world false
  have h := rolledBack_iff hrun (by rw [hnode]) (by rw [hnode]; rfl) (by rw [hnode]; rfl)
    (by rw [hworld]; exact previousValues_firstManager false)
    (by rw [hworld]; exact works_firstManager false) restartFails_rejected
  rw [hworld] at h
  exact h.mpr recoverable_rejected

theorem stuck_throwing :
    Stuck (managers true) (newValues (managers true) firstManager [toThrowing]) := by
  refine ⟨rfl, activates_managers true (Or.inl (by decide)), ?_⟩
  rw [newValues_toThrowing, if_pos rfl, Bool.eq_false_iff]
  intro h
  have hrecovery := of_decide_eq_true (all_systemNodes_iff.mp h .recoveryNode)
  contradiction

theorem restartFails_throwing :
    RestartFails (managers true) (changingManager true) changeManager := by
  refine ⟨List.cons_ne_nil _ _, (restartWith_changingManager true).trans ?_⟩
  rw [stuck_throwing.2.2, Bool.and_false, Bool.false_and]

/-- The recovery manager throws on its activation, with the controller node Active. -/
theorem not_rolledBack_after_throwing :
    (∃ past, Run (step (managers true)) IsInitial (changingManager true) past) ∧
      (changingManager true).pendingReconfigure = some changeManager ∧
      (changingManager true).node.state = .active ∧
      Works (managers true) (changingManager true).node.data.world ∧
      RestartFails (managers true) (changingManager true) changeManager ∧
      ¬ RolledBack (changingManager true).node.data.world
        (applyPendingReconfigure (managers true) (changingManager true)).1.node := by
  have hnode := changingManager_eq true
  have hworld := changingManager_world true
  refine ⟨changingManager_run true, by rw [hnode], by rw [hnode]; rfl,
    hworld ▸ works_firstManager true, restartFails_throwing, ?_⟩
  rw [hworld, applyPendingReconfigure_node (by rw [hnode]) (by rw [hnode]; rfl)
    (by rw [hnode]; rfl) restartFails_throwing.1
    (by rw [hworld]; exact previousValues_firstManager true)]
  refine mt (reconfigure_rolledBack_iff true ?_ (previousValues_firstManager true)
    (works_firstManager true) restartFails_throwing.2).mp fun h => h.unstuck stuck_throwing
  rw [hnode]

end Managers

end EasyNav.Rollback
