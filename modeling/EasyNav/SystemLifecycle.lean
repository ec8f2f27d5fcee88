import EasyNav.Lifecycle
import Mathlib.Logic.Function.Basic

/-!
The system node and the lifecycle of its subnodes. What the subnodes do in their
own transitions is a parameter: callbacks that act on a common world.
-/

namespace EasyNav.SystemLifecycle

open EasyNav.Lifecycle

universe u

/-- The subnodes, in the order in which the system node goes through them. -/
inductive Subnode where
  | controllerNode
  | localizerNode
  | mapsManagerNode
  | plannerNode
  | recoveryNode
  | sensorsNode
  deriving DecidableEq

def systemNodes : List Subnode :=
  [.controllerNode, .localizerNode, .mapsManagerNode, .plannerNode, .recoveryNode,
    .sensorsNode]

theorem mem_systemNodes (name : Subnode) : name ∈ systemNodes := by
  cases name <;> decide

theorem systemNodes_nodup : systemNodes.Nodup := by
  decide

/-- What the system node keeps: the primary states of its subnodes, whether its RT
cycle runs, and why a shutdown was requested, if it was. -/
structure SystemData (W : Type u) where
  subnodes : Subnode → PrimaryState
  active : Bool
  shutdownReason : Option String
  world : W

/-- What the system node itself checks and does in its transitions. -/
structure SystemHooks (W : Type u) where
  forwardDeprecated : W → W
  checkSystem : W → W × Bool
  checkSubnodes : W → Bool
  onConfigured : W → W
  onActivated : W → W
  clearCmdVel : W → W

namespace SystemData

variable {W : Type u}

def isShutdownRequested (sys : SystemData W) : Bool := sys.shutdownReason.isSome

/-- Latched: the first reason is kept. -/
def requestShutdown (sys : SystemData W) (reason : String) : SystemData W :=
  { sys with shutdownReason := some (sys.shutdownReason.getD reason) }

def triggerSubnode (sys : SystemData W) (callbacks : Subnode → Callbacks W) (name : Subnode)
    (transition : Transition) : SystemData W :=
  let node := (Managed.mk (sys.subnodes name) sys.world).trigger (callbacks name) transition
  { sys with
    subnodes := Function.update sys.subnodes name node.state
    world := node.data }

/-- Triggers a transition of every subnode, until one does not end in `expected`. -/
def triggerAll (callbacks : Subnode → Callbacks W) (transition : Transition)
    (expected : PrimaryState) : List Subnode → SystemData W → SystemData W × Bool
  | [], sys => (sys, true)
  | name :: names, sys =>
      let sys := sys.triggerSubnode callbacks name transition
      if sys.subnodes name ≠ expected then (sys, false)
      else triggerAll callbacks transition expected names sys

def cleanupSubnodes (callbacks : Subnode → Callbacks W) (sys : SystemData W) :
    SystemData W :=
  systemNodes.foldl (fun sys name =>
    if sys.subnodes name = .inactive then sys.triggerSubnode callbacks name .cleanup
    else sys) sys

def onConfigure (callbacks : Subnode → Callbacks W) (hooks : SystemHooks W)
    (sys : SystemData W) : SystemData W × CallbackReturn :=
  let (world, valid) := hooks.checkSystem (hooks.forwardDeprecated sys.world)
  let sys := { sys with world := world }
  if !valid then (sys, .failure)
  else
    let (sys, configured) := triggerAll callbacks .configure .inactive systemNodes sys
    if !configured then (sys.cleanupSubnodes callbacks, .failure)
    else if !hooks.checkSubnodes sys.world then (sys.cleanupSubnodes callbacks, .failure)
    else ({ sys with world := hooks.onConfigured sys.world }, .success)

def onActivate (callbacks : Subnode → Callbacks W) (onActivated : W → W)
    (sys : SystemData W) : SystemData W × CallbackReturn :=
  let (sys, activated) := triggerAll callbacks .activate .active systemNodes sys
  if !activated then (sys, .failure)
  else ({ sys with active := true, world := onActivated sys.world }, .success)

/-- Once no RT cycle is in flight, none will publish again. -/
def stopCycles (clearCmdVel : W → W) (sys : SystemData W) : SystemData W :=
  { sys with active := false, world := clearCmdVel sys.world }

def deactivateSubnodes (callbacks : Subnode → Callbacks W) (sys : SystemData W) :
    SystemData W × CallbackReturn :=
  let (sys, deactivated) := triggerAll callbacks .deactivate .inactive systemNodes sys
  if !deactivated then (sys, .failure)
  else if sys.isShutdownRequested then (sys, .error)
  else (sys, .success)

def onDeactivate (callbacks : Subnode → Callbacks W) (clearCmdVel : W → W)
    (sys : SystemData W) : SystemData W × CallbackReturn :=
  (sys.stopCycles clearCmdVel).deactivateSubnodes callbacks

def onCleanup (callbacks : Subnode → Callbacks W) (sys : SystemData W) :
    SystemData W × CallbackReturn :=
  let (sys, cleaned) := triggerAll callbacks .cleanup .unconfigured systemNodes sys
  (sys, if cleaned then .success else .failure)

def onShutdown (sys : SystemData W) : SystemData W × CallbackReturn := (sys, .success)

/-- Shuts every subnode down if a shutdown was requested. -/
def onError (callbacks : Subnode → Callbacks W) (sys : SystemData W) :
    SystemData W × CallbackReturn :=
  if !sys.isShutdownRequested then (sys, .success)
  else
    (systemNodes.foldl (fun sys name => sys.triggerSubnode callbacks name .shutdown) sys,
      .failure)

def systemCallbacks (callbacks : Subnode → Callbacks W) (hooks : SystemHooks W) :
    Callbacks (SystemData W) where
  on
    | .configure => onConfigure callbacks hooks
    | .cleanup => onCleanup callbacks
    | .activate => onActivate callbacks hooks.onActivated
    | .deactivate => onDeactivate callbacks hooks.clearCmdVel
    | .shutdown => onShutdown
  onError := onError callbacks

section Trigger

variable (callbacks : Subnode → Callbacks W) (sys : SystemData W)

theorem triggerSubnode_subnodes_of_ne {name other : Subnode} (h : other ≠ name)
    (transition : Transition) :
    (sys.triggerSubnode callbacks name transition).subnodes other = sys.subnodes other := by
  unfold triggerSubnode
  exact Function.update_of_ne h _ _

theorem triggerAll_induction {motive : SystemData W → Prop} {transition : Transition}
    (hstep : ∀ sys name, motive sys → motive (sys.triggerSubnode callbacks name transition))
    {sys : SystemData W} (h : motive sys) (expected : PrimaryState) (names : List Subnode) :
    motive (triggerAll callbacks transition expected names sys).1 := by
  induction names generalizing sys with
  | nil => exact h
  | cons name names ih =>
      rw [triggerAll]
      split
      · exact hstep sys name h
      · exact ih (hstep sys name h)

theorem cleanupSubnodes_induction {motive : SystemData W → Prop}
    (hstep : ∀ sys name, motive sys → motive (sys.triggerSubnode callbacks name .cleanup))
    {sys : SystemData W} (h : motive sys) : motive (sys.cleanupSubnodes callbacks) := by
  rw [cleanupSubnodes]
  refine List.foldlRecOn systemNodes _ h ?_
  intro sys hsys name _
  split
  · exact hstep sys name hsys
  · exact hsys

theorem onConfigure_induction {motive : SystemData W → Prop} {hooks : SystemHooks W}
    (hsubnode : ∀ sys name transition, motive sys →
      motive (sys.triggerSubnode callbacks name transition))
    (hcheck : ∀ sys, motive sys →
      motive { sys with world := (hooks.checkSystem (hooks.forwardDeprecated sys.world)).1 })
    (hconfigured : ∀ sys, motive sys → motive { sys with world := hooks.onConfigured sys.world })
    {sys : SystemData W} (h : motive sys) : motive (sys.onConfigure callbacks hooks).1 := by
  have hall := triggerAll_induction callbacks
    (fun sys name => hsubnode sys name .configure) (hcheck sys h) .inactive systemNodes
  have hcleanup := cleanupSubnodes_induction callbacks
    (fun sys name => hsubnode sys name .cleanup) hall
  rw [onConfigure]
  dsimp only
  generalize triggerAll callbacks .configure .inactive systemNodes
    { sys with world := (hooks.checkSystem (hooks.forwardDeprecated sys.world)).1 } =
      configured at hall hcleanup ⊢
  split
  · exact hcheck sys h
  · split
    · dsimp only
      exact hcleanup
    · split
      · dsimp only
        exact hcleanup
      · exact hconfigured _ hall

theorem deactivateSubnodes_fst :
    (sys.deactivateSubnodes callbacks).1 =
      (triggerAll callbacks .deactivate .inactive systemNodes sys).1 := by
  rw [deactivateSubnodes]
  dsimp only
  split
  · rfl
  · split <;> rfl

variable {callbacks} {sys} {transition : Transition} {state goal : PrimaryState}

theorem triggerSubnode_of_success {name : Subnode} (hgoal : state.goal transition = some goal)
    (hstate : sys.subnodes name = state)
    (hsuccess : ((callbacks name).on transition sys.world).2 = .success) :
    sys.triggerSubnode callbacks name transition =
      { sys with
        subnodes := Function.update sys.subnodes name goal
        world := ((callbacks name).on transition sys.world).1 } := by
  have hnode : (Managed.mk (sys.subnodes name) sys.world).trigger (callbacks name) transition =
      ⟨goal, ((callbacks name).on transition sys.world).1⟩ := by
    apply Managed.trigger_of_success
    · rw [← hgoal, ← hstate]
    · rw [← hsuccess]
  unfold triggerSubnode
  rw [hnode]

theorem triggerAll_of_success (hgoal : state.goal transition = some goal)
    (names : List Subnode) (hnodup : names.Nodup)
    (hstate : ∀ name ∈ names, sys.subnodes name = state)
    (hsuccess : ∀ name world, ((callbacks name).on transition world).2 = .success) :
    triggerAll callbacks transition goal names sys =
      ({ sys with
        subnodes := fun name => if name ∈ names then goal else sys.subnodes name
        world := names.foldl (fun world name => ((callbacks name).on transition world).1)
          sys.world }, true) := by
  induction names generalizing sys with
  | nil => simp [triggerAll]
  | cons name names ih =>
      obtain ⟨hname, hnames⟩ := List.nodup_cons.mp hnodup
      have htrigger := triggerSubnode_of_success hgoal (hstate name List.mem_cons_self)
        (hsuccess name sys.world)
      unfold triggerAll
      simp only [htrigger, Function.update_self, ne_eq, not_true_eq_false, if_false,
        List.foldl_cons]
      rw [ih hnames]
      · simp only [Prod.mk.injEq, SystemData.mk.injEq, and_true]
        funext other
        by_cases hother : other = name
        · simp [hother, hname]
        · simp [hother]
      · intro other hother
        have hne : other ≠ name := fun heq => hname (heq ▸ hother)
        dsimp only
        rw [Function.update_of_ne hne]
        exact hstate other (List.mem_cons_of_mem _ hother)

theorem triggerAll_systemNodes (hgoal : state.goal transition = some goal)
    (hstate : ∀ name, sys.subnodes name = state)
    (hsuccess : ∀ name world, ((callbacks name).on transition world).2 = .success) :
    triggerAll callbacks transition goal systemNodes sys =
      ({ sys with
        subnodes := fun _ => goal
        world := systemNodes.foldl (fun world name =>
          ((callbacks name).on transition world).1) sys.world }, true) := by
  rw [triggerAll_of_success hgoal systemNodes systemNodes_nodup (fun name _ => hstate name)
    hsuccess]
  simp only [mem_systemNodes, if_true]

/-- Shutting down in error processing goes through the subnodes in the same way. -/
theorem foldl_triggerSubnode_eq (hgoal : state.goal transition = some goal)
    (names : List Subnode) (hnodup : names.Nodup)
    (hstate : ∀ name ∈ names, sys.subnodes name = state)
    (hsuccess : ∀ name world, ((callbacks name).on transition world).2 = .success) :
    names.foldl (fun sys name => sys.triggerSubnode callbacks name transition) sys =
      (triggerAll callbacks transition goal names sys).1 := by
  induction names generalizing sys with
  | nil => rfl
  | cons name names ih =>
      obtain ⟨hname, hnames⟩ := List.nodup_cons.mp hnodup
      have htrigger := triggerSubnode_of_success hgoal (hstate name List.mem_cons_self)
        (hsuccess name sys.world)
      have hreached : (sys.triggerSubnode callbacks name transition).subnodes name = goal := by
        rw [htrigger]
        exact Function.update_self _ _ _
      have hothers : ∀ other ∈ names,
          (sys.triggerSubnode callbacks name transition).subnodes other = state := by
        intro other hother
        have hne : other ≠ name := fun heq => hname (heq ▸ hother)
        rw [triggerSubnode_subnodes_of_ne _ _ hne]
        exact hstate other (List.mem_cons_of_mem _ hother)
      rw [List.foldl_cons, ih hnames hothers]
      simp only [triggerAll, hreached, ne_eq, not_true_eq_false, if_false]

theorem triggerSubnode_of_not_success {name : Subnode} {answer : CallbackReturn}
    (hgoal : state.goal transition = some goal) (hstate : sys.subnodes name = state)
    (hon : (callbacks name).on transition sys.world = (sys.world, answer))
    (herror : (callbacks name).onError sys.world = (sys.world, .success))
    (hanswer : answer ≠ .success) :
    sys.triggerSubnode callbacks name transition =
      { sys with
        subnodes := Function.update sys.subnodes name (state.onAnswer transition answer) } := by
  have hnode : (Managed.mk (sys.subnodes name) sys.world).trigger (callbacks name) transition =
      ⟨state.onAnswer transition answer, sys.world⟩ := by
    rw [Managed.trigger_of_goal (show (sys.subnodes name).goal transition = some goal by
      rw [← hgoal, ← hstate])]
    dsimp only
    rw [hon, hstate]
    cases answer with
    | success => exact absurd rfl hanswer
    | failure => rfl
    | error => exact Managed.settle_of_error herror
  unfold triggerSubnode
  rw [hnode]

theorem triggerSubnode_of_invalid {name : Subnode}
    (h : (sys.subnodes name).goal transition = none) :
    sys.triggerSubnode callbacks name transition = sys := by
  unfold triggerSubnode
  rw [Managed.trigger_of_invalid h]
  dsimp only
  rw [Function.update_eq_self]

/-- A transition that each subnode makes or not, leaving the world alone, gets as far as
the first one that does not. -/
theorem triggerAll_eq {answer : Subnode → CallbackReturn}
    (hgoal : state.goal transition = some goal)
    (hne : ∀ answer, state.onAnswer transition answer ≠ goal)
    (names : List Subnode) (hnodup : names.Nodup)
    (hstate : ∀ name ∈ names, sys.subnodes name = state)
    (hon : ∀ name, (callbacks name).on transition sys.world = (sys.world, answer name))
    (herror : ∀ name, (callbacks name).onError sys.world = (sys.world, .success)) :
    triggerAll callbacks transition goal names sys =
      ({ sys with
        subnodes := fun name =>
          if name ∈ names.takeWhile fun name => answer name = .success then goal
          else if names.find? (fun name => !decide (answer name = .success)) = some name then
            state.onAnswer transition (answer name)
          else sys.subnodes name },
        names.all fun name => answer name = .success) := by
  induction names generalizing sys with
  | nil => simp [triggerAll]
  | cons name names ih =>
      obtain ⟨hname, hnames⟩ := List.nodup_cons.mp hnodup
      have hthis := hstate name List.mem_cons_self
      by_cases hok : answer name = .success
      · have htrigger := triggerSubnode_of_success hgoal hthis
          ((congrArg Prod.snd (hon name)).trans hok)
        rw [hon] at htrigger
        unfold triggerAll
        simp only [htrigger, Function.update_self, ne_eq, not_true_eq_false, if_false]
        rw [ih hnames]
        · simp only [List.takeWhile_cons, List.find?_cons, List.all_cons, hok, decide_true,
            Bool.not_true, Bool.true_and, if_true, Prod.mk.injEq,
            SystemData.mk.injEq, and_true]
          funext other
          by_cases hother : other = name
          · have hfind : names.find? (fun name => !decide (answer name = .success)) ≠
                some name :=
              fun hfind => hname (List.mem_of_find?_eq_some hfind)
            simp [hother, hfind]
          · simp [hother]
        · intro other hother
          have hother' : other ≠ name := fun heq => hname (heq ▸ hother)
          dsimp only
          rw [Function.update_of_ne hother']
          exact hstate other (List.mem_cons_of_mem _ hother)
        · exact hon
        · exact herror
      · have htrigger := triggerSubnode_of_not_success hgoal hthis (hon name) (herror name) hok
        unfold triggerAll
        simp only [htrigger, Function.update_self, ne_eq, hne, not_false_eq_true, if_true]
        simp only [List.takeWhile_cons, List.find?_cons, List.all_cons, hok, decide_false,
          Bool.not_false, Bool.false_and, Prod.mk.injEq, SystemData.mk.injEq, and_true]
        funext other
        by_cases hother : other = name
        · simp [hother]
        · simp [hother, Ne.symm hother]

/-- A first subnode that cannot make the transition keeps every other one from it. -/
theorem triggerAll_of_invalid {name : Subnode} {names : List Subnode}
    (h : (sys.subnodes name).goal transition = none) (hne : sys.subnodes name ≠ goal) :
    triggerAll callbacks transition goal (name :: names) sys = (sys, false) := by
  unfold triggerAll
  simp only [triggerSubnode_of_invalid h]
  rw [if_pos hne]

section Cleanup

variable (hon : ∀ name world, (callbacks name).on .cleanup world = (world, .success))

include hon

theorem triggerSubnode_cleanup {name : Subnode}
    (hstate : sys.subnodes name = .inactive ∨ sys.subnodes name = .unconfigured) :
    sys.triggerSubnode callbacks name .cleanup =
      { sys with subnodes := Function.update sys.subnodes name .unconfigured } := by
  rcases hstate with hstate | hstate
  · have htrigger := triggerSubnode_of_success PrimaryState.goal_cleanup hstate
      (congrArg Prod.snd (hon name sys.world))
    rw [hon] at htrigger
    exact htrigger
  · rw [triggerSubnode_of_invalid (by rw [hstate]; rfl), ← hstate, Function.update_eq_self]

theorem triggerAll_cleanup (names : List Subnode)
    (hstate : ∀ name, sys.subnodes name = .inactive ∨ sys.subnodes name = .unconfigured) :
    triggerAll callbacks .cleanup .unconfigured names sys =
      ({ sys with
        subnodes := fun name => if name ∈ names then .unconfigured else sys.subnodes name },
        true) := by
  induction names generalizing sys with
  | nil => simp [triggerAll]
  | cons name names ih =>
      unfold triggerAll
      simp only [triggerSubnode_cleanup hon (hstate name), Function.update_self, ne_eq,
        not_true_eq_false, if_false]
      rw [ih]
      · simp only [Prod.mk.injEq, SystemData.mk.injEq, and_true]
        funext other
        by_cases hother : other = name
        · simp [hother]
        · simp [hother]
      · intro other
        by_cases hother : other = name
        · simp [hother]
        · simpa [hother] using hstate other

/-- Cleaning up the Inactive ones comes to the same. -/
theorem cleanupSubnodes_eq
    (hstate : ∀ name, sys.subnodes name = .inactive ∨ sys.subnodes name = .unconfigured) :
    sys.cleanupSubnodes callbacks = { sys with subnodes := fun _ => .unconfigured } := by
  have hfold : ∀ (names : List Subnode) (sys : SystemData W),
      (∀ name, sys.subnodes name = .inactive ∨ sys.subnodes name = .unconfigured) →
      names.foldl (fun sys name =>
        if sys.subnodes name = .inactive then sys.triggerSubnode callbacks name .cleanup
        else sys) sys = (triggerAll callbacks .cleanup .unconfigured names sys).1 := by
    intro names
    induction names with
    | nil => intro sys _; rfl
    | cons name names ih =>
        intro sys hstate
        have hthis : (if sys.subnodes name = .inactive then
            sys.triggerSubnode callbacks name .cleanup else sys) =
              sys.triggerSubnode callbacks name .cleanup := by
          split
          · rfl
          · rename_i hinactive
            have hunconfigured := (hstate name).resolve_left hinactive
            rw [triggerSubnode_of_invalid (by rw [hunconfigured]; rfl)]
        have hcleaned := triggerSubnode_cleanup hon (hstate name)
        rw [List.foldl_cons, hthis, hcleaned, ih]
        · simp only [triggerAll, hcleaned, Function.update_self, ne_eq, not_true_eq_false,
            if_false]
        · intro other
          by_cases hother : other = name
          · simp [hother]
          · simpa [hother] using hstate other
  unfold cleanupSubnodes
  rw [hfold _ _ hstate, triggerAll_cleanup hon _ hstate]
  simp only [mem_systemNodes, if_true]

end Cleanup

theorem subnodes_of_triggerAll (names : List Subnode) (hnodup : names.Nodup)
    (h : (triggerAll callbacks transition goal names sys).2 = true) (name : Subnode) :
    (triggerAll callbacks transition goal names sys).1.subnodes name =
      if name ∈ names then goal else sys.subnodes name := by
  induction names generalizing sys with
  | nil => simp [triggerAll]
  | cons first names ih =>
      obtain ⟨hfirst, hnames⟩ := List.nodup_cons.mp hnodup
      unfold triggerAll at h ⊢
      dsimp only at h ⊢
      split at h
      · contradiction
      · rename_i hreached
        rw [if_neg hreached, ih hnames h]
        by_cases hname : name = first
        · rw [hname, if_neg hfirst, if_pos List.mem_cons_self]
          exact not_not.mp hreached
        · rw [triggerSubnode_subnodes_of_ne _ _ hname]
          simp only [List.mem_cons, hname, false_or]

theorem onActivate_subnodes {onActivated : W → W}
    (h : (sys.onActivate callbacks onActivated).2 = .success) (name : Subnode) :
    (sys.onActivate callbacks onActivated).1.subnodes name = .active := by
  unfold onActivate at h ⊢
  dsimp only at h ⊢
  split at h
  · contradiction
  · rename_i hall
    rw [if_neg hall]
    have hall' : (triggerAll callbacks .activate .active systemNodes sys).2 = true := by
      simpa using hall
    change (triggerAll callbacks .activate .active systemNodes sys).1.subnodes name = .active
    rw [subnodes_of_triggerAll systemNodes systemNodes_nodup hall' name,
      if_pos (mem_systemNodes name)]

end Trigger

section OnConfigure

variable {callbacks : Subnode → Callbacks W} {hooks : SystemHooks W}
  {sys configured : SystemData W} {world : W} {valid ok : Bool}

theorem onConfigure_eq
    (hcheck : hooks.checkSystem (hooks.forwardDeprecated sys.world) = (world, valid))
    (hall : triggerAll callbacks .configure .inactive systemNodes { sys with world := world } =
      (configured, ok)) :
    sys.onConfigure callbacks hooks =
      if !valid then ({ sys with world := world }, .failure)
      else if !(ok && hooks.checkSubnodes configured.world) then
        (configured.cleanupSubnodes callbacks, .failure)
      else ({ configured with world := hooks.onConfigured configured.world }, .success) := by
  unfold onConfigure
  rw [hcheck]
  dsimp only
  rw [hall]
  cases valid with
  | false => rfl
  | true =>
      cases ok with
      | false => rfl
      | true => rfl

end OnConfigure

end SystemData

end EasyNav.SystemLifecycle
