import EasyNav.Runs
import EasyNav.SystemLifecycle

namespace EasyNav.LifecycleAgreement

open EasyNav.Lifecycle
open EasyNav.SystemLifecycle
open EasyNav.SystemLifecycle.SystemData
open EasyNav.Runs

universe u

variable {W : Type u}

/-- A transition of the system node, with the transitions of subnodes that fail in it. -/
structure Attempt (W : Type u) where
  transition : Transition
  notShutdown : transition ≠ .shutdown
  refuses : Subnode → Transition → Bool
  effect : Subnode → Transition → W → W
  hooks : SystemHooks W

def Attempt.callbacks (attempt : Attempt W) (name : Subnode) : Callbacks W where
  on transition world :=
    (attempt.effect name transition world,
      if attempt.refuses name transition then .failure else .success)
  onError world := (world, .success)

def Attempt.on (attempt : Attempt W) (transition : Transition) (sys : SystemData W) :
    SystemData W × CallbackReturn :=
  (systemCallbacks attempt.callbacks attempt.hooks).on transition sys

def step (node : Managed (SystemData W)) (attempt : Attempt W) : Managed (SystemData W) :=
  node.trigger (systemCallbacks attempt.callbacks attempt.hooks) attempt.transition

def Start (node : Managed (SystemData W)) : Prop :=
  node.state = .unconfigured ∧ (∀ name, node.data.subnodes name = .unconfigured) ∧
    node.data.shutdownReason = none

def Fails (node : Managed (SystemData W)) (attempt : Attempt W) (transition : Transition) : Prop :=
  attempt.transition = transition ∧ node.state.goal transition ≠ none ∧
    (attempt.on transition node.data).2 = .failure

/-- No subnode refuses to be cleaned up while the system node is configured. -/
def CleansUp (past : List (Managed (SystemData W) × Attempt W)) : Prop :=
  ∀ p ∈ past, p.2.transition = .configure → ∀ name, p.2.refuses name .cleanup = false

/-- The system node and its subnodes agree after this transition. -/
structure AgreesAfter (earlier : List (Managed (SystemData W) × Attempt W))
    (node : Managed (SystemData W)) (attempt : Attempt W) : Prop where
  active : (step node attempt).state = .active →
    ∀ name, (step node attempt).data.subnodes name = .active
  configureFailed : Fails node attempt .configure → CleansUp ((node, attempt) :: earlier) →
    ∀ name, (step node attempt).data.subnodes name ≠ .inactive ∧
      (step node attempt).data.subnodes name ≠ .active
  activateFailed : Fails node attempt .activate →
    ∀ name, (step node attempt).data.subnodes name ≠ .active

/-- The subnode is in the state of the system node, and makes its transition. -/
def Makes (node : Managed (SystemData W)) (attempt : Attempt W) (name : Subnode) : Prop :=
  node.data.subnodes name = node.state ∧ attempt.refuses name attempt.transition = false

def Switches (node : Managed (SystemData W)) (attempt : Attempt W) : Prop :=
  attempt.transition = .activate ∧ node.state = .inactive ∨
    attempt.transition = .deactivate ∧ node.state = .active

/-- When a subnode is not activated or deactivated with the system node, the first one is
not either. -/
def FirstDecides (node : Managed (SystemData W)) (attempt : Attempt W) : Prop :=
  Switches node attempt → Makes node attempt .controllerNode → ∀ name, Makes node attempt name

section Subnodes

variable {attempt : Attempt W} {sys : SystemData W} {transition : Transition}
  {state goal : PrimaryState} {name : Subnode}

theorem goal_unique {state' goal' : PrimaryState} (h : state.goal transition = some goal)
    (h' : state'.goal transition = some goal') : goal' = goal := by
  cases transition with
  | configure | cleanup | activate | deactivate =>
      cases state <;> cases h
      cases state' <;> cases h'
      rfl
  | shutdown =>
      cases state <;> cases h
      all_goals
        cases state' <;> cases h'
        all_goals rfl

theorem state_unique {state' goal' : PrimaryState} (ht : transition ≠ .shutdown)
    (h : state.goal transition = some goal) (h' : state'.goal transition = some goal') :
    state = state' := by
  cases transition with
  | shutdown => exact absurd rfl ht
  | configure | cleanup | activate | deactivate =>
      cases state <;> cases h
      cases state' <;> cases h'
      rfl

theorem onFailure_of_not_shutdown (h : transition ≠ .shutdown) :
    state.onFailure transition = state := by
  cases transition with
  | shutdown => exact absurd rfl h
  | _ => rfl

theorem triggerSubnode_subnodes (ht : transition ≠ .shutdown) (name : Subnode) :
    (attempt.refuses name transition = false ∧
        ∃ goal, (sys.subnodes name).goal transition = some goal ∧
          (sys.triggerSubnode attempt.callbacks name transition).subnodes =
            Function.update sys.subnodes name goal) ∨
      ((sys.subnodes name).goal transition = none ∨ attempt.refuses name transition = true) ∧
        (sys.triggerSubnode attempt.callbacks name transition).subnodes = sys.subnodes := by
  cases hgoal : (sys.subnodes name).goal transition with
  | none =>
      right
      rw [triggerSubnode_of_invalid hgoal]
      exact ⟨Or.inl rfl, rfl⟩
  | some goal =>
      cases hrefuses : attempt.refuses name transition with
      | false =>
          left
          have hon : ((attempt.callbacks name).on transition sys.world).2 = .success := by
            simp only [Attempt.callbacks, hrefuses]
            rfl
          rw [triggerSubnode_of_success hgoal rfl hon]
          exact ⟨rfl, goal, rfl, rfl⟩
      | true =>
          right
          have hon : (attempt.callbacks name).on transition sys.world =
              (attempt.effect name transition sys.world, .failure) := by
            simp only [Attempt.callbacks, hrefuses, if_true]
          have hnode : (Managed.mk (sys.subnodes name) sys.world).trigger (attempt.callbacks name)
              transition = ⟨sys.subnodes name, attempt.effect name transition sys.world⟩ := by
            rw [Managed.trigger_of_failure hgoal hon, onFailure_of_not_shutdown ht]
          refine ⟨Or.inr rfl, ?_⟩
          rw [triggerSubnode]
          dsimp only
          rw [hnode, Function.update_eq_self]

theorem triggerAll_subnodes_of_not_mem {names : List Subnode} (h : name ∉ names) :
    (triggerAll attempt.callbacks transition goal names sys).1.subnodes name =
      sys.subnodes name := by
  induction names generalizing sys with
  | nil => rfl
  | cons first names ih =>
      obtain ⟨hfirst, hnames⟩ := not_or.mp (List.mem_cons.not.mp h)
      rw [triggerAll]
      split
      · exact triggerSubnode_subnodes_of_ne _ _ hfirst transition
      · rw [ih hnames]
        exact triggerSubnode_subnodes_of_ne _ _ hfirst transition

theorem triggerAll_shutdownReason (names : List Subnode) :
    (triggerAll attempt.callbacks transition goal names sys).1.shutdownReason =
      sys.shutdownReason := by
  induction names generalizing sys with
  | nil => rfl
  | cons first names ih =>
      rw [triggerAll]
      split
      · rfl
      · rw [ih]
        rfl

/-- Every subnode stays or gets where it should, whatever happens to the others. -/
theorem triggerAll_subnodes_cases (ht : transition ≠ .shutdown)
    (hgoal : state.goal transition = some goal) (names : List Subnode) (name : Subnode) :
    (triggerAll attempt.callbacks transition goal names sys).1.subnodes name =
        sys.subnodes name ∨
      (triggerAll attempt.callbacks transition goal names sys).1.subnodes name = goal := by
  induction names generalizing sys with
  | nil => exact Or.inl rfl
  | cons first names ih =>
      have hfirst : (sys.triggerSubnode attempt.callbacks first transition).subnodes name =
            sys.subnodes name ∨
          (sys.triggerSubnode attempt.callbacks first transition).subnodes name = goal := by
        rcases triggerSubnode_subnodes ht first with ⟨-, goal', hgoal', hmade⟩ | ⟨-, hstayed⟩
        · rw [hmade, ← goal_unique hgoal hgoal']
          by_cases hname : name = first
          · right
            rw [hname, Function.update_self]
          · left
            rw [Function.update_of_ne hname]
        · rw [hstayed]
          exact Or.inl rfl
      rw [triggerAll]
      split
      · exact hfirst
      · rcases @ih (sys.triggerSubnode attempt.callbacks first transition) with h | h
        · rw [h]
          exact hfirst
        · exact Or.inr h

theorem makes_of_triggerAll (ht : transition ≠ .shutdown) {names : List Subnode}
    (hnodup : names.Nodup)
    (hall : (triggerAll attempt.callbacks transition goal names sys).2 = true)
    (hname : name ∈ names) :
    sys.subnodes name = goal ∨
      (sys.subnodes name).goal transition = some goal ∧
        attempt.refuses name transition = false := by
  induction names generalizing sys with
  | nil => contradiction
  | cons first names ih =>
      obtain ⟨hfirst, hnames⟩ := List.nodup_cons.mp hnodup
      rw [triggerAll] at hall
      split at hall
      · contradiction
      · rename_i hreached
        have hreached := not_not.mp hreached
        rcases List.mem_cons.mp hname with rfl | hmem
        · rcases triggerSubnode_subnodes ht name with
            ⟨hrefuses, goal', hgoal', hmade⟩ | ⟨-, hstayed⟩
          · rw [hmade, Function.update_self] at hreached
            exact Or.inr ⟨hreached ▸ hgoal', hrefuses⟩
          · rw [hstayed] at hreached
            exact Or.inl hreached
        · have hne : name ≠ first := fun heq => hfirst (heq ▸ hmem)
          have h := ih hnames hall hmem
          rw [triggerSubnode_subnodes_of_ne _ _ hne] at h
          exact h

theorem triggerAll_of_refused {names : List Subnode} (ht : transition ≠ .shutdown)
    (hrefused : (sys.subnodes name).goal transition = none ∨
      attempt.refuses name transition = true)
    (hne : sys.subnodes name ≠ goal) :
    (triggerAll attempt.callbacks transition goal (name :: names) sys).1.subnodes =
        sys.subnodes ∧
      (triggerAll attempt.callbacks transition goal (name :: names) sys).2 = false := by
  have hstayed : (sys.triggerSubnode attempt.callbacks name transition).subnodes =
      sys.subnodes := by
    rcases triggerSubnode_subnodes ht name with ⟨hrefuses, goal', hgoal', -⟩ | ⟨-, hstayed⟩
    · rcases hrefused with h | h
      · rw [h] at hgoal'
        contradiction
      · rw [h] at hrefuses
        contradiction
    · exact hstayed
  have hreached : (sys.triggerSubnode attempt.callbacks name transition).subnodes name ≠ goal := by
    rw [hstayed]
    exact hne
  rw [triggerAll]
  rw [if_pos hreached]
  exact ⟨hstayed, rfl⟩

theorem triggerAll_first {names : List Subnode} (hname : name ∉ names)
    (ht : transition ≠ .shutdown) (hgoal : (sys.subnodes name).goal transition = some goal)
    (hrefuses : attempt.refuses name transition = false) :
    (triggerAll attempt.callbacks transition goal (name :: names) sys).1.subnodes name =
      goal := by
  have hreached : (sys.triggerSubnode attempt.callbacks name transition).subnodes name =
      goal := by
    rcases triggerSubnode_subnodes ht name with ⟨-, goal', hgoal', hmade⟩ | ⟨h | h, -⟩
    · rw [hmade, Function.update_self]
      exact goal_unique hgoal hgoal'
    · rw [h] at hgoal
      contradiction
    · rw [h] at hrefuses
      contradiction
  rw [triggerAll]
  rw [if_neg (not_not.mpr hreached), triggerAll_subnodes_of_not_mem hname, hreached]

theorem cleanupSubnode_subnodes (first name : Subnode) :
    (if sys.subnodes first = .inactive then
        sys.triggerSubnode attempt.callbacks first .cleanup
      else sys).subnodes name =
      if name = first ∧ sys.subnodes name = .inactive ∧ attempt.refuses name .cleanup = false then
        .unconfigured
      else sys.subnodes name := by
  by_cases hinactive : sys.subnodes first = .inactive
  · have hgoal : (sys.subnodes first).goal .cleanup = some .unconfigured := by
      rw [hinactive]
      rfl
    rw [if_pos hinactive]
    rcases @triggerSubnode_subnodes _ attempt sys .cleanup (by decide) first with
      ⟨hrefuses, goal', hgoal', hmade⟩ | ⟨hrefused, hstayed⟩
    · rw [hmade, ← goal_unique hgoal hgoal']
      by_cases hname : name = first
      · rw [hname, Function.update_self, if_pos ⟨rfl, hinactive, hrefuses⟩]
      · rw [Function.update_of_ne hname, if_neg (fun h => hname h.1)]
    · rw [hstayed, if_neg]
      rintro ⟨rfl, -, hrefuses⟩
      rcases hrefused with h | h
      · rw [h] at hgoal
        contradiction
      · rw [h] at hrefuses
        contradiction
  · rw [if_neg hinactive, if_neg]
    rintro ⟨rfl, h, -⟩
    exact hinactive h

theorem cleanupSubnodes_subnodes (attempt : Attempt W) (sys : SystemData W) (name : Subnode) :
    (sys.cleanupSubnodes attempt.callbacks).subnodes name =
      if sys.subnodes name = .inactive ∧ attempt.refuses name .cleanup = false then .unconfigured
      else sys.subnodes name := by
  have hfold : ∀ names : List Subnode, names.Nodup → ∀ sys : SystemData W,
      (names.foldl (fun sys name =>
          if sys.subnodes name = .inactive then
            sys.triggerSubnode attempt.callbacks name .cleanup
          else sys) sys).subnodes name =
        if name ∈ names ∧ sys.subnodes name = .inactive ∧ attempt.refuses name .cleanup = false
        then .unconfigured
        else sys.subnodes name := by
    intro names
    induction names with
    | nil =>
        intro _ sys
        simp
    | cons first names ih =>
        intro hnodup sys
        obtain ⟨hfirst, hnames⟩ := List.nodup_cons.mp hnodup
        rw [List.foldl_cons, ih hnames, cleanupSubnode_subnodes first name]
        by_cases hname : name = first
        · subst hname
          rw [if_neg (fun h => hfirst h.1)]
          simp
        · simp [hname]
  rw [cleanupSubnodes, hfold systemNodes systemNodes_nodup]
  simp [mem_systemNodes]

theorem cleanupSubnodes_shutdownReason (attempt : Attempt W) (sys : SystemData W) :
    (sys.cleanupSubnodes attempt.callbacks).shutdownReason = sys.shutdownReason := by
  have hfold : ∀ (names : List Subnode) (sys : SystemData W),
      (names.foldl (fun sys name =>
          if sys.subnodes name = .inactive then
            sys.triggerSubnode attempt.callbacks name .cleanup
          else sys) sys).shutdownReason = sys.shutdownReason := by
    intro names
    induction names with
    | nil =>
        intro sys
        rfl
    | cons first names ih =>
        intro sys
        rw [List.foldl_cons, ih]
        split
        · rfl
        · rfl
  exact hfold systemNodes sys

end Subnodes

section Callbacks

variable {attempt : Attempt W} {sys : SystemData W}

def NoneActive (sys : SystemData W) : Prop :=
  ∀ name, sys.subnodes name = .unconfigured ∨ sys.subnodes name = .inactive

theorem NoneActive.triggerAll (h : NoneActive sys) (attempt : Attempt W) {transition : Transition}
    {state goal : PrimaryState} (ht : transition ≠ .shutdown)
    (hgoal : state.goal transition = some goal) (hne : goal = .unconfigured ∨ goal = .inactive)
    (names : List Subnode) :
    NoneActive (SystemData.triggerAll attempt.callbacks transition goal names sys).1 := by
  intro name
  rcases @triggerAll_subnodes_cases _ attempt sys _ _ _ ht hgoal names name with
    hstayed | hreached
  · rw [hstayed]
    exact h name
  · rw [hreached]
    exact hne

theorem NoneActive.cleanupSubnodes (h : NoneActive sys) (attempt : Attempt W) :
    NoneActive (sys.cleanupSubnodes attempt.callbacks) := by
  intro name
  rw [cleanupSubnodes_subnodes]
  split
  · exact Or.inl rfl
  · exact h name

theorem cleanupSubnodes_unconfigured (h : NoneActive sys)
    (hcleans : ∀ name, attempt.refuses name .cleanup = false) (name : Subnode) :
    (sys.cleanupSubnodes attempt.callbacks).subnodes name = .unconfigured := by
  rw [cleanupSubnodes_subnodes]
  split
  · rfl
  · rename_i hkept
    rcases h name with hunconfigured | hinactive
    · exact hunconfigured
    · exact absurd ⟨hinactive, hcleans name⟩ hkept

theorem onConfigure_cases (attempt : Attempt W) (h : NoneActive sys) :
    ∃ sys', NoneActive sys' ∧ sys'.shutdownReason = sys.shutdownReason ∧
      (attempt.on .configure sys = (sys', .success) ∨
        attempt.on .configure sys = (sys', .failure) ∧
          ((∀ name, attempt.refuses name .cleanup = false) →
            (∀ name, sys.subnodes name = .unconfigured) →
              ∀ name, sys'.subnodes name = .unconfigured)) := by
  obtain ⟨world, valid, hcheck⟩ : ∃ world valid, attempt.hooks.checkSystem
      (attempt.hooks.forwardDeprecated sys.world) = (world, valid) := ⟨_, _, rfl⟩
  obtain ⟨configured, ok, hall⟩ : ∃ configured ok, SystemData.triggerAll attempt.callbacks
      .configure .inactive systemNodes { sys with world := world } = (configured, ok) :=
    ⟨_, _, rfl⟩
  have hworld : NoneActive { sys with world := world } := h
  have hnone := hworld.triggerAll attempt (by decide) PrimaryState.goal_configure (Or.inr rfl)
    systemNodes
  rw [hall] at hnone
  have hreason : (SystemData.triggerAll attempt.callbacks .configure .inactive systemNodes
      { sys with world := world }).1.shutdownReason = sys.shutdownReason :=
    triggerAll_shutdownReason systemNodes
  rw [hall] at hreason
  have hon : attempt.on .configure sys = sys.onConfigure attempt.callbacks attempt.hooks := rfl
  rw [hon, onConfigure_eq hcheck hall]
  split
  · exact ⟨_, hworld, rfl, Or.inr ⟨rfl, fun _ hall => hall⟩⟩
  · split
    · exact ⟨_, hnone.cleanupSubnodes attempt,
        (cleanupSubnodes_shutdownReason attempt configured).trans hreason,
        Or.inr ⟨rfl, fun hcleans _ => cleanupSubnodes_unconfigured hnone hcleans⟩⟩
    · refine ⟨{ configured with world := attempt.hooks.onConfigured configured.world }, hnone,
        hreason, Or.inl rfl⟩

/-- Cleaning up leaves no subnode Active, and every one Unconfigured if it succeeds. -/
theorem onCleanup_cases (attempt : Attempt W) (h : NoneActive sys) :
    ∃ sys', NoneActive sys' ∧ sys'.shutdownReason = sys.shutdownReason ∧
      (attempt.on .cleanup sys = (sys', .success) ∧
          (∀ name, sys'.subnodes name = .unconfigured) ∨
        attempt.on .cleanup sys = (sys', .failure)) := by
  have hnone := h.triggerAll attempt (by decide) PrimaryState.goal_cleanup (Or.inl rfl) systemNodes
  refine ⟨_, hnone, triggerAll_shutdownReason systemNodes, ?_⟩
  have hon : attempt.on .cleanup sys = sys.onCleanup attempt.callbacks := rfl
  rw [hon, onCleanup]
  dsimp only
  split
  · rename_i hall
    refine Or.inl ⟨rfl, ?_⟩
    intro name
    rw [subnodes_of_triggerAll systemNodes systemNodes_nodup hall name,
      if_pos (mem_systemNodes name)]
  · exact Or.inr rfl

/-- The subnode is in this state, and does not refuse to leave it. -/
def Follows (attempt : Attempt W) (sys : SystemData W) (state : PrimaryState)
    (transition : Transition) (name : Subnode) : Prop :=
  sys.subnodes name = state ∧ attempt.refuses name transition = false

/-- How the transition of all subnodes ends: made by all, stopped by the first one, or left
half done. -/
inductive Switched (attempt : Attempt W) (sys : SystemData W) (state goal : PrimaryState)
    (transition : Transition) (sys' : SystemData W) : Bool → Prop
  | all (hgoal : ∀ name, sys'.subnodes name = goal)
      (hfollows : ∀ name, Follows attempt sys state transition name) :
      Switched attempt sys state goal transition sys' true
  | none (hstayed : sys'.subnodes = sys.subnodes)
      (hfirst : ¬ Follows attempt sys state transition .controllerNode) :
      Switched attempt sys state goal transition sys' false
  | half (hgoal : sys'.subnodes .controllerNode = goal)
      (hfollows : ¬ ∀ name, Follows attempt sys state transition name)
      (hfirst : Follows attempt sys state transition .controllerNode) :
      Switched attempt sys state goal transition sys' false

theorem triggerAll_switched (attempt : Attempt W) {state goal : PrimaryState}
    {transition : Transition} (ht : transition ≠ .shutdown)
    (hgoal : state.goal transition = some goal)
    (hstate : ∀ name, sys.subnodes name ≠ goal ∧
      (sys.subnodes name = state ∨ (sys.subnodes name).goal transition = none)) :
    Switched attempt sys state goal transition
      (SystemData.triggerAll attempt.callbacks transition goal systemNodes sys).1
      (SystemData.triggerAll attempt.callbacks transition goal systemNodes sys).2 := by
  by_cases hfirst : Follows attempt sys state transition .controllerNode
  · have hreached : (SystemData.triggerAll attempt.callbacks transition goal systemNodes
        sys).1.subnodes .controllerNode = goal :=
      triggerAll_first (by decide) ht (by rw [hfirst.1, hgoal]) hfirst.2
    cases hall : (SystemData.triggerAll attempt.callbacks transition goal systemNodes sys).2 with
    | true =>
        refine .all ?_ ?_
        · intro name
          rw [subnodes_of_triggerAll systemNodes systemNodes_nodup hall name,
            if_pos (mem_systemNodes name)]
        · intro name
          obtain ⟨hne, hname⟩ := hstate name
          rcases makes_of_triggerAll ht systemNodes_nodup hall (mem_systemNodes name) with
            h | ⟨hmade, hrefuses⟩
          · exact absurd h hne
          · rcases hname with hname | hname
            · exact ⟨hname, hrefuses⟩
            · rw [hname] at hmade
              contradiction
    | false =>
        refine .half hreached ?_ hfirst
        intro hfollows
        have hon : ∀ name world, ((attempt.callbacks name).on transition world).2 = .success := by
          intro name world
          simp only [Attempt.callbacks, (hfollows name).2]
          rfl
        rw [triggerAll_systemNodes hgoal (fun name => (hfollows name).1) hon] at hall
        contradiction
  · have hrefused : (sys.subnodes .controllerNode).goal transition = Option.none ∨
        attempt.refuses .controllerNode transition = true := by
      rcases (hstate .controllerNode).2 with hname | hname
      · cases hrefuses : attempt.refuses .controllerNode transition with
        | true => exact Or.inr rfl
        | false => exact absurd ⟨hname, hrefuses⟩ hfirst
      · exact Or.inl hname
    obtain ⟨hstayed, hall⟩ : (SystemData.triggerAll attempt.callbacks transition goal systemNodes
          sys).1.subnodes = sys.subnodes ∧
        (SystemData.triggerAll attempt.callbacks transition goal systemNodes sys).2 = false :=
      triggerAll_of_refused ht hrefused (hstate .controllerNode).1
    rw [hall]
    exact .none hstayed hfirst

theorem onActivate_switched (attempt : Attempt W) (h : NoneActive sys) :
    ∃ sys' ok, sys'.shutdownReason = sys.shutdownReason ∧
      attempt.on .activate sys = (sys', if ok then .success else .failure) ∧
      Switched attempt sys .inactive .active .activate sys' ok := by
  have hstate : ∀ name, sys.subnodes name ≠ .active ∧
      (sys.subnodes name = .inactive ∨ (sys.subnodes name).goal .activate = none) := by
    intro name
    rcases h name with hname | hname
    · rw [hname]
      exact ⟨by decide, Or.inr rfl⟩
    · rw [hname]
      exact ⟨by decide, Or.inl rfl⟩
  have hswitched := triggerAll_switched attempt (by decide)
    PrimaryState.goal_activate hstate
  have hreason : (SystemData.triggerAll attempt.callbacks .activate .active systemNodes
      sys).1.shutdownReason = sys.shutdownReason := triggerAll_shutdownReason systemNodes
  have hon : attempt.on .activate sys =
    sys.onActivate attempt.callbacks attempt.hooks.onActivated := rfl
  rw [hon, onActivate]
  dsimp only
  cases hall : (SystemData.triggerAll attempt.callbacks .activate .active systemNodes sys).2 with
  | false =>
      rw [hall] at hswitched
      exact ⟨_, false, hreason, rfl, hswitched⟩
  | true =>
      rw [hall] at hswitched
      refine ⟨_, true, ?_, rfl, ?_⟩
      · exact hreason
      · cases hswitched with
        | all hgoal hfollows => exact .all hgoal hfollows

theorem onDeactivate_switched (attempt : Attempt W) (hreason : sys.shutdownReason = none)
    (h : ∀ name, sys.subnodes name = .active) :
    ∃ sys' ok, sys'.shutdownReason = none ∧
      attempt.on .deactivate sys = (sys', if ok then .success else .failure) ∧
      Switched attempt sys .active .inactive .deactivate sys' ok := by
  have hstate : ∀ name, (sys.stopCycles attempt.hooks.clearCmdVel).subnodes name ≠ .inactive ∧
      ((sys.stopCycles attempt.hooks.clearCmdVel).subnodes name = .active ∨
        ((sys.stopCycles attempt.hooks.clearCmdVel).subnodes name).goal .deactivate = none) := by
    intro name
    have hname : (sys.stopCycles attempt.hooks.clearCmdVel).subnodes name = .active := h name
    rw [hname]
    exact ⟨by decide, Or.inl rfl⟩
  have hswitched := triggerAll_switched attempt (by decide)
    PrimaryState.goal_deactivate hstate
  have hreason' : (SystemData.triggerAll attempt.callbacks .deactivate .inactive systemNodes
      (sys.stopCycles attempt.hooks.clearCmdVel)).1.shutdownReason = none :=
    (triggerAll_shutdownReason systemNodes).trans hreason
  have hon : attempt.on .deactivate sys =
    (sys.stopCycles attempt.hooks.clearCmdVel).deactivateSubnodes attempt.callbacks := rfl
  rw [hon, deactivateSubnodes]
  dsimp only
  rw [isShutdownRequested, hreason']
  cases hall : (SystemData.triggerAll attempt.callbacks .deactivate .inactive systemNodes
      (sys.stopCycles attempt.hooks.clearCmdVel)).2 with
  | false =>
      rw [hall] at hswitched
      refine ⟨_, false, hreason', rfl, ?_⟩
      cases hswitched with
      | none hstayed hfirst => exact .none hstayed hfirst
      | half hgoal hfollows hfirst => exact .half hgoal hfollows hfirst
  | true =>
      rw [hall] at hswitched
      refine ⟨_, true, ?_, rfl, ?_⟩
      · exact hreason'
      · cases hswitched with
        | all hgoal hfollows => exact .all hgoal hfollows

end Callbacks

section Steps

variable {node : Managed (SystemData W)} {attempt : Attempt W}

/-- The subnodes are Active with the system node, and none is Active without it. -/
structure Consistent (node : Managed (SystemData W)) : Prop where
  notShutdown : node.data.shutdownReason = none
  active : node.state = .active → ∀ name, node.data.subnodes name = .active
  noneActive : node.state ≠ .active → NoneActive node.data

/-- No subnode is left configured without the system node. -/
def Cleaned (node : Managed (SystemData W)) : Prop :=
  node.state = .unconfigured → ∀ name, node.data.subnodes name = .unconfigured

theorem step_of_invalid (h : node.state.goal attempt.transition = none) :
    step node attempt = node :=
  Managed.trigger_of_invalid h

theorem step_of_success {goal : PrimaryState} {sys : SystemData W}
    (hgoal : node.state.goal attempt.transition = some goal)
    (hon : attempt.on attempt.transition node.data = (sys, .success)) :
    step node attempt = ⟨goal, sys⟩ :=
  Managed.trigger_of_success hgoal hon

theorem step_of_failure {goal : PrimaryState} {sys : SystemData W}
    (hgoal : node.state.goal attempt.transition = some goal)
    (hon : attempt.on attempt.transition node.data = (sys, .failure)) :
    step node attempt = ⟨node.state, sys⟩ := by
  have hstep : step node attempt = ⟨node.state.onFailure attempt.transition, sys⟩ :=
    Managed.trigger_of_failure hgoal hon
  rw [hstep, onFailure_of_not_shutdown attempt.notShutdown]

theorem consistent_of_noneActive {state : PrimaryState} {sys : SystemData W}
    (hstate : state ≠ .active) (hreason : sys.shutdownReason = none) (h : NoneActive sys) :
    Consistent ⟨state, sys⟩ :=
  ⟨hreason, fun hactive => absurd hactive hstate, fun _ => h⟩

theorem configure_consistent (h : Consistent node) (hstate : node.state = .unconfigured)
    (ht : attempt.transition = .configure) :
    Consistent (step node attempt) ∧
      ((∀ name, attempt.refuses name .cleanup = false) → Cleaned node →
        Cleaned (step node attempt)) := by
  have hgoal : node.state.goal attempt.transition = some .inactive := by
    rw [hstate, ht]
    rfl
  obtain ⟨sys, hnone, hreason, hon | ⟨hon, hcleaned⟩⟩ :=
    onConfigure_cases attempt (h.noneActive (by rw [hstate]; decide))
  · rw [← ht] at hon
    rw [step_of_success hgoal hon]
    refine ⟨consistent_of_noneActive (by decide) (hreason.trans h.notShutdown) hnone, ?_⟩
    intro _ _ hunconfigured
    contradiction
  · rw [← ht] at hon
    rw [step_of_failure hgoal hon]
    refine ⟨consistent_of_noneActive (by rw [hstate]; decide) (hreason.trans h.notShutdown)
      hnone, ?_⟩
    intro hcleans hnode hunconfigured
    exact hcleaned hcleans (hnode hunconfigured)

theorem cleanup_consistent (h : Consistent node) (hstate : node.state = .inactive)
    (ht : attempt.transition = .cleanup) :
    Consistent (step node attempt) ∧ Cleaned (step node attempt) := by
  have hgoal : node.state.goal attempt.transition = some .unconfigured := by
    rw [hstate, ht]
    rfl
  obtain ⟨sys, hnone, hreason, ⟨hon, hcleaned⟩ | hon⟩ :=
    onCleanup_cases attempt (h.noneActive (by rw [hstate]; decide))
  · rw [← ht] at hon
    rw [step_of_success hgoal hon]
    exact ⟨consistent_of_noneActive (by decide) (hreason.trans h.notShutdown) hnone,
      fun _ => hcleaned⟩
  · rw [← ht] at hon
    rw [step_of_failure hgoal hon]
    refine ⟨consistent_of_noneActive (by rw [hstate]; decide) (hreason.trans h.notShutdown)
      hnone, ?_⟩
    intro hunconfigured
    rw [hstate] at hunconfigured
    contradiction

theorem firstDecides_iff {state : PrimaryState} {transition : Transition}
    (hstate : node.state = state) (ht : attempt.transition = transition)
    (hswitches : Switches node attempt) :
    FirstDecides node attempt ↔
      (Follows attempt node.data state transition .controllerNode →
        ∀ name, Follows attempt node.data state transition name) := by
  have hmakes : ∀ name, Makes node attempt name ↔
      Follows attempt node.data state transition name := by
    intro name
    rw [Follows, Makes, hstate, ht]
  rw [FirstDecides]
  simp only [hmakes, hswitches, true_implies]

theorem activate_consistent (h : Consistent node) (hstate : node.state = .inactive)
    (ht : attempt.transition = .activate) :
    (FirstDecides node attempt ∧ Consistent (step node attempt) ∧
        (step node attempt).state ≠ .unconfigured) ∨
      ¬ FirstDecides node attempt ∧ Fails node attempt .activate ∧
        (step node attempt).data.subnodes .controllerNode = .active := by
  have hgoal : node.state.goal attempt.transition = some .active := by
    rw [hstate, ht]
    rfl
  have hdecides := firstDecides_iff hstate ht (Or.inl ⟨ht, hstate⟩)
  have hnone := h.noneActive (by rw [hstate]; decide)
  obtain ⟨sys, ok, hreason, hon, hswitched⟩ := onActivate_switched attempt hnone
  have hreason := hreason.trans h.notShutdown
  cases hswitched with
  | all hall hfollows =>
      have hstep := step_of_success hgoal (ht ▸ hon)
      left
      rw [hstep]
      refine ⟨hdecides.mpr fun _ => hfollows, ⟨hreason, fun _ => hall, ?_⟩, by simp⟩
      exact fun hne => absurd rfl hne
  | none hstayed hfirst =>
      have hstep := step_of_failure hgoal (ht ▸ hon)
      have hnone' : NoneActive sys := by
        rw [NoneActive, hstayed]
        exact hnone
      left
      rw [hstep, hstate]
      exact ⟨hdecides.mpr fun hfollows => absurd hfollows hfirst,
        consistent_of_noneActive (by decide) hreason hnone', by decide⟩
  | half hreached hfollows hfirst =>
      have hstep := step_of_failure hgoal (ht ▸ hon)
      right
      rw [hstep]
      refine ⟨fun h => hfollows (hdecides.mp h hfirst), ⟨ht, ?_, ?_⟩, hreached⟩
      · rw [← ht, hgoal]
        exact Option.some_ne_none _
      · rw [hon]
        rfl

theorem deactivate_consistent (h : Consistent node) (hstate : node.state = .active)
    (ht : attempt.transition = .deactivate) :
    (FirstDecides node attempt ∧ Consistent (step node attempt) ∧
        (step node attempt).state ≠ .unconfigured) ∨
      ¬ FirstDecides node attempt ∧ (step node attempt).state = .active ∧
        (step node attempt).data.subnodes .controllerNode = .inactive := by
  have hgoal : node.state.goal attempt.transition = some .inactive := by
    rw [hstate, ht]
    rfl
  have hdecides := firstDecides_iff hstate ht (Or.inr ⟨ht, hstate⟩)
  obtain ⟨sys, ok, hreason, hon, hswitched⟩ :=
    onDeactivate_switched attempt h.notShutdown (h.active hstate)
  cases hswitched with
  | all hall hfollows =>
      have hstep := step_of_success hgoal (ht ▸ hon)
      left
      rw [hstep]
      exact ⟨hdecides.mpr fun _ => hfollows,
        consistent_of_noneActive (by decide) hreason (fun name => Or.inr (hall name)), by simp⟩
  | none hstayed hfirst =>
      have hstep := step_of_failure hgoal (ht ▸ hon)
      left
      rw [hstep, hstate]
      refine ⟨hdecides.mpr fun hfollows => absurd hfollows hfirst,
        ⟨hreason, ?_, fun hne => absurd rfl hne⟩, by decide⟩
      intro _ name
      rw [hstayed]
      exact h.active hstate name
  | half hreached hfollows hfirst =>
      have hstep := step_of_failure hgoal (ht ▸ hon)
      right
      rw [hstep]
      exact ⟨fun h => hfollows (hdecides.mp h hfirst), hstate, hreached⟩

/-- What one transition does to a system that is consistent: it stays so, or the condition
fails and the disagreement shows. -/
theorem step_consistent (h : Consistent node) (attempt : Attempt W) :
    (FirstDecides node attempt ∧ Consistent (step node attempt) ∧
        ((attempt.transition = .configure → ∀ name, attempt.refuses name .cleanup = false) →
          Cleaned node → Cleaned (step node attempt))) ∨
      ¬ FirstDecides node attempt ∧ ∀ earlier, ¬ AgreesAfter earlier node attempt := by
  have hother : ¬ Switches node attempt → FirstDecides node attempt :=
    fun hswitches h => absurd h hswitches
  cases hgoal : node.state.goal attempt.transition with
  | none =>
      have hswitches : ¬ Switches node attempt := by
        rintro (⟨ht, hstate⟩ | ⟨ht, hstate⟩)
        · rw [ht, hstate] at hgoal
          contradiction
        · rw [ht, hstate] at hgoal
          contradiction
      left
      rw [step_of_invalid hgoal]
      exact ⟨hother hswitches, h, fun _ hcleaned => hcleaned⟩
  | some goal =>
      cases ht : attempt.transition with
      | shutdown => exact absurd ht attempt.notShutdown
      | configure =>
          have hstate := state_unique attempt.notShutdown hgoal (ht ▸ PrimaryState.goal_configure)
          have hswitches : ¬ Switches node attempt := by
            rw [Switches, ht]
            simp
          obtain ⟨hconsistent, hcleaned⟩ := configure_consistent h hstate ht
          exact Or.inl ⟨hother hswitches, hconsistent, fun hcleans => hcleaned (hcleans rfl)⟩
      | cleanup =>
          have hstate := state_unique attempt.notShutdown hgoal (ht ▸ PrimaryState.goal_cleanup)
          have hswitches : ¬ Switches node attempt := by
            rw [Switches, ht]
            simp
          obtain ⟨hconsistent, hcleaned⟩ := cleanup_consistent h hstate ht
          exact Or.inl ⟨hother hswitches, hconsistent, fun _ _ => hcleaned⟩
      | activate =>
          have hstate := state_unique attempt.notShutdown hgoal (ht ▸ PrimaryState.goal_activate)
          rcases activate_consistent h hstate ht with ⟨hdecides, hconsistent, hne⟩ |
            ⟨hdecides, hfails, hactive⟩
          · exact Or.inl ⟨hdecides, hconsistent, fun _ _ hunconfigured => absurd hunconfigured hne⟩
          · exact Or.inr ⟨hdecides, fun _ hagrees => hagrees.activateFailed hfails _ hactive⟩
      | deactivate =>
          have hstate := state_unique attempt.notShutdown hgoal (ht ▸ PrimaryState.goal_deactivate)
          rcases deactivate_consistent h hstate ht with ⟨hdecides, hconsistent, hne⟩ |
            ⟨hdecides, hactive, hinactive⟩
          · exact Or.inl ⟨hdecides, hconsistent, fun _ _ hunconfigured => absurd hunconfigured hne⟩
          · refine Or.inr ⟨hdecides, fun _ hagrees => ?_⟩
            have hall := hagrees.active hactive .controllerNode
            rw [hinactive] at hall
            contradiction

theorem step_of_fails {transition : Transition} (h : Fails node attempt transition) :
    (step node attempt).state = node.state := by
  obtain ⟨ht, hvalid, hfailed⟩ := h
  obtain ⟨goal, hgoal⟩ := Option.ne_none_iff_exists'.mp hvalid
  rw [← ht] at hgoal hfailed
  have hon : attempt.on attempt.transition node.data =
      ((attempt.on attempt.transition node.data).1, .failure) := by rw [← hfailed]
  rw [step_of_failure hgoal hon]

end Steps

section Runs

variable {node : Managed (SystemData W)} {past : List (Managed (SystemData W) × Attempt W)}

/-- What is known of a system whose transitions have all met the condition. -/
structure Known (node : Managed (SystemData W))
    (past : List (Managed (SystemData W) × Attempt W)) : Prop where
  consistent : Consistent node
  cleaned : CleansUp past → Cleaned node

theorem start_known (h : Start node) : Known node [] := by
  obtain ⟨hstate, hsubnodes, hreason⟩ := h
  refine ⟨⟨hreason, ?_, fun _ name => Or.inl (hsubnodes name)⟩, fun _ _ => hsubnodes⟩
  intro hactive
  rw [hstate] at hactive
  contradiction

theorem step_known (h : Known node past) {attempt : Attempt W}
    (hdecides : FirstDecides node attempt) :
    Known (step node attempt) ((node, attempt) :: past) := by
  rcases step_consistent h.consistent attempt with ⟨-, hconsistent, hcleaned⟩ | ⟨hne, -⟩
  · refine ⟨hconsistent, ?_⟩
    intro hcleans
    have hpast : CleansUp past := fun p hp => hcleans p (List.mem_cons_of_mem _ hp)
    exact hcleaned (hcleans _ List.mem_cons_self) (h.cleaned hpast)
  · exact absurd hdecides hne

theorem agreesAfter_of_known (h : Known node past) {attempt : Attempt W}
    (hdecides : FirstDecides node attempt) : AgreesAfter past node attempt := by
  have hknown := step_known h hdecides
  refine ⟨hknown.consistent.active, ?_, ?_⟩
  · intro hfails hcleans name
    have hstate : (step node attempt).state = .unconfigured := by
      obtain ⟨goal, hgoal⟩ := Option.ne_none_iff_exists'.mp hfails.2.1
      rw [step_of_fails hfails]
      exact state_unique (by decide) hgoal PrimaryState.goal_configure
    rw [hknown.cleaned hcleans hstate name]
    exact ⟨by decide, by decide⟩
  · intro hfails name hactive
    have hstate : (step node attempt).state = .inactive := by
      obtain ⟨goal, hgoal⟩ := Option.ne_none_iff_exists'.mp hfails.2.1
      rw [step_of_fails hfails]
      exact state_unique (by decide) hgoal PrimaryState.goal_activate
    rcases hknown.consistent.noneActive (by rw [hstate]; decide) name with hname | hname
    · rw [hname] at hactive
      contradiction
    · rw [hname] at hactive
      contradiction

theorem run_known (hrun : Run step Start node past)
    (hall : ∀ p ∈ past, FirstDecides p.1 p.2) : Known node past := by
  induction hrun with
  | init h => exact start_known h
  | next hrun attempt ih =>
      have hlast := hall _ List.mem_cons_self
      exact step_known (ih fun p hp => hall p (List.mem_cons_of_mem _ hp)) hlast

/-- The system node and its subnodes agree after every transition of a run exactly if no
activation and no deactivation stops at a subnode that is not the first one. -/
theorem agreement_iff (hrun : Run step Start node past) :
    (∀ p earlier, p :: earlier <:+ past → AgreesAfter earlier p.1 p.2) ↔
      ∀ p ∈ past, FirstDecides p.1 p.2 := by
  induction hrun with
  | init h =>
      constructor
      · intro _ p hp
        contradiction
      · intro _ p earlier hsuffix
        exact absurd (List.suffix_nil.mp hsuffix) (List.cons_ne_nil _ _)
  | @next node past hrun attempt ih =>
      constructor
      · intro hagrees p hp
        have hpast := ih.mp fun p earlier hsuffix =>
          hagrees p earlier (hsuffix.trans (List.suffix_cons _ _))
        rcases List.mem_cons.mp hp with rfl | hp
        · rcases step_consistent (run_known hrun hpast).consistent attempt with
            ⟨hdecides, -⟩ | ⟨-, hdisagree⟩
          · exact hdecides
          · exact absurd (hagrees _ _ (List.suffix_refl _)) (hdisagree past)
        · exact hpast p hp
      · intro hall p earlier hsuffix
        have hpast : ∀ p ∈ past, FirstDecides p.1 p.2 :=
          fun p hp => hall p (List.mem_cons_of_mem _ hp)
        rcases List.suffix_cons_iff.mp hsuffix with heq | hsuffix
        · obtain ⟨rfl, rfl⟩ := List.cons.inj heq
          exact agreesAfter_of_known (run_known hrun hpast) (hall _ List.mem_cons_self)
        · exact ih.mpr hpast p earlier hsuffix

def unconfigured : Managed (SystemData Unit) where
  state := .unconfigured
  data :=
    { subnodes := fun _ => .unconfigured, active := false, shutdownReason := none, world := () }

def refusedBy (refusing : List Subnode) (transition : Transition) (h : transition ≠ .shutdown) :
    Attempt Unit where
  transition := transition
  notShutdown := h
  refuses name _ := decide (name ∈ refusing)
  effect _ _ world := world
  hooks :=
    { forwardDeprecated := id
      checkSystem := fun world => (world, true)
      checkSubnodes := fun _ => true
      onConfigured := id
      onActivated := id
      clearCmdVel := id }

def configured : Managed (SystemData Unit) :=
  step unconfigured (refusedBy [] .configure (by decide))

theorem configured_run :
    Run step Start configured [(unconfigured, refusedBy [] .configure (by decide))] :=
  (Run.init ⟨rfl, fun _ => rfl, rfl⟩).next _

/-- The first subnode refuses to be activated: nothing is. -/
theorem agreement_iff_first_refuses :
    AgreesAfter [(unconfigured, refusedBy [] .configure (by decide))] configured
      (refusedBy [.controllerNode] .activate (by decide)) := by
  have hrun := configured_run.next (refusedBy [.controllerNode] .activate (by decide))
  refine (agreement_iff hrun).mpr ?_ _ _ (List.suffix_refl _)
  intro p hp
  rcases List.mem_cons.mp hp with rfl | hp
  · rintro - ⟨-, hrefuses⟩
    exact absurd hrefuses (by decide)
  · rw [List.mem_singleton.mp hp]
    rintro (⟨ht, -⟩ | ⟨ht, -⟩)
    · exact absurd ht (by decide)
    · exact absurd ht (by decide)

/-- The last subnode refuses to be activated: the first one is left Active. -/
theorem not_agreement_last_refuses :
    ∃ past, Run step Start configured past ∧
      Fails configured (refusedBy [.sensorsNode] .activate (by decide)) .activate ∧
      (step configured (refusedBy [.sensorsNode] .activate (by decide))).state = .inactive ∧
      (step configured (refusedBy [.sensorsNode] .activate (by decide))).data.subnodes
        .controllerNode = .active :=
  ⟨_, configured_run, ⟨rfl, by decide, by decide⟩, by decide, by decide⟩

end Runs

end EasyNav.LifecycleAgreement
