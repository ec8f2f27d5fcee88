/-!
Managed nodes: the primary states of a lifecycle node, its transitions, and
where each result of a callback leaves the node. The node's own data is a
parameter, and so are the callbacks.
-/

namespace EasyNav.Lifecycle

universe u

inductive PrimaryState where
  | unconfigured
  | inactive
  | active
  | finalized
  deriving DecidableEq

inductive Transition where
  | configure
  | cleanup
  | activate
  | deactivate
  | shutdown
  deriving DecidableEq

inductive CallbackReturn where
  | success
  | failure
  | error
  deriving DecidableEq

/-- Where a transition that succeeds leads, if it is valid from the state. -/
def PrimaryState.goal : PrimaryState → Transition → Option PrimaryState
  | .unconfigured, .configure => some .inactive
  | .inactive, .cleanup => some .unconfigured
  | .inactive, .activate => some .active
  | .active, .deactivate => some .inactive
  | .unconfigured, .shutdown | .inactive, .shutdown | .active, .shutdown =>
      some .finalized
  | _, _ => none

@[simp] theorem PrimaryState.goal_configure :
    PrimaryState.unconfigured.goal .configure = some .inactive := rfl

@[simp] theorem PrimaryState.goal_activate :
    PrimaryState.inactive.goal .activate = some .active := rfl

@[simp] theorem PrimaryState.goal_deactivate :
    PrimaryState.active.goal .deactivate = some .inactive := rfl

@[simp] theorem PrimaryState.goal_cleanup :
    PrimaryState.inactive.goal .cleanup = some .unconfigured := rfl

@[simp] theorem PrimaryState.goal_shutdown :
    PrimaryState.inactive.goal .shutdown = some .finalized := rfl

/-- Where a callback that fails leaves the node: in its previous primary state,
unless it was shutting down. -/
def PrimaryState.onFailure (state : PrimaryState) : Transition → PrimaryState
  | .shutdown => .finalized
  | _ => state

/-- Where a callback that does not succeed leaves the node, if errors are processed. -/
def PrimaryState.onAnswer (state : PrimaryState) (transition : Transition) :
    CallbackReturn → PrimaryState
  | .error => .unconfigured
  | _ => state.onFailure transition

theorem PrimaryState.activate_of_goal {state : PrimaryState} {transition : Transition}
    (h : state.goal transition = some .active) : transition = .activate := by
  cases state <;> cases transition <;> first | rfl | cases h

/-- Only a cleanup leads back to where a node starts. -/
theorem PrimaryState.goal_ne_unconfigured {state goal : PrimaryState} {transition : Transition}
    (h : state.goal transition = some goal) (ht : transition ≠ .cleanup) :
    goal ≠ .unconfigured := by
  rintro rfl
  cases transition with
  | cleanup => exact ht rfl
  | _ => cases state <;> cases h

theorem PrimaryState.unconfigured_of_configure {state goal : PrimaryState}
    (h : state.goal .configure = some goal) : state = .unconfigured := by
  cases state <;> first | rfl | cases h

theorem PrimaryState.deactivate_of_onFailure {state goal : PrimaryState}
    {transition : Transition} (hgoal : state.goal transition = some goal)
    (h : state.onFailure transition = .active) :
    state = .active ∧ transition = .deactivate := by
  cases transition with
  | deactivate => exact ⟨h, rfl⟩
  | shutdown => cases h
  | configure =>
      obtain rfl : state = .active := h
      cases hgoal
  | cleanup =>
      obtain rfl : state = .active := h
      cases hgoal
  | activate =>
      obtain rfl : state = .active := h
      cases hgoal

/-- What the node does in each transition, and in error processing. -/
structure Callbacks (σ : Type u) where
  on : Transition → σ → σ × CallbackReturn
  onError : σ → σ × CallbackReturn

structure Managed (σ : Type u) where
  state : PrimaryState
  data : σ

namespace Managed

variable {σ : Type u}

/-- Where the result of a callback leaves the node; an error is processed first. -/
def settle (onError : σ → σ × CallbackReturn) (transition : Transition)
    (state goal : PrimaryState) : σ × CallbackReturn → Managed σ
  | (data, .success) => ⟨goal, data⟩
  | (data, .failure) => ⟨state.onFailure transition, data⟩
  | (data, .error) =>
      match onError data with
      | (data, .success) => ⟨.unconfigured, data⟩
      | (data, _) => ⟨.finalized, data⟩

/-- `trigger_transition`: a transition that is not valid does nothing. -/
def trigger (node : Managed σ) (callbacks : Callbacks σ) (transition : Transition) :
    Managed σ :=
  match node.state.goal transition with
  | none => node
  | some goal =>
      settle callbacks.onError transition node.state goal (callbacks.on transition node.data)

variable {node : Managed σ} {callbacks : Callbacks σ} {transition : Transition}

theorem trigger_of_invalid (h : node.state.goal transition = none) :
    node.trigger callbacks transition = node := by
  unfold trigger
  rw [h]

theorem trigger_of_goal {goal : PrimaryState} (h : node.state.goal transition = some goal) :
    node.trigger callbacks transition =
      settle callbacks.onError transition node.state goal
        (callbacks.on transition node.data) := by
  unfold trigger
  rw [h]

theorem trigger_of_success {goal : PrimaryState} {data : σ}
    (hgoal : node.state.goal transition = some goal)
    (hon : callbacks.on transition node.data = (data, .success)) :
    node.trigger callbacks transition = ⟨goal, data⟩ := by
  unfold trigger
  rw [hgoal, hon]
  rfl

theorem trigger_of_failure {goal : PrimaryState} {data : σ}
    (hgoal : node.state.goal transition = some goal)
    (hon : callbacks.on transition node.data = (data, .failure)) :
    node.trigger callbacks transition = ⟨node.state.onFailure transition, data⟩ := by
  unfold trigger
  rw [hgoal, hon]
  rfl

theorem trigger_of_ite {goal : PrimaryState} {done failed : σ} {p : Prop} [Decidable p]
    (hgoal : node.state.goal transition = some goal)
    (hon : callbacks.on transition node.data =
      if p then (done, .success) else (failed, .failure)) :
    node.trigger callbacks transition =
      if p then ⟨goal, done⟩ else ⟨node.state.onFailure transition, failed⟩ := by
  split
  · rename_i h
    rw [if_pos h] at hon
    exact trigger_of_success hgoal hon
  · rename_i h
    rw [if_neg h] at hon
    exact trigger_of_failure hgoal hon

theorem settle_of_error {onError : σ → σ × CallbackReturn} {state goal : PrimaryState}
    {data data' : σ} (h : onError data = (data', .success)) :
    settle onError transition state goal (data, .error) = ⟨.unconfigured, data'⟩ := by
  simp only [settle, h]

theorem trigger_data {motive : σ → Prop} (node : Managed σ)
    (hon : ∀ data, motive data → motive (callbacks.on transition data).1)
    (herror : ∀ data, motive data → motive (callbacks.onError data).1)
    (h : motive node.data) : motive (node.trigger callbacks transition).data := by
  cases hgoal : node.state.goal transition with
  | none =>
      rw [trigger_of_invalid hgoal]
      exact h
  | some goal =>
      have hdone := hon _ h
      rw [trigger_of_goal hgoal]
      generalize callbacks.on transition node.data = result at hdone ⊢
      obtain ⟨data, answer⟩ := result
      cases answer with
      | success => exact hdone
      | failure => exact hdone
      | error =>
          have hfinal := herror _ hdone
          rw [settle]
          split
          · rename_i heq
            rw [heq] at hfinal
            exact hfinal
          · rename_i heq
            rw [heq] at hfinal
            exact hfinal

/-- Where a transition can end: at its goal, back where it failed, or after an error. -/
theorem settle_cases (onError : σ → σ × CallbackReturn) (transition : Transition)
    (state goal : PrimaryState) (result : σ × CallbackReturn) :
    (result.2 = .success ∧ settle onError transition state goal result = ⟨goal, result.1⟩) ∨
      (result.2 = .failure ∧ settle onError transition state goal result =
        ⟨state.onFailure transition, result.1⟩) ∨
      (settle onError transition state goal result).state ≠ .active := by
  obtain ⟨data, answer⟩ := result
  cases answer with
  | success => exact Or.inl ⟨rfl, rfl⟩
  | failure => exact Or.inr (Or.inl ⟨rfl, rfl⟩)
  | error =>
      right
      right
      unfold settle
      dsimp only
      split
      · simp
      · simp

end Managed

end EasyNav.Lifecycle
